/-!
# Pieces of a text

A text whose parts are separated by marks is taken apart at all of them, or at the first one only.
-/

namespace ChainFeed.Text

/-- The pieces of a list of characters between those that `separates` holds of. -/
def pieces (separates : Char → Bool) : List Char → List (List Char)
  | [] => [[]]
  | c :: rest =>
    if separates c then [] :: pieces separates rest
    else
      match pieces separates rest with
      | [] => [[c]]
      | piece :: others => (c :: piece) :: others

/-- The characters up to the first one that is `mark`, and those behind it, if there is one. -/
def cut (mark : Char) (cs : List Char) : List Char × Option (List Char) :=
  match cs.dropWhile (· ≠ mark) with
  | [] => (cs, none)
  | _ :: rest => (cs.takeWhile (· ≠ mark), some rest)

/-- The characters before and behind the last one that is `mark`, if there is one. -/
def cutLast (mark : Char) (cs : List Char) : Option (List Char × List Char) :=
  match cut mark cs.reverse with
  | (_, none) => none
  | (behind, some before) => some (before.reverse, behind.reverse)

end ChainFeed.Text
