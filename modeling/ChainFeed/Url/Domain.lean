import ChainFeed.Text.Composition
import ChainFeed.Text.Direction
import ChainFeed.Text.Joining
import ChainFeed.Url.Domain.Images
import ChainFeed.Url.Punycode

/-!
# Domains

A **domain** is a list of labels with points between them. What people write is brought into one
form: every character gives way to its image, and what is left is composed. A label with characters
beyond ASCII is then written in ASCII behind a mark; a label that bears the mark already must be
the written form of such a label. No label may start with a mark that combines with nothing, hold a
joiner that means nothing, or leave in doubt in which direction it runs.
-/

namespace ChainFeed.Url.Domain

/-- Whether a character may not stand in any host. -/
def isForbiddenInHost (c : Char) : Bool :=
  ['\x00', '\t', '\n', '\r', ' ', '#', '/', ':', '<', '>', '?', '@', '[', '\\', ']', '^',
    '|'].contains c

/-- Whether a character may not stand in a domain. -/
def isForbidden (c : Char) : Bool :=
  isForbiddenInHost c || c == '%' || c.toNat < 0x20 || c.toNat == 0x7F

/-- A label of a domain. -/
structure Label where
  /-- How the label is written in ASCII. -/
  ascii : List Char
  /-- The characters that the label means. -/
  chars : List Char
  deriving DecidableEq, Repr

namespace Label

/-- What stands in front of a label that writes characters beyond ASCII. -/
def escapeMark : List Char := ['x', 'n', '-', '-']

/-- How many characters a label with characters beyond ASCII may have. -/
def longest : Nat := 1000

/-- How many characters may follow the mark of a label. -/
def longestEscaped : Nat := 2000

/-- Whether all characters are ASCII. -/
def isAscii (cs : List Char) : Bool := cs.all (·.toNat < 128)

/-- The characters that a label means by the characters behind its mark: some of them are beyond
ASCII, and all of them are in the form that they would be brought into. -/
def meant? (escaped : List Char) : Option (List Char) :=
  if !isAscii escaped || longestEscaped < escaped.length then none
  else if !escaped.getLast?.any (· ≠ '-') then none
  else
    (Punycode.decode? escaped).filter fun chars =>
      chars.all isPlain && Text.composed chars == chars

/-- The label of composed characters. -/
def ofChars? (cs : List Char) : Option Label :=
  if escapeMark.isPrefixOf cs then (meant? (cs.drop escapeMark.length)).map fun chars => ⟨cs, chars⟩
  else if isAscii cs then some ⟨cs, cs⟩
  else if longest < cs.length then none
  else some ⟨escapeMark ++ Punycode.encode cs, cs⟩

/-- Whether a label may stand in a domain, taken by itself. -/
def isSound (label : Label) : Bool :=
  !label.chars.any isForbidden && !label.chars.head?.any Text.isMark &&
    Text.joinersMean label.chars

/-- The directions of a label's characters. -/
def directions (label : Label) : List Text.Direction :=
  label.chars.map Text.direction

end Label

/-- Whether it is clear in which direction each label runs. Only where something turns the direction
of the text can that be in doubt. -/
def isOrdered (labels : List Label) : Bool :=
  let directions := labels.map Label.directions
  !directions.any (·.any Text.Direction.turns) || directions.all Text.Direction.areOrdered

/-- The labels of a domain. -/
def labels? (cs : List Char) : Option (List Label) := do
  let images ← cs.mapM image?
  let labels ← (Text.pieces (· = '.') (Text.composed images.flatten)).mapM Label.ofChars?
  if labels.all Label.isSound && isOrdered labels then some labels else none

/-- A domain in ASCII. -/
def ascii? (cs : List Char) : Option (List Char) :=
  (labels? cs).map fun labels => ['.'].intercalate (labels.map Label.ascii)

end ChainFeed.Url.Domain
