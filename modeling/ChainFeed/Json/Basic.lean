import ChainFeed.Json.Number

/-!
# JSON values

A value of free form, as events and arguments carry it. A record keeps its fields in a list; the
records that reading makes are **sorted**: their keys increase and none occurs twice, so a sorted
record is determined by what its keys hold.
-/

namespace ChainFeed

/-- A JSON value. -/
inductive Json where
  /-- The null value. -/
  | null
  /-- A truth value. -/
  | bool (b : Bool)
  /-- A number. -/
  | number (n : JsonNumber)
  /-- A text. -/
  | text (s : String)
  /-- A list of values. -/
  | list (items : List Json)
  /-- A record of named values. -/
  | record (fields : List (String × Json))
  deriving Repr, Inhabited

namespace Json

/-- A natural number as a value. -/
def nat (n : Nat) : Json := number (.natural n)

/-- A text if there is one, and null otherwise. -/
def textOrNull (s : Option String) : Json := (s.map text).getD null

/-- A list of texts. -/
def texts (ss : List String) : Json := list (ss.map text)

/-- The value of the first field called `name`, if the value is a record that has one. -/
def field? (name : String) : Json → Option Json
  | record fields => fields.lookup name
  | _ => none

/-- The text, if the value is one. -/
def text? : Json → Option String
  | text s => some s
  | _ => none

/-- The items, if the value is a list. -/
def items? : Json → Option (List Json)
  | list items => some items
  | _ => none

/-- The items of a list, and none of any other value. -/
def itemsOrNone (value : Json) : List Json := value.items?.getD []

/-! ### Sameness -/

mutual

/-- Whether two values are the same, item by item and field by field in order. -/
def same : Json → Json → Bool
  | null, null => true
  | bool a, bool b => a == b
  | number a, number b => a.same b
  | text a, text b => a == b
  | list xs, list ys => sameItems xs ys
  | record fs, record gs => sameFields fs gs
  | _, _ => false

/-- Whether two lists hold the same values in order. -/
def sameItems : List Json → List Json → Bool
  | [], [] => true
  | x :: xs, y :: ys => same x y && sameItems xs ys
  | _, _ => false

/-- Whether two lists of fields have the same names and values in order. -/
def sameFields : List (String × Json) → List (String × Json) → Bool
  | [], [] => true
  | (a, x) :: fs, (b, y) :: gs => a == b && same x y && sameFields fs gs
  | _, _ => false

end

instance : BEq Json := ⟨same⟩

/-! ### Sorted records -/

/-- The sorted fields with `name` set to `value`. -/
def setField (name : String) (value : Json) : List (String × Json) → List (String × Json)
  | [] => [(name, value)]
  | (other, x) :: rest =>
    if name = other then (name, value) :: rest
    else if name < other then (name, value) :: (other, x) :: rest
    else (other, x) :: setField name value rest

/-- The sorted record of the fields; of two fields with one name the later one counts. -/
def sorted (fields : List (String × Json)) : Json :=
  record (fields.foldl (fun sorted field => setField field.1 field.2 sorted) [])

end Json

end ChainFeed
