import ChainFeed.Json.Doc

/-!
# Readers

A **reader** takes a document for a value of its type, or refuses it. Records are read through their
**slots**: a record names its fields in any order, passes over names it does not know and refuses a
known name that occurs twice; a record without further parts may also be written as the list of its
fields in order, where only trailing fields may be left out.
-/

namespace ChainFeed

/-- Takes a document for a value, or refuses it. -/
abbrev Reader (α : Type) := Doc → Option α

/-- What a record says about one of its fields. -/
inductive Slot where
  /-- The field is given. -/
  | given (d : Doc)
  /-- The record does not name the field. -/
  | missing
  /-- The list of fields ends before the field. -/
  | cut

namespace Slot

/-- The value of a field that must be given. -/
def required {α : Type} (read : Reader α) : Slot → Option α
  | given d => read d
  | _ => none

/-- The value of a field that may be null, and that a record need not name. -/
def optional {α : Type} (read : Reader α) : Slot → Option (Option α)
  | given .null => some none
  | given d => (read d).map some
  | missing => some none
  | cut => none

/-- The value of a field that may be left out and then has a value of its own. -/
def orElse {α : Type} (read : Reader α) (default : α) : Slot → Option α
  | given d => read d
  | _ => some default

/-- The value of a field that may be null or left out. -/
def orNull {α : Type} (read : Reader α) : Slot → Option (Option α)
  | given .null => some none
  | given d => (read d).map some
  | _ => some none

end Slot

namespace Doc

/-! ### Readers of plain values -/

/-- Reads a value of free form. -/
def readValue : Reader Json := value?

/-- Reads a truth value. -/
def readBool : Reader Bool
  | bool b => some b
  | _ => none

/-- Reads a text. -/
def readText : Reader String
  | text s => s
  | _ => none

/-- Reads a natural number below `bound`. -/
def readNat (bound : Nat) : Reader Nat
  | number (some (.natural n)) => if n < bound then some n else none
  | _ => none

/-- Reads a natural number below `bound` that is written as a text. -/
def readNumeral (bound : Nat) : Reader Nat :=
  fun d => d.readText.bind (Text.numeral? bound)

/-- Reads a list whose items `read` takes. -/
def readList {α : Type} (read : Reader α) : Reader (List α)
  | list items => items.mapM read
  | _ => none

/-- Reads a value by its name: a text, or a record with this one name and null. -/
def readName {α : Type} (ofName : String → Option α) : Reader α
  | text s => s.bind ofName
  | record [(name, null)] => name.bind ofName
  | _ => none

/-! ### Slots of a record -/

/-- The documents that a list of fields holds under a name. -/
def under (name : String) (fields : List (Option String × Doc)) : List Doc :=
  (fields.filter fun field => field.1 == some name).map (·.2)

/-- The slot of a name in a list of fields. -/
def slotOf (fields : List (Option String × Doc)) (name : String) : Slot :=
  match under name fields with
  | [] => .missing
  | d :: _ => .given d

/-- Whether every name is Unicode text and none of `names` occurs twice. -/
def namesOnce (names : List String) (fields : List (Option String × Doc)) : Bool :=
  fields.all (·.1.isSome) && names.all fun name => (under name fields).length ≤ 1

/-- The slot of a name in a list of values for `names` in order. -/
def slotAt (names : List String) (items : List Doc) (name : String) : Slot :=
  match (names.zip items).lookup name with
  | some d => .given d
  | none => .cut

/-- The slots of a record with the fields `names`. -/
def slots (names : List String) : Doc → Option (String → Slot)
  | record fields => if namesOnce names fields then some (slotOf fields) else none
  | list items => if items.length ≤ names.length then some (slotAt names items) else none
  | _ => none

/-- The slots of a record with the fields `names` that takes all its other fields as values too, and
so refuses one that is unsound. -/
def slotsOfWhole (names : List String) : Doc → Option (String → Slot)
  | record fields =>
    let known (field : Option String × Doc) : Bool := field.1.any names.contains
    if namesOnce names fields && fields.all fun field => known field || field.2.value?.isSome
    then some (slotOf fields) else none
  | _ => none

/-! ### The order of fields -/

/-- The fields with known names in the order of the text, up to the first one that is refused for
its name: because it is no Unicode text, or one of those `seen` before. -/
def entriesFrom (names seen : List String) : List (Option String × Doc) → List (String × Doc)
  | [] => []
  | (none, _) :: _ => []
  | (some name, d) :: rest =>
    if seen.contains name then []
    else if names.contains name then (name, d) :: entriesFrom names (name :: seen) rest
    else entriesFrom names seen rest

/-- The entries of a record with the fields `names` in the order of the text, up to the first one
that is refused for its name. -/
def entries (names : List String) : Doc → List (String × Doc)
  | record fields => entriesFrom names [] fields
  | list items => names.zip items
  | _ => []

/-- The first field of a record that `accepts` refuses, in the order of the text. -/
def firstRefused? (names : List String) (accepts : String → Doc → Bool) (d : Doc) :
    Option (String × Doc) :=
  (entries names d).find? fun (name, d) => !accepts name d

end Doc

end ChainFeed
