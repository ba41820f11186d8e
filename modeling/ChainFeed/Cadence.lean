import ChainFeed.Json.Doc
import ChainFeed.Json.Printer
import ChainFeed.Text.Base64

/-!
# Cadence values

The chain writes values of its language Cadence as JSON records that hold a value under `value` and
its type under `type`. **Decoding** drops the types. Composite values become records by
field name, dictionaries become records by key, paths become texts, and numbers stay the texts they
are, because most number types of Cadence hold more than a JSON number.
-/

namespace ChainFeed

namespace Json

/-- What a value holds under a name, null if it holds nothing there. -/
def part (name : String) (v : Json) : Json :=
  (v.field? name).getD .null

/-! ### Parts are no larger than the whole -/

/-- The value under a name in a list of fields is smaller than the list. -/
theorem sizeOf_lookup_lt {name : String} {value : Json} :
    ∀ {fields : List (String × Json)}, fields.lookup name = some value →
      sizeOf value < sizeOf fields
  | (other, x) :: rest, h => by
    simp only [List.lookup_cons] at h
    split at h
    · cases h
      simp only [List.cons.sizeOf_spec, Prod.mk.sizeOf_spec]
      omega
    · have := sizeOf_lookup_lt h
      simp only [List.cons.sizeOf_spec]
      omega

/-- What a record holds under a name is smaller than the record. -/
theorem sizeOf_part_record_lt (name : String) (fields : List (String × Json)) :
    sizeOf (part name (record fields)) < sizeOf (record fields) := by
  simp only [part, field?, record.sizeOf_spec]
  cases h : fields.lookup name with
  | none =>
    have : 0 < sizeOf fields := by
      cases fields <;> exact Nat.lt_of_lt_of_le Nat.zero_lt_one (by simp [Nat.add_assoc])
    simp only [Option.getD_none, null.sizeOf_spec]
    omega
  | some value =>
    have := sizeOf_lookup_lt h
    simp only [Option.getD_some]
    omega

/-- What a value holds under a name is no larger than the value. -/
theorem sizeOf_part_le (name : String) (v : Json) : sizeOf (part name v) ≤ sizeOf v := by
  cases v with
  | record fields => exact Nat.le_of_lt (sizeOf_part_record_lt name fields)
  | _ => simp [part, field?]

/-- An item of a list is smaller than the list. -/
theorem sizeOf_item_lt {v item : Json} (h : item ∈ v.itemsOrNone) : sizeOf item < sizeOf v := by
  cases v with
  | list items =>
    have member : item ∈ items := by simpa [itemsOrNone, items?] using h
    have := List.sizeOf_lt_of_mem member
    simp only [list.sizeOf_spec]
    omega
  | _ => simp [itemsOrNone, items?] at h

end Json

namespace Cadence

/-- The type that a value carries, if it carries one. -/
def typeOf? (v : Json) : Option String :=
  (v.part "type").text?

/-- What a value with a type holds. -/
def payload (v : Json) : Json := v.part "value"

/-- The types of composite values. -/
def compositeTypes : List String := ["Struct", "Resource", "Event", "Contract", "Enum"]

/-- The name of a composite value's field. -/
def fieldName? (field : Json) : Option String :=
  (field.part "name").text?

/-- The key of a record for a decoded key of a dictionary: a text as it is, any other value in its
compact text. -/
def keyText : Json → String
  | .text s => s
  | other => other.compact

/-- The text of a path with a domain and an identifier, either of them empty if it is missing. -/
def pathText (path : Json) : String :=
  let part (name : String) : String := (path.part name).text?.getD ""
  "/" ++ part "domain" ++ "/" ++ part "identifier"

/-- What follows a value's type in decoding it. -/
inductive Shape where
  /-- No type: the value stands for itself. -/
  | plain
  /-- Nothing. -/
  | void
  /-- A value or nothing. -/
  | optional
  /-- Values in order. -/
  | array
  /-- Keys with values. -/
  | dictionary
  /-- Names with values. -/
  | composite
  /-- A domain and an identifier. -/
  | path
  /-- A type as a value. -/
  | type
  /-- A type whose payload stands for itself. -/
  | simple
  deriving DecidableEq, Repr

/-- The shape of a value. -/
def shapeOf (v : Json) : Shape :=
  match typeOf? v with
  | none => .plain
  | some type =>
    if type = "Void" then .void
    else if type = "Optional" then .optional
    else if type = "Array" then .array
    else if type = "Dictionary" then .dictionary
    else if compositeTypes.contains type then .composite
    else if type = "Path" then .path
    else if type = "Type" then .type
    else .simple

/-- A value that has a shape of its own is larger than what it holds. -/
theorem sizeOf_payload_lt {v : Json} (h : shapeOf v ≠ .plain) : sizeOf (payload v) < sizeOf v := by
  cases v with
  | record fields => exact Json.sizeOf_part_record_lt "value" fields
  | _ => exact absurd rfl h

/-- The value without types. -/
def decode (v : Json) : Json :=
  match _shape : shapeOf v with
  | .plain => v
  | .void => .null
  | .optional => decode (payload v)
  | .array => .list ((payload v).itemsOrNone.attach.map fun item => decode item.1)
  | .dictionary =>
    .sorted ((payload v).itemsOrNone.attach.map fun entry =>
      (keyText (decode (entry.1.part "key")), decode (entry.1.part "value")))
  | .composite =>
    .sorted (((payload v).part "fields").itemsOrNone.attach.filterMap fun field =>
      (fieldName? field.1).map fun name => (name, decode (field.1.part "value")))
  | .path => .text (pathText (payload v))
  | .type => (payload v).part "staticType"
  | .simple => payload v
termination_by sizeOf v
decreasing_by
  all_goals have hv : sizeOf (payload v) < sizeOf v := sizeOf_payload_lt (by simp [_shape])
  · exact hv
  · exact Nat.lt_trans (Json.sizeOf_item_lt item.2) hv
  · have := Json.sizeOf_part_le "key" entry.1
    have := Json.sizeOf_item_lt entry.2
    omega
  · have := Json.sizeOf_part_le "value" entry.1
    have := Json.sizeOf_item_lt entry.2
    omega
  · have := Json.sizeOf_part_le "value" field.1
    have := Json.sizeOf_item_lt field.2
    have := Json.sizeOf_part_le "fields" (payload v)
    omega

/-! ### Documents -/

/-- The value that a document in Base64 holds, with its types. -/
def document? (text : String) : Option Json := do
  Json.ofBytes? (← Text.Base64.decodeTrimmed? text)

/-- A text as a document in Base64 holds it. -/
def encodeDocument (value : Json) : String :=
  Text.Base64.encode (Text.Utf8.encode value.compact)

/-- The address of an account as an argument of a script. -/
def addressArgument (address : String) : Json :=
  .record [("type", .text "Address"), ("value", .text address)]

end Cadence

end ChainFeed
