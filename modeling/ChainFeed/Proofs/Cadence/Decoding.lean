import ChainFeed.Cadence
import ChainFeed.Proofs.Json.Objects

/-!
# What decoding makes of Cadence values

A `Cadence.Value` is a value of Cadence with its types: nothing, an optional, an array, a
dictionary, a composite value with named fields, a path, a type, or a value of any other type, whose
payload is JSON of free form. `Value.toJson` writes it down, each value as a record with its type
under `type` and what it holds under `value`. `Value.plain` says what is left of it without types.

Decoding what a value is written as, however deep it is, leaves its plain form, and JSON that
carries no type is left as it is (`Cadence.decode_eq_plain`). A payload of free form is never looked
into, even if it looks like a value with a type.
-/

namespace ChainFeed

namespace Cadence

/-! ### Values -/

/-- The types of composite values. -/
inductive CompositeType where
  /-- A structure. -/
  | struct
  /-- A resource of the language, which is held in one place at a time. -/
  | resource
  /-- An event. -/
  | event
  /-- A contract. -/
  | contract
  /-- A case of an enumeration. -/
  | enum
  deriving DecidableEq, Repr

/-- The name of a type of composite values. -/
def CompositeType.name : CompositeType → String
  | struct => "Struct"
  | resource => "Resource"
  | event => "Event"
  | contract => "Contract"
  | enum => "Enum"

/-- The names of the types whose payloads have a form of their own. -/
def structuredTypes : List String :=
  ["Void", "Optional", "Array", "Dictionary", "Struct", "Resource", "Event", "Contract", "Enum",
   "Path", "Type"]

/-- A type whose payload is of free form: any other type. -/
structure SimpleType where
  /-- The name of the type. -/
  name : String
  /-- The payload has no form of its own. -/
  isSimple : name ∉ structuredTypes

/-- A value of Cadence. -/
inductive Value where
  /-- Nothing. -/
  | void
  /-- An optional without a value. -/
  | absent
  /-- An optional with a value. -/
  | present (value : Value)
  /-- Values in order. -/
  | array (items : List Value)
  /-- Keys with values. -/
  | dictionary (entries : List (Value × Value))
  /-- A value made of named fields, with the id of its declaration. -/
  | composite (kind : CompositeType) (id : String) (fields : List (String × Value))
  /-- A place in an account's storage. -/
  | path (domain identifier : String)
  /-- A type as a value. -/
  | type (staticType : Json)
  /-- A value of any other type. -/
  | simple (kind : SimpleType) (payload : Json)

/-- A payload with its type. -/
def annotated (type : String) (payload : Json) : Json :=
  .record [("type", .text type), ("value", payload)]

namespace Value

mutual

/-- What a value is written as. -/
def toJson : Value → Json
  | void => .record [("type", .text "Void")]
  | absent => annotated "Optional" .null
  | present value => annotated "Optional" value.toJson
  | array items => annotated "Array" (.list (itemsToJson items))
  | dictionary entries => annotated "Dictionary" (.list (entriesToJson entries))
  | composite kind id fields =>
    annotated kind.name (.record [("fields", .list (fieldsToJson fields)), ("id", .text id)])
  | path domain identifier =>
    annotated "Path" (.record [("domain", .text domain), ("identifier", .text identifier)])
  | type staticType => annotated "Type" (.record [("staticType", staticType)])
  | simple kind payload => annotated kind.name payload

/-- What the items of an array are written as. -/
def itemsToJson : List Value → List Json
  | [] => []
  | item :: rest => item.toJson :: itemsToJson rest

/-- What the entries of a dictionary are written as. -/
def entriesToJson : List (Value × Value) → List Json
  | [] => []
  | (key, value) :: rest =>
    .record [("key", key.toJson), ("value", value.toJson)] :: entriesToJson rest

/-- What the fields of a composite value are written as. -/
def fieldsToJson : List (String × Value) → List Json
  | [] => []
  | (name, value) :: rest =>
    .record [("name", .text name), ("value", value.toJson)] :: fieldsToJson rest

end

mutual

/-- What is left of a value without types. -/
def plain : Value → Json
  | void => .null
  | absent => .null
  | present value => value.plain
  | array items => .list (plainItems items)
  | dictionary entries => .object (plainEntries entries)
  | composite _ _ fields => .object (plainFields fields)
  | path domain identifier => .text ("/" ++ domain ++ "/" ++ identifier)
  | type staticType => staticType
  | simple _ payload => payload

/-- What is left of the items of an array. -/
def plainItems : List Value → List Json
  | [] => []
  | item :: rest => item.plain :: plainItems rest

/-- What is left of the entries of a dictionary: a text is a key as it is, and any other value by
its compact text. -/
def plainEntries : List (Value × Value) → List (String × Json)
  | [] => []
  | (key, value) :: rest => (keyText key.plain, value.plain) :: plainEntries rest

/-- What is left of the fields of a composite value. -/
def plainFields : List (String × Value) → List (String × Json)
  | [] => []
  | (name, value) :: rest => (name, value.plain) :: plainFields rest

end

end Value

/-! ### Shapes -/

@[simp]
theorem typeOf?_annotated (type : String) (payload : Json) :
    typeOf? (annotated type payload) = some type := rfl

theorem shapeOf_of_untyped {v : Json} (h : typeOf? v = none) : shapeOf v = .plain := by
  rw [shapeOf, h]

theorem shapeOf_composite (kind : CompositeType) (payload : Json) :
    shapeOf (annotated kind.name payload) = .composite := by
  cases kind <;> rfl

theorem shapeOf_simple (kind : SimpleType) (payload : Json) :
    shapeOf (annotated kind.name payload) = .simple := by
  have h := kind.isSimple
  simp only [structuredTypes, List.mem_cons, List.not_mem_nil, or_false, not_or] at h
  simp [shapeOf, compositeTypes, h]

/-- What an entry of a dictionary adds to the decoded one. -/
def memberOfEntry (entry : Json) : String × Json :=
  (keyText (decode (entry.part "key")), decode (entry.part "value"))

/-- What a field of a composite value adds to the decoded one, if it has a name. -/
def memberOfField? (field : Json) : Option (String × Json) :=
  (fieldName? field).map fun name => (name, decode (field.part "value"))

/-- What decoding makes of a value, by its shape. -/
theorem decode_eq (v : Json) :
    decode v = match shapeOf v with
      | .plain => v
      | .void => .null
      | .optional => decode (payload v)
      | .array => .list ((payload v).itemsOrNone.map decode)
      | .dictionary => .object ((payload v).itemsOrNone.map memberOfEntry)
      | .composite => .object (((payload v).part "fields").itemsOrNone.filterMap memberOfField?)
      | .path => .text (pathText (payload v))
      | .type => (payload v).part "staticType"
      | .simple => payload v := by
  rw [decode]
  split <;> rename_i h <;> simp only [h]
  · rw [List.attach_map_val (f := decode)]
  · rw [Json.sorted_eq_object, ← List.attach_map_val (f := memberOfEntry)]
    rfl
  · have hvals : ∀ fields : List Json,
        (fields.attach.filterMap fun field => memberOfField? field.1) =
          fields.filterMap memberOfField? := fun fields => by
      conv_rhs => rw [← List.attach_map_subtype_val fields, List.filterMap_map]
      rfl
    rw [Json.sorted_eq_object, ← hvals]
    rfl

/-! ### Decoding what values are written as -/

theorem decode_null : decode .null = .null := by
  rw [decode_eq]
  rfl

namespace Value

mutual

theorem decode_toJson : (v : Value) → decode v.toJson = v.plain
  | void => by
    rw [decode_eq]
    rfl
  | absent => by
    rw [decode_eq]
    exact decode_null
  | present value => by
    rw [decode_eq]
    exact decode_toJson value
  | array items => by
    rw [decode_eq, toJson, plain, ← decode_itemsToJson items]
    rfl
  | dictionary entries => by
    rw [decode_eq, toJson, plain, ← decode_entriesToJson entries]
    rfl
  | composite kind id fields => by
    rw [decode_eq, toJson, shapeOf_composite, plain, ← decode_fieldsToJson fields]
    rfl
  | path domain identifier => by
    rw [decode_eq]
    rfl
  | type staticType => by
    rw [decode_eq]
    rfl
  | simple kind payload => by
    rw [decode_eq, toJson, shapeOf_simple]
    rfl

theorem decode_itemsToJson : (items : List Value) →
    (itemsToJson items).map decode = plainItems items
  | [] => rfl
  | item :: rest => by
    rw [itemsToJson, List.map_cons, decode_toJson item, decode_itemsToJson rest, plainItems]

theorem decode_entriesToJson : (entries : List (Value × Value)) →
    (entriesToJson entries).map memberOfEntry = plainEntries entries
  | [] => rfl
  | (key, value) :: rest => by
    rw [entriesToJson, List.map_cons, decode_entriesToJson rest, plainEntries,
      ← decode_toJson key, ← decode_toJson value]
    rfl

theorem decode_fieldsToJson : (fields : List (String × Value)) →
    (fieldsToJson fields).filterMap memberOfField? = plainFields fields
  | [] => rfl
  | (name, value) :: rest => by
    have hfield : memberOfField? (.record [("name", .text name), ("value", value.toJson)]) =
        some (name, value.plain) := by
      rw [← decode_toJson value]
      rfl
    rw [fieldsToJson, List.filterMap_cons, hfield, decode_fieldsToJson rest, plainFields]

end

end Value

/-- **Decoding drops the types and nothing else.** What a value is written as, however deep it is,
is decoded to its plain form; the type `Void` may come with a payload. JSON whose `type` is missing
or no text is left as it is. -/
theorem decode_eq_plain :
    (∀ v : Value, decode v.toJson = v.plain) ∧
    (∀ payload, decode (annotated "Void" payload) = Value.void.plain) ∧
    ∀ v : Json, (∀ type, v.field? "type" ≠ some (.text type)) → decode v = v := by
  refine ⟨Value.decode_toJson, fun payload => ?_, fun v h => ?_⟩
  · rw [decode_eq]
    rfl
  · have htype : typeOf? v = none := by
      rw [typeOf?, Json.part]
      cases hfield : v.field? "type" with
      | none => rfl
      | some type =>
        cases type with
        | text type => exact absurd hfield (h type)
        | _ => rfl
    rw [decode_eq, shapeOf_of_untyped htype]

/-- The type of numbers with a sign. -/
def intType : SimpleType := ⟨"Int", by decide⟩

/-- A value with an optional key, two fields with one name, and a payload that looks like an
optional. -/
def sampleValue : Value :=
  .composite .event "A.01.Sample" [
    ("owner", .simple ⟨"Address", by decide⟩ (.text "0x01")),
    ("amounts", .dictionary [(.present (.simple intType (.text "1")), .array [.void, .absent])]),
    ("owner", .simple intType (annotated "Optional" .null))]

/-- The later owner counts, the key is the text that it holds, and the payload stays as it is. A
record whose type is a number is left alone. -/
theorem decode_eq_plain_of_sample :
    decode sampleValue.toJson = .record [
      ("amounts", .record [("1", .list [.null, .null])]),
      ("owner", annotated "Optional" .null)] ∧
    decode (.record [("type", .nat 1)]) = .record [("type", .nat 1)] := by
  refine ⟨(decode_eq_plain.1 sampleValue).trans rfl, decode_eq_plain.2.2 _ fun type h => ?_⟩
  have hnumber : some (Json.nat 1) = some (.text type) := h
  cases hnumber

end Cadence

end ChainFeed
