import ChainFeed.Json.Reader
import ChainFeed.Proofs.Json.Arrangement

/-!
# Reading what was written

A value **encodes** something for a reader if none of its records names a field twice and the
reader finds that thing in every document that is written in an arrangement of the value. Encodings
are put together in the way values are: texts, numbers and names encode themselves, a list encodes
what its items encode, and a record encodes what a reader makes of its **slots**, each of which
**holds** the value of one field (`Encodes.record`).
-/

namespace ChainFeed

open Doc

/-- The reader takes every document written in an arrangement of the value for `x`, and the value
is unambiguous. -/
structure Json.Encodes {α : Type} (value : Json) (read : Reader α) (x : α) : Prop where
  /-- No record in the value names a field twice. -/
  unambiguous : value.Unambiguous
  /-- Every arrangement is read as `x`. -/
  reads : ∀ w, value.Rearranges w → read (ofValue w) = some x

namespace Json

variable {α : Type} {read : Reader α} {value : Json} {x : α}

/-- What a document written like the value says, is a value that is read as `x` again. -/
theorem Encodes.exists_value (h : value.Encodes read x) :
    ∃ said, (ofValue value).value? = some said ∧ read (ofValue said) = some x :=
  ⟨value.normal, h.unambiguous.value?_ofValue (.refl _),
    h.reads _ h.unambiguous.rearranges_normal⟩

/-! ### Plain values -/

theorem encodes_text (s : String) : (text s).Encodes readText s where
  unambiguous := .text s
  reads _ hw := by cases hw; rfl

theorem encodes_bool (b : Bool) : (bool b).Encodes readBool b where
  unambiguous := .bool b
  reads _ hw := by cases hw; rfl

theorem encodes_nat {n bound : Nat} (h : n < bound) : (nat n).Encodes (readNat bound) n where
  unambiguous := .number _
  reads _ hw := by cases hw; exact if_pos h

theorem encodes_name {name : α → String} {ofName? : String → Option α}
    (h : ∀ x, ofName? (name x) = some x) (x : α) :
    (text (name x)).Encodes (readName ofName?) x where
  unambiguous := .text _
  reads _ hw := by cases hw; exact h x

/-- A sorted value of free form encodes itself. -/
theorem encodes_value (h : value.Sorted) : value.Encodes readValue value where
  unambiguous := h.unambiguous
  reads _ hw := h.value?_ofValue hw

theorem mapM_read_ofValues {items others : List Json} {xs : List α}
    (h : List.Forall₂ (fun item x => item.Encodes read x) items xs)
    (each : List.Forall₂ Rearranges items others) : (ofValues others).mapM read = some xs := by
  induction h generalizing others with
  | nil =>
    cases each
    rfl
  | cons first _ ih =>
    cases each with
    | cons hw each => rw [ofValues, List.mapM_cons, first.reads _ hw, ih each]; rfl

/-- A list encodes what its items encode. -/
theorem encodes_list {write : α → Json} {xs : List α} (h : ∀ x ∈ xs, (write x).Encodes read x) :
    (list (xs.map write)).Encodes (readList read) xs where
  unambiguous := .list (List.forall_mem_map.mpr fun x mem => (h x mem).unambiguous)
  reads w hw := by
    obtain ⟨others, rfl, each⟩ := hw.exists_items
    exact mapM_read_ofValues (List.forall₂_map_left_iff.mpr (List.forall₂_same.mpr h)) each

theorem encodes_texts (ss : List String) : (texts ss).Encodes (readList readText) ss :=
  encodes_list fun s _ => encodes_text s

theorem encodes_values {values : List Json} (h : ∀ value ∈ values, value.Sorted) :
    (list values).Encodes (readList readValue) values := by
  have each : (list (values.map fun value => value)).Encodes (readList readValue) values :=
    encodes_list fun value mem => encodes_value (h value mem)
  rwa [List.map_id'] at each

theorem unambiguous_textOrNull (s : Option String) : (textOrNull s).Unambiguous :=
  match s with
  | none => .null
  | some s => .text s

end Json

/-! ### Slots -/

namespace Slot

variable {α : Type} {slot : Slot} {value : Json} {read : Reader α}

/-- The slot is given an arrangement of the value. -/
def Holds (slot : Slot) (value : Json) : Prop :=
  ∃ w, slot = given (ofValue w) ∧ value.Rearranges w

theorem Holds.required {x : α} (h : slot.Holds value) (encodes : value.Encodes read x) :
    slot.required read = some x := by
  obtain ⟨w, rfl, hw⟩ := h
  exact encodes.reads w hw

/-- A slot that holds a text or null is read as the text says, or as nothing. -/
theorem Holds.optional {name : α → String} {x : Option α}
    (h : slot.Holds (.textOrNull (x.map name)))
    (encodes : ∀ x, (Json.text (name x)).Encodes read x) : slot.optional read = some x := by
  obtain ⟨w, rfl, hw⟩ := h
  cases x with
  | none => cases hw; rfl
  | some x =>
    have text : read (ofValue w) = some x := (encodes x).reads w hw
    cases hw
    exact congrArg (Option.map some) text

end Slot

/-! ### Records -/

namespace Json

theorem length_under_ofFields (name : String) (fields : List (String × Json)) :
    (under name (ofFields fields)).length = (fields.map Prod.fst).count name := by
  induction fields with
  | nil => rfl
  | cons field rest ih =>
    by_cases same : field.1 = name
    · simpa [under, ofFields, same] using ih
    · simpa [under, ofFields, same] using ih

theorem mem_under_ofFields {field : String × Json} {fields : List (String × Json)}
    (h : field ∈ fields) : ofValue field.2 ∈ under field.1 (ofFields fields) := by
  rw [ofFields_eq_map]
  exact List.mem_map.mpr ⟨_, List.mem_filter.mpr ⟨List.mem_map_of_mem h, beq_self_eq_true _⟩, rfl⟩

/-- The fields of a written record are found if no name occurs twice. -/
theorem slotOf_ofFields {field : String × Json} {fields : List (String × Json)}
    (once : (fields.map Prod.fst).Nodup) (h : field ∈ fields) :
    slotOf (ofFields fields) field.1 = .given (ofValue field.2) := by
  have length : (under field.1 (ofFields fields)).length ≤ 1 :=
    length_under_ofFields _ _ ▸ List.nodup_iff_count_le_one.mp once _
  have mem := mem_under_ofFields h
  rw [slotOf]
  match under field.1 (ofFields fields), length, mem with
  | [d], _, mem => rw [List.mem_singleton.mp mem]

theorem namesOnce_ofFields (names : List String) {fields : List (String × Json)}
    (once : (fields.map Prod.fst).Nodup) : namesOnce names (ofFields fields) = true := by
  rw [namesOnce, Bool.and_eq_true, List.all_eq_true, List.all_eq_true]
  refine ⟨fun field mem => ?_, fun name _ => ?_⟩
  · rw [ofFields_eq_map] at mem
    obtain ⟨field, -, rfl⟩ := List.mem_map.mp mem
    rfl
  · rw [decide_eq_true_iff, length_under_ofFields]
    exact List.nodup_iff_count_le_one.mp once name

/-- An arrangement of a record is a record with the same names, whose slots hold the values of the
fields. -/
theorem Rearranges.exists_slots {fields : List (String × Json)} {w : Json}
    (once : (fields.map Prod.fst).Nodup) (hw : Rearranges (.record fields) w) :
    ∃ others, w = .record others ∧ (others.map Prod.fst).Perm (fields.map Prod.fst) ∧
      ∀ field ∈ fields, (slotOf (ofFields others) field.1).Holds field.2 := by
  obtain ⟨moved, others, rfl, perm, each⟩ := hw.exists_fields
  have names : (others.map Prod.fst).Perm (fields.map Prod.fst) :=
    (forall₂_fieldRearranges_iff.mp each).1 ▸ (perm.map Prod.fst).symm
  refine ⟨others, rfl, names, fun field mem => ?_⟩
  obtain ⟨i, rfl⟩ := List.mem_iff_get.mp (perm.mem_iff.mp mem)
  have inside : i < others.length := each.length_eq ▸ i.isLt
  obtain ⟨same, arranged⟩ := each.get i.isLt inside
  refine ⟨_, ?_, arranged⟩
  exact same ▸ slotOf_ofFields (names.nodup_iff.mpr once) (List.get_mem others ⟨i, inside⟩)

variable {α : Type} {names : List String} {fields : List (String × Json)}
  {ofSlots : (String → Slot) → Option α} {x : α}

/-- A record encodes what a reader makes of slots that hold the values of its fields. -/
theorem encodes_record (names_eq : fields.map Prod.fst = names) (once : names.Nodup)
    (values : ∀ field ∈ fields, field.2.Unambiguous)
    (h : ∀ slot, (∀ field ∈ fields, (slot field.1).Holds field.2) → ofSlots slot = some x) :
    (record fields).Encodes (fun d => do ofSlots (← d.slots names)) x where
  unambiguous := .record (names_eq ▸ once) values
  reads w hw := by
    subst names_eq
    obtain ⟨others, rfl, perm, holds⟩ := hw.exists_slots once
    have found : (ofValue (.record others)).slots (fields.map Prod.fst) =
        some (slotOf (ofFields others)) :=
      if_pos (namesOnce_ofFields _ (perm.nodup_iff.mpr once))
    exact (congrArg (· >>= ofSlots) found).trans (h _ holds)

/-- The same for a reader that takes the fields it does not know as values too. -/
theorem encodes_whole (names_eq : fields.map Prod.fst = names) (once : names.Nodup)
    (values : ∀ field ∈ fields, field.2.Unambiguous)
    (h : ∀ slot, (∀ field ∈ fields, (slot field.1).Holds field.2) → ofSlots slot = some x) :
    (record fields).Encodes (fun d => do ofSlots (← d.slotsOfWhole names)) x where
  unambiguous := .record (names_eq ▸ once) values
  reads w hw := by
    subst names_eq
    obtain ⟨others, rfl, perm, holds⟩ := hw.exists_slots once
    have known : ∀ field ∈ ofFields others, field.1.any (fields.map Prod.fst).contains = true := by
      intro field mem
      rw [ofFields_eq_map] at mem
      obtain ⟨other, held, rfl⟩ := List.mem_map.mp mem
      exact List.contains_iff_mem.mpr (perm.mem_iff.mp (List.mem_map_of_mem held))
    have found : (ofValue (.record others)).slotsOfWhole (fields.map Prod.fst) =
        some (slotOf (ofFields others)) := by
      refine if_pos (Bool.and_eq_true_iff.mpr ⟨?_, List.all_eq_true.mpr fun field mem => ?_⟩)
      · exact namesOnce_ofFields _ (perm.nodup_iff.mpr once)
      · exact Bool.or_eq_true_iff.mpr (.inl (known field mem))
    exact (congrArg (· >>= ofSlots) found).trans (h _ holds)

end Json

end ChainFeed
