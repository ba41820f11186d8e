import ChainFeed.Json.Doc
import Mathlib.Data.List.Perm.Basic
import Mathlib.Data.List.Sort
import Mathlib.Data.String.Basic

/-!
# The order of fields

A record says the same in whatever order its fields stand. One value **rearranges** another if the
two differ in that order only, in the records at any depth. A value is **unambiguous** if none of
its records names a field twice, and **sorted** if the names of each of its records increase; the
values of free form that a program holds are sorted, because reading makes them so
(`sorted_of_value?`).

The **normal form** of a value sorts all its records. It is what a document says if it is written
in any arrangement of an unambiguous value (`Rearranges.value?_ofValue`), it is an arrangement
itself (`Unambiguous.rearranges_normal`), and a sorted value is its own normal form
(`Sorted.normal_eq`).
-/

namespace ChainFeed

namespace Json

/-! ### Putting fields in order -/

/-- The fields in the order of their names; of two fields with one name the later one counts. -/
def inOrder (fields : List (String × Json)) : List (String × Json) :=
  fields.foldl (fun sorted field => setField field.1 field.2 sorted) []

theorem sorted_eq (fields : List (String × Json)) : sorted fields = record (inOrder fields) := rfl

theorem mem_setField {name : String} {value : Json} {fields : List (String × Json)}
    {field : String × Json} (h : field ∈ setField name value fields) :
    field = (name, value) ∨ field ∈ fields := by
  induction fields with
  | nil => exact .inl (by simpa [setField] using h)
  | cons first rest ih =>
    obtain ⟨other, x⟩ := first
    rw [setField] at h
    split_ifs at h
    · exact (List.mem_cons.mp h).imp_right (List.mem_cons_of_mem _)
    · exact List.mem_cons.mp h
    · rcases List.mem_cons.mp h with rfl | h
      · exact .inr List.mem_cons_self
      · exact (ih h).imp_right (List.mem_cons_of_mem _)

/-- Setting a field keeps the names increasing. -/
theorem pairwise_setField (name : String) (value : Json) {fields : List (String × Json)}
    (h : (fields.map Prod.fst).Pairwise (· < ·)) :
    ((setField name value fields).map Prod.fst).Pairwise (· < ·) := by
  induction fields with
  | nil => exact List.pairwise_singleton _ _
  | cons first rest ih =>
    obtain ⟨other, x⟩ := first
    obtain ⟨above, increasing⟩ := List.pairwise_cons.mp h
    rw [setField]
    split_ifs with same less
    · subst same
      exact h
    · refine List.pairwise_cons.mpr ⟨fun later mem => ?_, h⟩
      rcases List.mem_cons.mp mem with rfl | mem
      · exact less
      · exact less.trans (above later mem)
    · refine List.pairwise_cons.mpr ⟨fun later mem => ?_, ih increasing⟩
      obtain ⟨field, held, rfl⟩ := List.mem_map.mp mem
      rcases mem_setField held with rfl | held
      · exact lt_of_le_of_ne (not_lt.mp less) (Ne.symm same)
      · exact above _ (List.mem_map_of_mem held)

/-- Setting a field that there is not yet adds it. -/
theorem setField_perm {name : String} (value : Json) {fields : List (String × Json)}
    (h : name ∉ fields.map Prod.fst) :
    (setField name value fields).Perm ((name, value) :: fields) := by
  induction fields with
  | nil => exact .refl _
  | cons first rest ih =>
    obtain ⟨other, x⟩ := first
    obtain ⟨different, fresh⟩ := List.ne_and_not_mem_of_not_mem_cons h
    rw [setField, if_neg different]
    split_ifs
    · exact .refl _
    · exact ((ih fresh).cons _).trans (.swap _ _ _)

/-- Ordered fields have increasing names. -/
theorem pairwise_inOrder (fields : List (String × Json)) :
    ((inOrder fields).map Prod.fst).Pairwise (· < ·) :=
  List.foldlRecOn (motive := fun acc : List (String × Json) => (acc.map Prod.fst).Pairwise
    (· < ·)) fields _ .nil fun _ increasing _ _ => pairwise_setField _ _ increasing

theorem mem_inOrder {fields : List (String × Json)} {field : String × Json}
    (h : field ∈ inOrder fields) : field ∈ fields := by
  refine List.foldlRecOn (motive := fun acc => ∀ field ∈ acc, field ∈ fields) fields _ ?_ ?_ field h
  · exact fun _ mem => absurd mem List.not_mem_nil
  · intro acc known added mem field mem'
    rcases mem_setField mem' with rfl | mem'
    · exact mem
    · exact known field mem'

/-- Fields that are set one after the other, none of them twice, are added to those there are. -/
theorem foldl_setField_perm (fields : List (String × Json)) {acc : List (String × Json)}
    (h : ((fields ++ acc).map Prod.fst).Nodup) :
    (fields.foldl (fun sorted field => setField field.1 field.2 sorted) acc).Perm
      (fields ++ acc) := by
  induction fields generalizing acc with
  | nil => exact .refl _
  | cons field rest ih =>
    -- the names of `acc` grow by the one that is set, so none is set twice later either
    have moved : (rest ++ (field :: acc)).Perm (field :: rest ++ acc) := List.perm_middle
    have set : (setField field.1 field.2 acc).Perm (field :: acc) := by
      refine setField_perm _ fun mem => ?_
      exact (List.nodup_cons.mp h).1 (List.map_append ▸ List.mem_append_right _ mem)
    have added := (set.append_left rest).trans moved
    exact (ih ((added.map Prod.fst).nodup_iff.mpr h)).trans added

theorem inOrder_perm {fields : List (String × Json)} (h : (fields.map Prod.fst).Nodup) :
    (inOrder fields).Perm fields := by
  have perm := foldl_setField_perm fields ((List.append_nil fields).symm ▸ h)
  exact perm.trans (.of_eq (List.append_nil fields))

/-- Fields with increasing names are told by what they are in any order. -/
theorem eq_of_perm {fields others : List (String × Json)} (h : fields.Perm others)
    (increasing : (fields.map Prod.fst).Pairwise (· < ·))
    (increasing' : (others.map Prod.fst).Pairwise (· < ·)) : fields = others := by
  have asymm : ∀ a b : String × Json, a ∈ fields → b ∈ others → a.1 < b.1 → b.1 < a.1 → a = b :=
    fun a b _ _ less more => absurd more less.asymm
  exact h.eq_of_pairwise asymm (List.pairwise_map.mp increasing) (List.pairwise_map.mp increasing')

theorem inOrder_congr {fields others : List (String × Json)} (h : fields.Perm others)
    (once : (fields.map Prod.fst).Nodup) : inOrder fields = inOrder others := by
  have same : (inOrder fields).Perm (inOrder others) :=
    (inOrder_perm once).trans (h.trans (inOrder_perm ((h.map _).nodup_iff.mp once)).symm)
  exact eq_of_perm same (pairwise_inOrder fields) (pairwise_inOrder others)

theorem inOrder_eq_self {fields : List (String × Json)}
    (h : (fields.map Prod.fst).Pairwise (· < ·)) : inOrder fields = fields :=
  eq_of_perm (inOrder_perm (h.imp ne_of_lt)) (pairwise_inOrder fields) h

/-! ### Rearranged records -/

/-- Whether the names of every record in a value fulfil a condition. -/
inductive EachRecord (p : List String → Prop) : Json → Prop
  | null : EachRecord p null
  | bool (b : Bool) : EachRecord p (bool b)
  | number (n : JsonNumber) : EachRecord p (number n)
  | text (s : String) : EachRecord p (text s)
  | list {items : List Json} :
    (∀ item ∈ items, EachRecord p item) → EachRecord p (list items)
  | record {fields : List (String × Json)} :
    p (fields.map Prod.fst) → (∀ field ∈ fields, EachRecord p field.2) →
      EachRecord p (record fields)

/-- No record in the value names a field twice. -/
abbrev Unambiguous (value : Json) : Prop := value.EachRecord List.Nodup

/-- The names of every record in the value increase. -/
abbrev Sorted (value : Json) : Prop := value.EachRecord (List.Pairwise (· < ·))

theorem EachRecord.mono {p q : List String → Prop} (h : ∀ names, p names → q names) {value : Json}
    (each : value.EachRecord p) : value.EachRecord q := by
  induction each with
  | null => exact .null
  | bool b => exact .bool b
  | number n => exact .number n
  | text s => exact .text s
  | list _ ih => exact .list ih
  | record names _ ih => exact .record (h _ names) ih

theorem Sorted.unambiguous {value : Json} (h : value.Sorted) : value.Unambiguous :=
  h.mono fun _ increasing => increasing.imp ne_of_lt

/-- Whether two values differ in the order of fields only. -/
inductive Rearranges : Json → Json → Prop
  | refl (value : Json) : Rearranges value value
  | list {items others : List Json} :
    List.Forall₂ Rearranges items others → Rearranges (list items) (list others)
  -- names and values are related as lists of their own: the relation may not occur under a binder
  -- inside `Forall₂`; `forall₂_fieldRearranges_iff` puts them together
  | record {fields moved others : List (String × Json)} :
    fields.Perm moved → moved.map Prod.fst = others.map Prod.fst →
      List.Forall₂ Rearranges (moved.map Prod.snd) (others.map Prod.snd) →
      Rearranges (record fields) (record others)

/-- Whether two fields have one name and values that differ in the order of fields only. -/
def FieldRearranges (field other : String × Json) : Prop :=
  field.1 = other.1 ∧ Rearranges field.2 other.2

theorem forall₂_fieldRearranges_iff {moved others : List (String × Json)} :
    List.Forall₂ FieldRearranges moved others ↔
      moved.map Prod.fst = others.map Prod.fst ∧
        List.Forall₂ Rearranges (moved.map Prod.snd) (others.map Prod.snd) := by
  constructor
  · intro h
    induction h with
    | nil => exact ⟨rfl, .nil⟩
    | cons first _ ih => exact ⟨congrArg₂ List.cons first.1 ih.1, .cons first.2 ih.2⟩
  · rintro ⟨names, values⟩
    induction moved generalizing others with
    | nil =>
      rw [List.map_eq_nil_iff.mp names.symm]
      exact .nil
    | cons field rest ih =>
      cases others with
      | nil => cases names
      | cons other after =>
        obtain ⟨name, names⟩ := List.cons.inj names
        obtain ⟨value, values⟩ := List.forall₂_cons.mp values
        exact .cons ⟨name, value⟩ (ih names values)

theorem Rearranges.of_fields {fields moved others : List (String × Json)} (h : fields.Perm moved)
    (each : List.Forall₂ FieldRearranges moved others) :
    Rearranges (.record fields) (.record others) :=
  .record h (forall₂_fieldRearranges_iff.mp each).1 (forall₂_fieldRearranges_iff.mp each).2

theorem Rearranges.exists_items {items : List Json} {w : Json} (h : Rearranges (.list items) w) :
    ∃ others, w = .list others ∧ List.Forall₂ Rearranges items others := by
  cases h with
  | refl => exact ⟨items, rfl, List.forall₂_same.mpr fun _ _ => .refl _⟩
  | list each => exact ⟨_, rfl, each⟩

theorem Rearranges.exists_fields {fields : List (String × Json)} {w : Json}
    (h : Rearranges (.record fields) w) :
    ∃ moved others, w = .record others ∧ fields.Perm moved ∧
      List.Forall₂ FieldRearranges moved others := by
  cases h with
  | refl => exact ⟨fields, fields, rfl, .refl _, List.forall₂_same.mpr fun _ _ => ⟨rfl, .refl _⟩⟩
  | record perm names values =>
    exact ⟨_, _, rfl, perm, forall₂_fieldRearranges_iff.mpr ⟨names, values⟩⟩

/-! ### Normal forms -/

mutual

/-- The value with all its records sorted. -/
def normal : Json → Json
  | list items => list (normalItems items)
  | record fields => sorted (normalFields fields)
  | value => value

/-- The normal forms of a list of values. -/
def normalItems : List Json → List Json
  | [] => []
  | item :: rest => normal item :: normalItems rest

/-- The fields with their values in normal form. -/
def normalFields : List (String × Json) → List (String × Json)
  | [] => []
  | (name, value) :: rest => (name, normal value) :: normalFields rest

end

theorem normalItems_eq_map (items : List Json) : normalItems items = items.map normal := by
  induction items with
  | nil => rfl
  | cons item rest ih => rw [normalItems, ih, List.map_cons]

theorem normalFields_eq_map (fields : List (String × Json)) :
    normalFields fields = fields.map fun field => (field.1, normal field.2) := by
  induction fields with
  | nil => rfl
  | cons field rest ih => rw [normalFields, ih, List.map_cons]

/-- Normal forms of the values keep the names. -/
theorem names_normalFields (fields : List (String × Json)) :
    (normalFields fields).map Prod.fst = fields.map Prod.fst := by
  rw [normalFields_eq_map, List.map_map]
  rfl

theorem Sorted.normal_eq {value : Json} (h : value.Sorted) : value.normal = value := by
  induction h with
  | list _ ih => rw [normal, normalItems_eq_map, List.map_congr_left ih, List.map_id']
  | record increasing _ ih =>
    rw [normal, normalFields_eq_map, List.map_congr_left fun field mem => by rw [ih field mem],
      List.map_id', sorted_eq, inOrder_eq_self increasing]
  | _ => rfl

/-- The normal form of an unambiguous value differs from it in the order of fields only. -/
theorem Unambiguous.rearranges_normal {value : Json} (h : value.Unambiguous) :
    Rearranges value value.normal := by
  induction h with
  | list _ ih =>
    rw [normal, normalItems_eq_map]
    exact .list (List.forall₂_map_right_iff.mpr (List.forall₂_same.mpr ih))
  | @record fields once _ ih =>
    -- first each value, then the order; moving the fields before is the same
    have each : List.Forall₂ FieldRearranges fields (normalFields fields) := by
      rw [normalFields_eq_map]
      exact List.forall₂_map_right_iff.mpr
        (List.forall₂_same.mpr fun field mem => ⟨rfl, ih field mem⟩)
    have perm : (normalFields fields).Perm (inOrder (normalFields fields)) :=
      (inOrder_perm (names_normalFields fields ▸ once)).symm
    obtain ⟨moved, moves, each⟩ : Relation.Comp List.Perm (List.Forall₂ FieldRearranges) fields
        (inOrder (normalFields fields)) := by
      rw [← List.forall₂_comp_perm_eq_perm_comp_forall₂]
      exact ⟨_, each, perm⟩
    exact .of_fields moves each
  | _ => exact .refl _

/-! ### What a document says -/

section Documents

open Doc

theorem ofFields_eq_map (fields : List (String × Json)) :
    ofFields fields = fields.map fun field => (some field.1, ofValue field.2) := by
  induction fields with
  | nil => rfl
  | cons field rest ih => rw [ofFields, ih, List.map_cons]

theorem values?_ofValues {items others : List Json}
    (h : List.Forall₂ (fun item other => (ofValue other).value? = some item.normal) items others) :
    values? (ofValues others) = some (normalItems items) := by
  induction h with
  | nil => rfl
  | cons first _ ih =>
    rw [ofValues, values?, first, ih]
    rfl

theorem fieldValues?_ofFields {fields others : List (String × Json)}
    (h : List.Forall₂ (fun field other => field.1 = other.1 ∧
      (ofValue other.2).value? = some field.2.normal) fields others) :
    fieldValues? (ofFields others) = some (normalFields fields) := by
  induction h with
  | nil => rfl
  | cons first _ ih =>
    rw [ofFields, fieldValues?, first.2, ih, ← first.1]
    rfl

/-- A document written in any arrangement of an unambiguous value says its normal form. -/
theorem Unambiguous.value?_ofValue {value w : Json} (h : value.Unambiguous)
    (hw : Rearranges value w) : (ofValue w).value? = some value.normal := by
  induction h generalizing w with
  | list _ ih =>
    obtain ⟨others, rfl, each⟩ := hw.exists_items
    have said := ((List.forall₂_and_left _ _).mpr ⟨ih, each⟩).imp fun _ _ both => both.1 both.2
    rw [ofValue, value?, values?_ofValues said]
    rfl
  | @record fields once _ ih =>
    obtain ⟨moved, others, rfl, perm, each⟩ := hw.exists_fields
    have reads : ∀ field ∈ moved, ∀ w, Rearranges field.2 w →
        (ofValue w).value? = some field.2.normal :=
      fun field mem _ => ih field (perm.mem_iff.mpr mem)
    have said : List.Forall₂ (fun field other => field.1 = other.1 ∧
        (ofValue other.2).value? = some field.2.normal) moved others :=
      ((List.forall₂_and_left _ _).mpr ⟨reads, each⟩).imp
        fun _ _ both => ⟨both.2.1, both.1 _ both.2.2⟩
    -- reading sorts what it finds, so it does not matter where the fields stood
    have same : inOrder (normalFields moved) = inOrder (normalFields fields) := by
      refine (inOrder_congr ?_ (names_normalFields fields ▸ once)).symm
      rw [normalFields_eq_map, normalFields_eq_map]
      exact perm.map _
    rw [ofValue, value?, fieldValues?_ofFields said, Option.map_some, sorted_eq, same]
    rfl
  | _ => cases hw; rfl

/-- A sorted value is what every document says that is written in an arrangement of it. -/
theorem Sorted.value?_ofValue {value w : Json} (h : value.Sorted) (hw : Rearranges value w) :
    (ofValue w).value? = some value := by
  rw [h.unambiguous.value?_ofValue hw, h.normal_eq]

mutual

/-- What a document says is sorted. -/
theorem sorted_of_value? : ∀ (d : Doc) {value : Json}, d.value? = some value → value.Sorted
  | .null, _, h => by cases h; exact .null
  | .bool b, _, h => by cases h; exact .bool b
  | .number n, _, h => by
    obtain ⟨n, -, rfl⟩ := Option.map_eq_some_iff.mp h
    exact .number n
  | .text s, _, h => by
    obtain ⟨s, -, rfl⟩ := Option.map_eq_some_iff.mp h
    exact .text s
  | .list items, _, h => by
    obtain ⟨values, said, rfl⟩ := Option.map_eq_some_iff.mp h
    exact .list (sorted_of_values? items said)
  | .record fields, _, h => by
    obtain ⟨said, hsaid, rfl⟩ := Option.map_eq_some_iff.mp h
    exact .record (pairwise_inOrder said) fun field mem =>
      sorted_of_fieldValues? fields hsaid field (mem_inOrder mem)
  | .tooDeep, _, h => by cases h

/-- What the documents of a list say is sorted. -/
theorem sorted_of_values? : ∀ (ds : List Doc) {items : List Json}, values? ds = some items →
    ∀ item ∈ items, item.Sorted
  | [], _, h => by cases h; exact fun _ mem => absurd mem List.not_mem_nil
  | d :: rest, _, h => by
    simp only [values?, Option.bind_eq_bind, Option.bind_eq_some_iff, Option.some.injEq] at h
    obtain ⟨value, said, items, saidRest, rfl⟩ := h
    exact List.forall_mem_cons.mpr ⟨sorted_of_value? d said, sorted_of_values? rest saidRest⟩

/-- What the documents of a list of fields say is sorted. -/
theorem sorted_of_fieldValues? : ∀ (fs : List (Option String × Doc))
    {fields : List (String × Json)}, fieldValues? fs = some fields →
    ∀ field ∈ fields, field.2.Sorted
  | [], _, h => by cases h; exact fun _ mem => absurd mem List.not_mem_nil
  | (name, d) :: rest, _, h => by
    simp only [fieldValues?, Option.bind_eq_bind, Option.bind_eq_some_iff, Option.some.injEq] at h
    obtain ⟨name, -, value, said, fields, saidRest, rfl⟩ := h
    exact List.forall_mem_cons.mpr
      ⟨sorted_of_value? d said, sorted_of_fieldValues? rest saidRest⟩

end

end Documents

end Json

end ChainFeed
