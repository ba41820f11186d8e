import Mathlib.Data.List.Dedup
import Mathlib.Data.List.Induction
import ChainFeed.Proofs.Json.Arrangement

/-!
# Objects

An **object** is told by what its names hold: each name that occurs among its members stands once,
in increasing order, with the last value that the name was given (`Json.object`). Records that are
built field by field, one value after the other, come to the same (`Json.sorted_eq_object`).
-/

namespace ChainFeed

namespace Json

/-- The last value that a name was given, if it was given one. -/
def lastUnder (name : String) (members : List (String × Json)) : Option Json :=
  members.reverse.lookup name

/-- The names of some members in increasing order, each of them once. -/
def namesOf (members : List (String × Json)) : List String :=
  (members.map Prod.fst).dedup.insertionSort (· ≤ ·)

/-- The record that holds the last value under each name. -/
def object (members : List (String × Json)) : Json :=
  record ((namesOf members).map fun name => (name, (lastUnder name members).getD null))

/-! ### Looking up fields -/

theorem lookup_cons_eq (name other : String) (value : Json) (fields : List (String × Json)) :
    ((name, value) :: fields).lookup other =
      if other = name then some value else fields.lookup other := by
  by_cases h : other = name
  · simp [h]
  · have hne : (other == name) = false := beq_false_of_ne h
    simp [List.lookup_cons, hne, h]

theorem lookup_map (names : List String) (value : String → Json) (name : String) :
    (names.map fun n => (n, value n)).lookup name =
      if name ∈ names then some (value name) else none := by
  induction names with
  | nil => rfl
  | cons first rest ih =>
    rw [List.map_cons, lookup_cons_eq, ih]
    by_cases h : name = first <;> simp [h]

theorem lookup_setField (name other : String) (value : Json) (fields : List (String × Json)) :
    (setField name value fields).lookup other =
      if other = name then some value else fields.lookup other := by
  induction fields with
  | nil => rw [setField, lookup_cons_eq]
  | cons first rest ih =>
    obtain ⟨old, x⟩ := first
    rw [setField]
    split_ifs with same less <;> simp only [lookup_cons_eq, ih]
    all_goals split_ifs <;> simp_all

theorem lookup_eq_some_iff_mem {fields : List (String × Json)} (h : (fields.map Prod.fst).Nodup)
    {name : String} {value : Json} :
    fields.lookup name = some value ↔ (name, value) ∈ fields := by
  induction fields with
  | nil => simp
  | cons first rest ih =>
    obtain ⟨other, x⟩ := first
    rw [List.map_cons, List.nodup_cons] at h
    rw [lookup_cons_eq, List.mem_cons, Prod.mk.injEq, ← ih h.2]
    by_cases hname : name = other
    · subst hname
      have habsent : rest.lookup name ≠ some value := by
        rw [Ne, ih h.2]
        exact fun hmem => h.1 (List.mem_map.mpr ⟨_, hmem, rfl⟩)
      simp [habsent, eq_comm]
    · simp [hname]

/-- Fields with increasing names are told by what their names hold. -/
theorem eq_of_lookup_eq {fields others : List (String × Json)}
    (increasing : (fields.map Prod.fst).Pairwise (· < ·))
    (increasing' : (others.map Prod.fst).Pairwise (· < ·))
    (h : ∀ name, fields.lookup name = others.lookup name) : fields = others := by
  have once : (fields.map Prod.fst).Nodup := increasing.imp ne_of_lt
  have once' : (others.map Prod.fst).Nodup := increasing'.imp ne_of_lt
  refine eq_of_perm ?_ increasing increasing'
  rw [List.perm_ext_iff_of_nodup once.of_map once'.of_map]
  rintro ⟨name, value⟩
  rw [← lookup_eq_some_iff_mem once, ← lookup_eq_some_iff_mem once', h]

/-! ### Names and last values -/

theorem mem_namesOf {name : String} {members : List (String × Json)} :
    name ∈ namesOf members ↔ name ∈ members.map Prod.fst := by
  rw [namesOf, List.mem_insertionSort, List.mem_dedup]

theorem pairwise_namesOf (members : List (String × Json)) :
    (namesOf members).Pairwise (· < ·) := by
  have hle : (namesOf members).Pairwise (· ≤ ·) := List.pairwise_insertionSort _ _
  have hne : (namesOf members).Nodup :=
    (List.perm_insertionSort _ _).nodup_iff.mpr (List.nodup_dedup _)
  exact hle.imp₂ (fun _ _ => lt_of_le_of_ne) hne

theorem isSome_lastUnder_iff {name : String} {members : List (String × Json)} :
    (lastUnder name members).isSome ↔ name ∈ members.map Prod.fst := by
  rw [lastUnder, List.lookup_isSome_iff, List.mem_map]
  refine exists_congr fun member => ?_
  rw [List.mem_reverse, beq_iff_eq, eq_comm]

theorem lastUnder_append (name : String) (members more : List (String × Json)) :
    lastUnder name (members ++ more) = (lastUnder name more).or (lastUnder name members) := by
  rw [lastUnder, List.reverse_append, List.lookup_append]
  rfl

/-- Putting fields in order keeps the last value under each name. -/
theorem lookup_inOrder (name : String) (fields : List (String × Json)) :
    (inOrder fields).lookup name = lastUnder name fields := by
  -- the last field is set last, so it is what the induction takes off
  induction fields using List.reverseRecOn with
  | nil => rfl
  | append_singleton before field ih =>
    have hset : inOrder (before ++ [field]) = setField field.1 field.2 (inOrder before) := by
      simp [inOrder, List.foldl_append]
    have hfield : lastUnder name [field] = if name = field.1 then some field.2 else none :=
      lookup_cons_eq field.1 name field.2 []
    rw [hset, lookup_setField, ih, lastUnder_append, hfield]
    split_ifs <;> rfl

/-- **A record that is built field by field is the object of its fields.** -/
theorem sorted_eq_object (fields : List (String × Json)) : sorted fields = object fields := by
  rw [sorted_eq, object]
  congr 1
  refine eq_of_lookup_eq (pairwise_inOrder fields) ?_ fun name => ?_
  · rw [List.map_map]
    simpa [Function.comp_def] using pairwise_namesOf fields
  · rw [lookup_inOrder, lookup_map]
    have hmem : name ∈ namesOf fields ↔ (lastUnder name fields).isSome :=
      mem_namesOf.trans isSome_lastUnder_iff.symm
    cases hlast : lastUnder name fields with
    | none => rw [if_neg (by simp [hmem, hlast])]
    | some value => rw [if_pos (by simp [hmem, hlast]), Option.getD_some]

end Json

end ChainFeed
