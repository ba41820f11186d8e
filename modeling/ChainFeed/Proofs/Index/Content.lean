import ChainFeed.Proofs.Index.Coherence
import ChainFeed.Proofs.Resource.Sameness

/-!
# Indexes with the same content

Two indexes **agree on a scope** (`Index.AgreeOn`), which is a set of ids, if they list the ids in
the scope in the same order and store the same resource under each of them, stamps aside. They have
the **same content** (`Index.SameContent`) if they agree on all ids. A reader then finds the same
resources in the same order in both (`SameContent.map_unstamped_toList`).

Merging a resource looks at no stamps, so it keeps two indexes in agreement, whatever the wall
clocks show (`AgreeOn.merge`, `SameContent.merge`). What holds of every stored resource
(`Index.All`) goes on to hold if the merged resource has the property and its values do not break it
(`All.merge`).
-/

namespace ChainFeed

open Resource

/-- The resource without its stamps. -/
def Resource.unstamped {R : Type} [Resource R] (r : R) : R := withStamps Stamps.unset r

/-- Resources that differ in their stamps at most have the same content. -/
theorem Resource.sameContent_of_unstamped_eq {R : Type} [Resource R] [IdempotentResource R]
    {a b : R} (h : unstamped a = unstamped b) : sameContent a b = true := by
  change same (unstamped a) (unstamped b) = true
  rw [h]
  exact IdempotentResource.same_self _

section

variable {R : Type} [Resource R] [LawfulResource R]

@[simp]
theorem Resource.unstamped_withStamps (s : Stamps) (r : R) :
    unstamped (withStamps s r) = unstamped r :=
  LawfulResource.withStamps_withStamps _ _ _

/-- What patching makes of the content does not depend on stamps. -/
theorem Resource.unstamped_merge (stored other : R) :
    unstamped (merge stored other) = apply (toPatch other) (unstamped stored) :=
  (LawfulResource.apply_withStamps _ _ _).symm

theorem Resource.id_eq_of_unstamped_eq {a b : R} (h : unstamped a = unstamped b) :
    Resource.id a = Resource.id b := by
  rw [← LawfulResource.id_withStamps Stamps.unset a, ← LawfulResource.id_withStamps Stamps.unset b]
  exact congrArg Resource.id h

end

namespace Index

variable {R : Type} [Resource R]

/-! ### What merging does -/

/-- A new resource is appended. -/
theorem merge_of_none {now : Nat} {r : R} {index : Index R}
    (h : index.get? (Resource.id r) = none) : (index.merge now r).2 = index.append now r := by
  rw [merge, h]

/-- A resource that brings nothing new changes nothing. -/
theorem merge_of_same {now : Nat} {r stored : R} {index : Index R}
    (h : index.get? (Resource.id r) = some stored)
    (hsame : sameContent (Resource.merge stored r) stored = true) :
    (index.merge now r).2 = index := by
  rw [merge, h]
  dsimp only
  rw [if_pos hsame]

/-- A resource that brings new content replaces the stored one. -/
theorem merge_of_new {now : Nat} {r stored : R} {index : Index R}
    (h : index.get? (Resource.id r) = some stored)
    (hnew : ¬sameContent (Resource.merge stored r) stored = true) :
    (index.merge now r).2 = index.replace now (Resource.merge stored r) := by
  rw [merge, h]
  dsimp only
  rw [if_neg hnew]
  rfl

/-- Whatever is stored after merging a resource was stored before, or is that resource, or is the
stored one with the new values. -/
theorem get?_merge_cases {now : Nat} {r s : R} {index : Index R} {i : String}
    (hs : (index.merge now r).2.get? i = some s) :
    index.get? i = some s ∨ (∃ t, Resource.id r = i ∧ s = withStamps t r) ∨
      ∃ stored t, index.get? (Resource.id r) = some stored ∧
        Resource.id (Resource.merge stored r) = i ∧ s = withStamps t (Resource.merge stored r) := by
  cases hget : index.get? (Resource.id r) with
  | none =>
    rw [merge_of_none hget, get?_append] at hs
    split at hs
    · exact .inr (.inl ⟨_, ‹_›, (Option.some.inj hs).symm⟩)
    · exact .inl hs
  | some stored =>
    by_cases hsame : sameContent (Resource.merge stored r) stored = true
    · rw [merge_of_same hget hsame] at hs
      exact .inl hs
    · rw [merge_of_new hget hsame, get?_replace] at hs
      split at hs
      · exact .inr (.inr ⟨stored, _, rfl, ‹_›, (Option.some.inj hs).symm⟩)
      · exact .inl hs

/-- Merging changes no other resource. -/
theorem Coherent.get?_merge_of_ne [LawfulResource R] {index : Index R} (h : index.Coherent)
    (now : Nat) {r : R} {i : String} (hi : Resource.id r ≠ i) :
    (index.merge now r).2.get? i = index.get? i := by
  cases hget : index.get? (Resource.id r) with
  | none => rw [merge_of_none hget, get?_append, if_neg hi]
  | some stored =>
    by_cases hsame : sameContent (Resource.merge stored r) stored = true
    · rw [merge_of_same hget hsame]
    · rw [merge_of_new hget hsame, get?_replace, h.id_merge_eq hget, if_neg hi]

/-- What is stored stays stored as it is, or with the values of what is merged. -/
theorem Coherent.get?_merge_of_some [LawfulResource R] {index : Index R} (h : index.Coherent)
    (now : Nat) (r : R) {i : String} {stored : R} (hstored : index.get? i = some stored) :
    ∃ s, (index.merge now r).2.get? i = some s ∧
      (s = stored ∨ Resource.id r = i ∧ ∃ t, s = withStamps t (Resource.merge stored r)) := by
  cases hget : index.get? (Resource.id r) with
  | none =>
    have hne : Resource.id r ≠ i := by
      rintro rfl
      rw [hget] at hstored
      cases hstored
    rw [merge_of_none hget, get?_append, if_neg hne]
    exact ⟨stored, hstored, .inl rfl⟩
  | some found =>
    by_cases hsame : sameContent (Resource.merge found r) found = true
    · rw [merge_of_same hget hsame]
      exact ⟨stored, hstored, .inl rfl⟩
    · rw [merge_of_new hget hsame, get?_replace, h.id_merge_eq hget]
      split
      · rename_i hi
        rw [hi] at hget
        obtain rfl := Option.some.inj (hget.symm.trans hstored)
        exact ⟨_, rfl, .inr ⟨hi, _, rfl⟩⟩
      · exact ⟨stored, hstored, .inl rfl⟩

/-- Merging removes nothing, and what was merged is stored. -/
theorem contains_merge {now : Nat} {r : R} {index : Index R} {i : String}
    (h : index.contains i ∨ Resource.id r = i) : (index.merge now r).2.contains i := by
  rw [contains_eq_isSome_get?] at h ⊢
  cases hget : index.get? (Resource.id r) with
  | none =>
    rw [merge_of_none hget, get?_append]
    split
    · rfl
    · exact h.resolve_right ‹_›
  | some stored =>
    have hi : (index.get? i).isSome := by
      rcases h with h | rfl
      · exact h
      · exact Option.isSome_of_eq_some hget
    by_cases hsame : sameContent (Resource.merge stored r) stored = true
    · rw [merge_of_same hget hsame]
      exact hi
    · rw [merge_of_new hget hsame, get?_replace]
      split
      · rfl
      · exact hi

/-- Merging stores what is merged, and nothing else that was not stored before. -/
theorem Coherent.contains_merge_iff [LawfulResource R] {index : Index R} (h : index.Coherent)
    (now : Nat) (r : R) (i : String) :
    (index.merge now r).2.contains i ↔ index.contains i ∨ Resource.id r = i := by
  refine ⟨fun hi => ?_, contains_merge⟩
  rw [contains_eq_isSome_get?] at hi ⊢
  obtain ⟨s, hs⟩ := Option.isSome_iff_exists.mp hi
  rcases get?_merge_cases hs with hs | ⟨t, hid, -⟩ | ⟨stored, t, hstored, hid, -⟩
  · exact .inl (Option.isSome_of_eq_some hs)
  · exact .inr hid
  · exact .inr ((h.id_merge_eq hstored).symm.trans hid)

/-- Patching changes the resource with the id, if there is one, and nothing else. -/
theorem get?_update (now : Nat) (target : String) (patch : Patch R) (index : Index R) (i : String) :
    (index.update now target patch).2.get? i =
      if target = i then (index.get? i).map fun stored => index.stampChange now (apply patch stored)
      else index.get? i := by
  rw [update]
  cases hget : index.get? target with
  | none =>
    dsimp only
    split
    · rename_i hi
      rw [← hi, hget]
      exact hget
    · rfl
  | some stored =>
    simp only [get?, Std.TreeMap.getElem?_insert, Std.compare_eq_iff_eq]
    split
    · rename_i hi
      rw [← hi, show index.entries[target]? = some stored from hget]
      rfl
    · rfl

/-- Patching removes nothing. -/
theorem contains_update {now : Nat} {target : String} {patch : Patch R} {index : Index R}
    {i : String} (h : index.contains i) : (index.update now target patch).2.contains i := by
  rw [contains_eq_isSome_get?] at h ⊢
  rw [get?_update]
  split
  · rw [Option.isSome_map]
    exact h
  · exact h

/-! ### What holds of all stored resources -/

/-- Every stored resource has a property. -/
def All (P : R → Prop) (index : Index R) : Prop :=
  ∀ i r, index.get? i = some r → P r

namespace All

variable {P Q : R → Prop} {index : Index R} {now : Nat}

omit [Resource R] in
theorem clear (index : Index R) : index.clear.All P := by
  intro i r hr
  rw [get?_clear] at hr
  cases hr

omit [Resource R] in
theorem mono (h : index.All P) (hPQ : ∀ r, P r → Q r) : index.All Q :=
  fun i r hr => hPQ r (h i r hr)

omit [Resource R] in
theorem of_mem_toList (h : index.All P) {r : R} (hr : r ∈ index.toList) : P r := by
  obtain ⟨i, -, hi⟩ := List.mem_filterMap.mp hr
  exact h i r hi

/-- Merging a resource keeps a property that the resource has and that its values do not break. -/
theorem merge (h : index.All P) {r : R} (hnew : ∀ t, P (withStamps t r))
    (hold : ∀ stored t, P stored → P (withStamps t (Resource.merge stored r))) :
    (index.merge now r).2.All P := by
  intro i s hs
  rcases get?_merge_cases hs with hs | ⟨t, -, rfl⟩ | ⟨stored, t, hstored, -, rfl⟩
  · exact h i s hs
  · exact hnew t
  · exact hold stored t (h _ stored hstored)

/-- Patching keeps a property that the patch does not break. -/
theorem update (h : index.All P) {target : String} {patch : Patch R}
    (hpatch : ∀ stored t, P stored → P (withStamps t (apply patch stored))) :
    (index.update now target patch).2.All P := by
  intro i s hs
  rw [get?_update] at hs
  split at hs
  · obtain ⟨stored, hstored, rfl⟩ := Option.map_eq_some_iff.mp hs
    exact hpatch stored _ (h i stored hstored)
  · exact h i s hs

end All

/-! ### Agreement -/

/-- The indexes list the same ids of a scope in the same order, and store the same resources under
them, stamps aside. -/
structure AgreeOn (scope : String → Bool) (a b : Index R) : Prop where
  /-- The ids in the scope are the same, in the same order. -/
  order_eq : a.order.toList.filter scope = b.order.toList.filter scope
  /-- The resources with these ids are the same, stamps aside. -/
  content_eq (i : String) : scope i → (a.get? i).map unstamped = (b.get? i).map unstamped

namespace AgreeOn

variable {scope : String → Bool} {a b c : Index R}

theorem refl (a : Index R) : a.AgreeOn scope a := ⟨rfl, fun _ _ => rfl⟩

theorem symm (h : a.AgreeOn scope b) : b.AgreeOn scope a :=
  ⟨h.order_eq.symm, fun i hi => (h.content_eq i hi).symm⟩

theorem trans (hab : a.AgreeOn scope b) (hbc : b.AgreeOn scope c) : a.AgreeOn scope c :=
  ⟨hab.order_eq.trans hbc.order_eq,
    fun i hi => (hab.content_eq i hi).trans (hbc.content_eq i hi)⟩

/-- Both indexes store nothing under an id of the scope, or the same resource, stamps aside. -/
theorem get?_cases (h : a.AgreeOn scope b) {i : String} (hi : scope i) :
    (a.get? i = none ∧ b.get? i = none) ∨
      ∃ r s, a.get? i = some r ∧ b.get? i = some s ∧ unstamped r = unstamped s := by
  have heq := h.content_eq i hi
  cases hr : a.get? i with
  | none =>
    rw [hr, Option.map_none, eq_comm, Option.map_eq_none_iff] at heq
    exact .inl ⟨rfl, heq⟩
  | some r =>
    rw [hr, Option.map_some, eq_comm, Option.map_eq_some_iff] at heq
    obtain ⟨s, hs, heq⟩ := heq
    exact .inr ⟨r, s, rfl, hs, heq.symm⟩

variable [LawfulResource R]

/-- Appending the same resource keeps two indexes in agreement. -/
theorem append (h : a.AgreeOn scope b) (now later : Nat) (r : R) :
    (a.append now r).AgreeOn scope (b.append later r) where
  order_eq := by
    simp only [Index.append, Array.toList_push, List.filter_append, h.order_eq]
  content_eq i hi := by
    rw [get?_append, get?_append]
    split
    · rw [Option.map_some, Option.map_some, unstamped_withStamps, unstamped_withStamps]
    · exact h.content_eq i hi

/-- Replacing by the same resource keeps two indexes in agreement. -/
theorem replace (h : a.AgreeOn scope b) (now later : Nat) {r s : R}
    (hrs : unstamped r = unstamped s) : (a.replace now r).AgreeOn scope (b.replace later s) where
  order_eq := h.order_eq
  content_eq i hi := by
    rw [get?_replace, get?_replace, id_eq_of_unstamped_eq hrs]
    split
    · rw [Option.map_some, Option.map_some, stampChange, stampChange, unstamped_withStamps,
        unstamped_withStamps, hrs]
    · exact h.content_eq i hi

/-- **Merging a resource of the scope into both has the same outcome**, and they stay in agreement.
-/
theorem merge (h : a.AgreeOn scope b) (now later : Nat) {r : R} (hr : scope (Resource.id r)) :
    (a.merge now r).1 = (b.merge later r).1 ∧
      (a.merge now r).2.AgreeOn scope (b.merge later r).2 := by
  rcases h.get?_cases hr with ⟨ha, hb⟩ | ⟨s, t, ha, hb, hst⟩
  · rw [Index.merge, Index.merge, ha, hb]
    exact ⟨rfl, h.append now later r⟩
  · have hmerged : unstamped (Resource.merge s r) = unstamped (Resource.merge t r) := by
      rw [unstamped_merge, unstamped_merge, hst]
    have hsame : sameContent (Resource.merge s r) s = sameContent (Resource.merge t r) t :=
      congrArg₂ same hmerged hst
    rw [Index.merge, Index.merge, ha, hb]
    dsimp only
    rw [hsame]
    split
    · exact ⟨rfl, h⟩
    · exact ⟨rfl, h.replace now later hmerged⟩

end AgreeOn

/-! ### The same content -/

/-- The indexes list the same ids in the same order and store the same resources, stamps aside. -/
structure SameContent (a b : Index R) : Prop where
  /-- The ids are the same, in the same order. -/
  order_eq : a.order = b.order
  /-- The resources are the same, stamps aside. -/
  content_eq (i : String) : (a.get? i).map unstamped = (b.get? i).map unstamped

/-- To have the same content is to agree on all ids. -/
theorem sameContent_iff_agreeOn {a b : Index R} :
    a.SameContent b ↔ a.AgreeOn (fun _ => true) b := by
  refine ⟨fun h => ⟨by rw [h.order_eq], fun i _ => h.content_eq i⟩, fun h => ⟨?_, fun i => ?_⟩⟩
  · have horder := h.order_eq
    rw [List.filter_true, List.filter_true] at horder
    exact Array.toList_inj.mp horder
  · exact h.content_eq i rfl

namespace SameContent

variable {a b c : Index R}

theorem refl (a : Index R) : a.SameContent a := ⟨rfl, fun _ => rfl⟩

theorem of_eq (h : a = b) : a.SameContent b := h ▸ refl a

theorem symm (h : a.SameContent b) : b.SameContent a :=
  ⟨h.order_eq.symm, fun i => (h.content_eq i).symm⟩

theorem trans (hab : a.SameContent b) (hbc : b.SameContent c) : a.SameContent c :=
  ⟨hab.order_eq.trans hbc.order_eq, fun i => (hab.content_eq i).trans (hbc.content_eq i)⟩

/-- Two indexes that hold nothing have the same content. -/
theorem clear (a b : Index R) : a.clear.SameContent b.clear :=
  ⟨rfl, fun i => by rw [get?_clear, get?_clear]⟩

/-- A reader finds the same resources in the same order, stamps aside. -/
theorem map_unstamped_toList (h : a.SameContent b) :
    a.toList.map unstamped = b.toList.map unstamped := by
  rw [toList, toList, List.map_filterMap, List.map_filterMap, h.order_eq]
  simp only [h.content_eq]

/-- Both indexes store nothing under an id, or the same resource, stamps aside. -/
theorem get?_cases (h : a.SameContent b) (i : String) :
    (a.get? i = none ∧ b.get? i = none) ∨
      ∃ r s, a.get? i = some r ∧ b.get? i = some s ∧ unstamped r = unstamped s :=
  (sameContent_iff_agreeOn.mp h).get?_cases rfl

theorem contains_eq (h : a.SameContent b) (i : String) : a.contains i = b.contains i := by
  rw [contains_eq_isSome_get?, contains_eq_isSome_get?]
  rcases h.get?_cases i with ⟨ha, hb⟩ | ⟨r, s, ha, hb, -⟩
  · rw [ha, hb]
  · rw [ha, hb]
    rfl

variable [LawfulResource R]

/-- **Merging keeps the content the same.** -/
theorem merge (h : a.SameContent b) (now later : Nat) (r : R) :
    (a.merge now r).2.SameContent (b.merge later r).2 :=
  sameContent_iff_agreeOn.mpr ((sameContent_iff_agreeOn.mp h).merge now later rfl).2

end SameContent

end Index

end ChainFeed
