import Mathlib.Data.List.Nodup
import Mathlib.Order.Nat
import ChainFeed.Proofs.Resource.Laws

/-!
# Coherent indexes

An index keeps its resources twice: by id, and as the list of ids in the order in which they were
added. It is **coherent** (`Index.Coherent`) if the two say the same, every resource is stored
under its own id, and its stamps were given out by the index's clock, the later one last.

Everything that an operation can do to an index is one of six **steps** (`Index.Step`): nothing,
a stamp that is taken in vain, a new resource behind all others, another content for a stored
resource, the removal of a resource, and the removal of all. So what holds of all steps is proved
once for each of them: coherence is kept (`Coherent.step`), and whatever is stored behind a step
was stored before or carries a stamp that was not given out before (`Coherent.get?_step`).
-/

namespace ChainFeed

namespace Index

open Resource

/-! ### Looking up -/

section

variable {R : Type}

@[simp]
theorem get?_empty (i : String) : (Index.empty : Index R).get? i = none :=
  Std.TreeMap.getElem?_emptyc

@[simp]
theorem get?_clear (i : String) (index : Index R) : index.clear.get? i = none :=
  Std.TreeMap.getElem?_emptyc

theorem contains_eq_isSome_get? (i : String) (index : Index R) :
    index.contains i = (index.get? i).isSome :=
  Std.TreeMap.contains_eq_isSome_getElem?

/-- The index without the resource that has an id. -/
def erase (target : String) (index : Index R) : Index R :=
  { index with
    entries := index.entries.erase target
    order := index.order.filter (· ≠ target) }

theorem get?_erase (target : String) (index : Index R) (i : String) :
    (index.erase target).get? i = if target = i then none else index.get? i := by
  simp only [erase, get?, Std.TreeMap.getElem?_erase, Std.compare_eq_iff_eq]

end

variable {R : Type} [Resource R]

theorem get?_append (now : Nat) (r : R) (index : Index R) (i : String) :
    (index.append now r).get? i =
      if Resource.id r = i then some (withStamps (Stamps.added (index.clock.stamp now)) r)
      else index.get? i := by
  simp only [append, get?, Std.TreeMap.getElem?_insert, Std.compare_eq_iff_eq]

theorem get?_append_self (now : Nat) (r : R) (index : Index R) :
    (index.append now r).get? (Resource.id r) =
      some (withStamps (Stamps.added (index.clock.stamp now)) r) := by
  rw [get?_append, if_pos rfl]

/-- The index where a resource takes the place of the stored one with its id. -/
def replace (now : Nat) (r : R) (index : Index R) : Index R :=
  { index with
    entries := index.entries.insert (Resource.id r) (index.stampChange now r)
    clock := index.clock.tick now }

theorem get?_replace (now : Nat) (r : R) (index : Index R) (i : String) :
    (index.replace now r).get? i =
      if Resource.id r = i then some (index.stampChange now r) else index.get? i := by
  simp only [replace, get?, Std.TreeMap.getElem?_insert, Std.compare_eq_iff_eq]

theorem get?_replace_self (now : Nat) (r : R) (index : Index R) :
    (index.replace now r).get? (Resource.id r) = some (index.stampChange now r) := by
  rw [get?_replace, if_pos rfl]

/-! ### Coherence -/

/-- How an index whose last stamp is `last` holds a resource under an id. -/
structure Filed (last : Nat) (i : String) (r : R) : Prop where
  /-- The resource is stored under its own id. -/
  id_eq : Resource.id r = i
  /-- No resource is stamped zero. -/
  created_pos : 0 < (stamps r).createdAt
  /-- No resource changed before it was added. -/
  created_le : (stamps r).createdAt ≤ (stamps r).updatedAt
  /-- No stamp is beyond the last one given out. -/
  updated_le : (stamps r).updatedAt ≤ last

theorem Filed.mono {last later : Nat} {i : String} {r : R} (h : Filed last i r)
    (hle : last ≤ later) : Filed later i r :=
  ⟨h.id_eq, h.created_pos, h.created_le, h.updated_le.trans hle⟩

/-- The last change of a stored resource is the later of its stamps. -/
theorem Filed.changedAt_eq {last : Nat} {i : String} {r : R} (h : Filed last i r) :
    changedAt r = (stamps r).updatedAt :=
  Nat.max_eq_right h.created_le

/-- An index whose parts fit together. -/
structure Coherent (index : Index R) : Prop where
  /-- No id is listed twice. -/
  nodup : index.order.toList.Nodup
  /-- The listed ids are those of the stored resources. -/
  mem_order_iff (i : String) : i ∈ index.order.toList ↔ (index.get? i).isSome
  /-- Each resource is stored as it should be. -/
  filed {i : String} {r : R} : index.get? i = some r → Filed index.clock.last i r

namespace Coherent

theorem empty : (Index.empty : Index R).Coherent where
  nodup := List.nodup_nil
  mem_order_iff i := by simp [Index.empty, get?]
  filed h := by simp at h

variable {index : Index R}

theorem changedAt_pos (h : index.Coherent) {i : String} {r : R} (hr : index.get? i = some r) :
    0 < changedAt r :=
  (h.filed hr).created_pos.trans_le (Nat.le_max_left _ _)

theorem changedAt_le (h : index.Coherent) {i : String} {r : R} (hr : index.get? i = some r) :
    changedAt r ≤ index.clock.last :=
  (h.filed hr).changedAt_eq ▸ (h.filed hr).updated_le

/-- The listed resources are the stored ones. -/
theorem mem_toList_iff (h : index.Coherent) {r : R} :
    r ∈ index.toList ↔ index.get? (Resource.id r) = some r := by
  rw [toList, List.mem_filterMap]
  constructor
  · rintro ⟨i, -, hr⟩
    rw [(h.filed hr).id_eq]
    exact hr
  · intro hr
    exact ⟨Resource.id r, (h.mem_order_iff _).mpr (Option.isSome_of_eq_some hr), hr⟩

/-- An id is stored if and only if a listed resource has it. -/
theorem contains_iff (h : index.Coherent) {i : String} :
    index.contains i ↔ ∃ r ∈ index.toList, Resource.id r = i := by
  rw [contains_eq_isSome_get?, Option.isSome_iff_exists]
  constructor
  · rintro ⟨r, hr⟩
    have hid := (h.filed hr).id_eq
    exact ⟨r, h.mem_toList_iff.mpr (hid ▸ hr), hid⟩
  · rintro ⟨r, hr, rfl⟩
    exact ⟨r, h.mem_toList_iff.mp hr⟩

/-- The listed resources have the listed ids. -/
theorem map_id_toList (h : index.Coherent) :
    index.toList.map Resource.id = index.order.toList := by
  -- the induction is on any list of stored ids: the listed ids change with the index
  have key : ∀ ids : List String, (∀ i ∈ ids, (index.get? i).isSome) →
      (ids.filterMap fun i => index.get? i).map Resource.id = ids := by
    intro ids
    induction ids with
    | nil => intro _; rfl
    | cons i ids ih =>
      intro hids
      obtain ⟨r, hr⟩ := Option.isSome_iff_exists.mp (hids i List.mem_cons_self)
      rw [List.filterMap_cons]
      simp only [hr, List.map_cons, (h.filed hr).id_eq,
        ih fun j hj => hids j (List.mem_cons_of_mem _ hj)]
  exact key _ fun i hi => (h.mem_order_iff i).mp hi

end Coherent

/-! ### Steps -/

/-- What an operation can do to an index while the wall clock shows `now`. -/
inductive Step (now : Nat) (index : Index R) : Index R → Prop
  /-- Nothing happens. -/
  | idle : Step now index index
  /-- A stamp is taken for a change that fails. -/
  | miss : Step now index { index with clock := index.clock.tick now }
  /-- A new resource is stored behind all others. -/
  | append (r : R) (new : index.get? (Resource.id r) = none) : Step now index (index.append now r)
  /-- A stored resource changes; what takes its place has its stamps. -/
  | replace (r stored : R) (old : index.get? (Resource.id r) = some stored)
      (same : stamps r = stamps stored) : Step now index (index.replace now r)
  /-- A resource is removed. -/
  | erase (target : String) : Step now index (index.erase target)
  /-- All resources are removed. -/
  | clear : Step now index index.clear

theorem add_step (now : Nat) (r : R) (index : Index R) : Step now index (index.add now r).2 := by
  unfold add
  split
  · exact .idle
  · rename_i h
    refine .append r ?_
    simpa [contains_eq_isSome_get?] using h

theorem delete_step (now : Nat) (target : String) (index : Index R) :
    Step now index (index.delete target).2 := by
  unfold delete
  split
  · exact .erase target
  · exact .idle

/-! ### What steps keep -/

variable {now : Nat} {a b : Index R}

/-- Stamps are not given back. -/
theorem Step.last_le (step : Step now a b) : a.clock.last ≤ b.clock.last := by
  have hlt := a.clock.last_lt_stamp now
  cases step with
  | idle | erase | clear => exact Nat.le_refl _
  | miss | append | replace => exact hlt.le

/-- The listed ids stay those of the stored resources. -/
theorem Coherent.mem_order_step (h : a.Coherent) (step : Step now a b) (i : String) :
    i ∈ b.order.toList ↔ (b.get? i).isSome := by
  cases step with
  | idle => exact h.mem_order_iff i
  | miss => exact h.mem_order_iff i
  | append r new =>
    rw [get?_append]
    simp only [Index.append, Array.toList_push, List.mem_append, h.mem_order_iff,
      List.mem_singleton]
    by_cases hi : Resource.id r = i
    · simp [hi]
    · simp [hi, Ne.symm hi]
  | replace r stored old same =>
    rw [get?_replace]
    simp only [Index.replace, h.mem_order_iff]
    split
    · rename_i hi
      rw [← hi, old]
      rfl
    · rfl
  | erase target =>
    rw [get?_erase]
    simp only [Index.erase, Array.toList_filter, List.mem_filter, h.mem_order_iff]
    by_cases hi : target = i
    · simp [hi]
    · simp [hi, Ne.symm hi]
  | clear =>
    rw [get?_clear]
    exact iff_of_false List.not_mem_nil Bool.false_ne_true

/-- The listed ids stay without repetition. -/
theorem Coherent.nodup_step (h : a.Coherent) (step : Step now a b) : b.order.toList.Nodup := by
  cases step with
  | idle => exact h.nodup
  | miss => exact h.nodup
  | append r new =>
    have hnew : Resource.id r ∉ a.order.toList := by
      rw [h.mem_order_iff, new]
      exact Bool.false_ne_true
    simp only [Index.append, Array.toList_push]
    exact List.nodup_append.mpr ⟨h.nodup, List.nodup_singleton _, by
      rintro i hi j hj rfl
      exact hnew (List.mem_singleton.mp hj ▸ hi)⟩
  | replace r stored old same => exact h.nodup
  | erase target =>
    simp only [Index.erase, Array.toList_filter]
    exact h.nodup.filter _
  | clear => exact List.nodup_nil

variable [LawfulResource R]

theorem update_step (now : Nat) (target : String) (patch : Patch R) {index : Index R}
    (h : index.Coherent) : Step now index (index.update now target patch).2 := by
  unfold update
  split
  · rename_i stored hs
    have hid : Resource.id (apply patch stored) = target := by
      rw [LawfulResource.id_apply, (h.filed hs).id_eq]
    have step : Step now index (index.replace now (apply patch stored)) :=
      .replace _ stored (by rw [hid]; exact hs) (LawfulResource.stamps_apply _ _)
    rwa [replace, hid] at step
  · exact .miss

/-- What merging makes of a stored resource has the id of the merged one. -/
theorem Coherent.id_merge_eq {index : Index R} (h : index.Coherent) {r stored : R}
    (old : index.get? (Resource.id r) = some stored) :
    Resource.id (Resource.merge stored r) = Resource.id r := by
  rw [id_merge, (h.filed old).id_eq]

theorem merge_step (now : Nat) (r : R) {index : Index R} (h : index.Coherent) :
    Step now index (index.merge now r).2 := by
  unfold merge
  split
  · rename_i stored hs
    dsimp only
    split
    · exact .idle
    · exact .replace (Resource.merge stored r) stored (h.id_merge_eq hs ▸ hs) (stamps_merge _ _)
  · rename_i hs
    exact .append r hs

/-- How a resource is held that was just added. -/
theorem filed_added {time : Nat} (r : R) (hpos : 0 < time) :
    Filed time (Resource.id r) (withStamps (Stamps.added time) r) := by
  have hs : stamps (withStamps (Stamps.added time) r) = ⟨time, time⟩ :=
    LawfulResource.stamps_withStamps _ _
  exact ⟨LawfulResource.id_withStamps _ _, by rwa [hs], by rw [hs], by rw [hs]⟩

/-- How a resource is held that just took the place of a stored one. -/
theorem Filed.changed {last time : Nat} {i : String} {r stored : R} (h : Filed last i stored)
    (same : stamps r = stamps stored) (hle : last ≤ time) :
    Filed time (Resource.id r) (withStamps { stamps r with updatedAt := time } r) := by
  have hs : stamps (withStamps { stamps r with updatedAt := time } r) =
      ⟨(stamps stored).createdAt, time⟩ := by
    rw [LawfulResource.stamps_withStamps, same]
  refine ⟨LawfulResource.id_withStamps _ _, ?_, ?_, by rw [hs]⟩
  · rw [hs]
    exact h.created_pos
  · rw [hs]
    exact h.created_le.trans (h.updated_le.trans hle)

/-- Whatever is stored behind a step was stored before, or its last change carries the stamp that
the step took. -/
theorem Coherent.get?_step (h : a.Coherent) (step : Step now a b) {i : String} {r : R}
    (hr : b.get? i = some r) :
    a.get? i = some r ∨
      Filed b.clock.last i r ∧ (stamps r).updatedAt = b.clock.last ∧
        a.clock.last < b.clock.last := by
  have hlt := a.clock.last_lt_stamp now
  cases step with
  | idle => exact .inl hr
  | miss => exact .inl hr
  | append s new =>
    rw [get?_append] at hr
    split at hr
    · rename_i hi
      obtain rfl := Option.some.inj hr
      refine .inr ⟨hi ▸ filed_added s (Nat.zero_lt_of_lt hlt), ?_, hlt⟩
      rw [LawfulResource.stamps_withStamps]
      rfl
    · exact .inl hr
  | replace s stored old same =>
    rw [get?_replace] at hr
    split at hr
    · rename_i hi
      obtain rfl := Option.some.inj hr
      refine .inr ⟨hi ▸ (h.filed old).changed same hlt.le, ?_, hlt⟩
      rw [stampChange, LawfulResource.stamps_withStamps]
      rfl
    · exact .inl hr
  | erase target =>
    rw [get?_erase] at hr
    split at hr
    · cases hr
    · exact .inl hr
  | clear =>
    rw [get?_clear] at hr
    cases hr

/-- Whatever did not change after the last stamp was stored before the step. -/
theorem Coherent.get?_of_changedAt_le (h : a.Coherent) (step : Step now a b) {i : String} {r : R}
    (hr : b.get? i = some r) (hle : changedAt r ≤ a.clock.last) : a.get? i = some r := by
  rcases h.get?_step step hr with hr | ⟨hfiled, hupdated, hlt⟩
  · exact hr
  · rw [hfiled.changedAt_eq, hupdated] at hle
    exact absurd hlt (not_lt.mpr hle)

/-- **Steps keep an index coherent.** -/
theorem Coherent.step (h : a.Coherent) (step : Step now a b) : b.Coherent where
  nodup := h.nodup_step step
  mem_order_iff := h.mem_order_step step
  filed hr := by
    rcases h.get?_step step hr with hr | ⟨hfiled, -, -⟩
    · exact (h.filed hr).mono step.last_le
    · exact hfiled

end Index

end ChainFeed
