import ChainFeed.Proofs.Index.Slice

/-!
# Two indexes side by side

Two indexes that agree on a scope (`Index.AgreeOn`) are compared from write to write. What is
written to both of them under an id of the scope has the same outcome, and they stay in agreement
(`AgreeOn.delete`, `AgreeOn.update`, `AgreeOn.reconcile`). What is written to one of them under an
id outside the scope is none of its business (`AgreeOn.delete_outside`, `AgreeOn.merge_outside`,
`AgreeOn.reconcile_outside`), so the two stay in agreement by transitivity.

A reader who keeps nothing from outside the scope finds the same resources in both, in the same
order (`AgreeOn.map_unstamped_filter`). Indexes with the same content agree on all ids, so all this
is true of them without any condition.
-/

namespace ChainFeed

open Resource

namespace Index

variable {R : Type} [Resource R]

/-- What a reader keeps has ids of a scope, and is stored under such ids. -/
def KeepsWithin (scope : String → Bool) (keep : R → Bool) (index : Index R) : Prop :=
  ∀ i r, index.get? i = some r → keep r → scope i ∧ scope (Resource.id r)

theorem keepsWithin_all (keep : R → Bool) (index : Index R) :
    index.KeepsWithin (fun _ => true) keep := fun _ _ _ _ => ⟨rfl, rfl⟩

/-- In a coherent index, it is enough to know that a reader keeps resources with ids of the scope.
-/
theorem Coherent.keepsWithin {scope : String → Bool} {keep : R → Bool} {index : Index R}
    (h : index.Coherent) (hall : index.All fun r => keep r → scope (Resource.id r)) :
    index.KeepsWithin scope keep := by
  intro i r hr hkeep
  have hscope := hall i r hr hkeep
  exact ⟨(h.filed hr).id_eq ▸ hscope, hscope⟩

namespace AgreeOn

variable {scope : String → Bool} {a b c : Index R}

/-! ### Reading -/

/-- **A reader who keeps nothing from outside the scope sees the same resources in the same
order**, stamps aside. -/
theorem map_unstamped_filter (h : a.AgreeOn scope b) {keep : R → Bool}
    (hkeep : ∀ r, keep (unstamped r) = keep r) (ha : a.KeepsWithin scope keep)
    (hb : b.KeepsWithin scope keep) :
    (a.filter keep).map unstamped = (b.filter keep).map unstamped := by
  -- both sides look up the ids of the scope one by one
  have key (index : Index R) (hindex : index.KeepsWithin scope keep) :
      (index.filter keep).map unstamped =
        (index.order.toList.filter scope).filterMap fun i =>
          ((index.get? i).map unstamped).filter keep := by
    have hread : (index.filter keep).map unstamped =
        index.order.toList.filterMap fun i => ((index.get? i).map unstamped).filter keep := by
      rw [Index.filter, toList, List.filter_filterMap, List.map_filterMap]
      refine List.filterMap_congr fun i _ => ?_
      cases index.get? i with
      | none => rfl
      | some r => by_cases hr : keep r <;> simp [Option.filter, hkeep, hr]
    rw [hread, List.filterMap_filter]
    refine List.filterMap_congr fun i _ => ?_
    split
    · rfl
    · rename_i hi
      cases hget : index.get? i with
      | none => rfl
      | some r =>
        have hr : ¬keep r := fun hr => hi (hindex i r hget hr).1
        simp [Option.filter, hkeep, hr]
  rw [key a ha, key b hb, h.order_eq]
  refine List.filterMap_congr fun i hi => ?_
  rw [h.content_eq i (List.mem_filter.mp hi).2]

/-! ### Removing -/

/-- Removing the resource with an id of the scope from both has the same outcome, and they stay in
agreement. -/
theorem delete (h : a.AgreeOn scope b) {target : String} (htarget : scope target) :
    (a.delete target).1.isOk = (b.delete target).1.isOk ∧
      (a.delete target).2.AgreeOn scope (b.delete target).2 := by
  rw [Index.delete, Index.delete]
  rcases h.get?_cases htarget with ⟨ha, hb⟩ | ⟨s, t, ha, hb, -⟩
  · rw [ha, hb]
    exact ⟨rfl, h⟩
  · rw [ha, hb]
    refine ⟨rfl, ?_, fun i hi => ?_⟩
    · simp only [Array.toList_filter, List.filter_comm (p := scope), h.order_eq]
    · show ((a.erase target).get? i).map unstamped = ((b.erase target).get? i).map unstamped
      rw [get?_erase, get?_erase]
      split
      · rfl
      · exact h.content_eq i hi

/-- What is removed outside the scope is none of its business. -/
theorem delete_outside {target : String} (htarget : ¬scope target) (a : Index R) :
    a.AgreeOn scope (a.delete target).2 := by
  rw [Index.delete]
  cases a.get? target with
  | none => exact refl a
  | some stored =>
    refine ⟨?_, fun i hi => ?_⟩
    · simp only [Array.toList_filter, List.filter_filter]
      refine List.filter_congr fun i _ => ?_
      rw [eq_comm, Bool.and_eq_left_iff_imp]
      rintro hi
      exact decide_eq_true fun heq => htarget (heq ▸ hi)
    · show _ = ((a.erase target).get? i).map unstamped
      rw [get?_erase, if_neg]
      rintro rfl
      exact htarget hi

/-! ### Changing and merging -/

/-- A new resource outside the scope is none of its business. -/
theorem append_outside (now : Nat) {r : R} (hr : ¬scope (Resource.id r)) (a : Index R) :
    a.AgreeOn scope (a.append now r) where
  order_eq := by
    simp [Index.append, List.filter_append, hr]
  content_eq i hi := by
    rw [get?_append, if_neg]
    rintro rfl
    exact hr hi

variable [LawfulResource R]

/-- Changing the resource with an id of the scope by a patch has the same outcome in both, and they
stay in agreement. -/
theorem update (h : a.AgreeOn scope b) (now later : Nat) {target : String} (htarget : scope target)
    (patch : Patch R) :
    (a.update now target patch).1 = (b.update later target patch).1 ∧
      (a.update now target patch).2.AgreeOn scope (b.update later target patch).2 := by
  have hcontent (i : String) (hi : scope i) :
      ((a.update now target patch).2.get? i).map unstamped =
        ((b.update later target patch).2.get? i).map unstamped := by
    rw [get?_update, get?_update]
    split
    · rcases h.get?_cases hi with ⟨ha, hb⟩ | ⟨s, t, ha, hb, hst⟩
      · rw [ha, hb]
        rfl
      · have hpatched : unstamped (apply patch s) = unstamped (apply patch t) := by
          rw [unstamped, unstamped, ← LawfulResource.apply_withStamps,
            ← LawfulResource.apply_withStamps]
          exact congrArg (apply patch) hst
        rw [ha, hb]
        simp only [Option.map_some, stampChange, unstamped_withStamps, hpatched]
    · exact h.content_eq i hi
  rcases h.get?_cases htarget with ⟨ha, hb⟩ | ⟨s, t, ha, hb, -⟩
  · rw [Index.update, Index.update, ha, hb] at hcontent ⊢
    exact ⟨rfl, h.order_eq, hcontent⟩
  · rw [Index.update, Index.update, ha, hb] at hcontent ⊢
    exact ⟨rfl, h.order_eq, hcontent⟩

/-- What is merged outside the scope is none of its business. -/
theorem merge_outside (ha : a.Coherent) (now : Nat) {r : R} (hr : ¬scope (Resource.id r)) :
    a.AgreeOn scope (a.merge now r).2 := by
  cases hget : a.get? (Resource.id r) with
  | none =>
    rw [merge_of_none hget]
    exact append_outside now hr a
  | some stored =>
    by_cases hsame : sameContent (Resource.merge stored r) stored = true
    · rw [merge_of_same hget hsame]
      exact refl a
    · rw [merge_of_new hget hsame]
      refine ⟨rfl, fun i hi => ?_⟩
      rw [get?_replace, ha.id_merge_eq hget, if_neg]
      rintro rfl
      exact hr hi

end AgreeOn

/-! ### Reconciling -/

namespace AgreeOn

variable {scope : String → Bool} {a b : Index StorageItem} {address : String}
  {listing : List StorageItem}

/-- Merging items of the scope into both changes the same. -/
theorem mergeAll (h : a.AgreeOn scope b) {items : List StorageItem}
    (hitems : ∀ item ∈ items, scope item.id) (clock later : Nat → Nat) :
    (a.mergeAll clock items).1 = (b.mergeAll later items).1 ∧
      (a.mergeAll clock items).2.AgreeOn scope (b.mergeAll later items).2 := by
  induction items generalizing a b clock later with
  | nil => exact ⟨rfl, h⟩
  | cons item rest ih =>
    rw [List.forall_mem_cons] at hitems
    obtain ⟨houtcome, hmerged⟩ := h.merge (clock 0) (later 0) hitems.1
    obtain ⟨hchange, hrest⟩ := ih hmerged hitems.2 (fun n => clock (n + 1)) fun n => later (n + 1)
    refine ⟨?_, hrest⟩
    simp only [Index.mergeAll, houtcome, hchange]

/-- Removing ids of the scope from both removes as much. -/
theorem deleteAll (h : a.AgreeOn scope b) {ids : List String} (hids : ∀ i ∈ ids, scope i) :
    (a.deleteAll ids).1 = (b.deleteAll ids).1 ∧
      (a.deleteAll ids).2.AgreeOn scope (b.deleteAll ids).2 := by
  induction ids generalizing a b with
  | nil => exact ⟨rfl, h⟩
  | cons i rest ih =>
    rw [List.forall_mem_cons] at hids
    obtain ⟨hresult, hdeleted⟩ := h.delete hids.1
    obtain ⟨hcount, hrest⟩ := ih hdeleted hids.2
    refine ⟨?_, hrest⟩
    simp only [Index.deleteAll, hresult, hcount]

/-- If the items of an account are in the scope, the same ids are stale in both indexes. -/
theorem staleFor_eq (h : a.AgreeOn scope b) (ha : a.KeepsWithin scope (·.address == address))
    (hb : b.KeepsWithin scope (·.address == address)) (listing : List StorageItem) :
    staleFor address listing a = staleFor address listing b := by
  have hids (items : List StorageItem) :
      items.map (·.id) = (items.map unstamped).map (·.id) := by
    rw [List.map_map]
    rfl
  have hwithin {index : Index StorageItem}
      (hindex : index.KeepsWithin scope (·.address == address)) :
      index.KeepsWithin scope fun item => item.address == address &&
        !((listedFor address listing).map (·.id)).contains item.id :=
    fun i item hitem hkeep => hindex i item hitem (Bool.and_eq_true_iff.mp hkeep).1
  rw [staleFor, staleFor, hids, hids (b.filter _),
    h.map_unstamped_filter (fun _ => rfl) (hwithin ha) (hwithin hb)]

/-- **Reconciling the slice of an account in the scope changes the same in both.** -/
theorem reconcile (h : a.AgreeOn scope b)
    (hlisted : ∀ item ∈ listedFor address listing, scope item.id) (clock later : Nat → Nat)
    (ha : (a.mergeAll clock (listedFor address listing)).2.KeepsWithin scope
      (·.address == address))
    (hb : (b.mergeAll later (listedFor address listing)).2.KeepsWithin scope
      (·.address == address)) :
    (a.reconcile clock address listing).1 = (b.reconcile later address listing).1 ∧
      (a.reconcile clock address listing).2.AgreeOn scope
        (b.reconcile later address listing).2 := by
  obtain ⟨hchange, hmerged⟩ := h.mergeAll hlisted clock later
  have hstale := hmerged.staleFor_eq ha hb listing
  have hscope : ∀ i ∈ staleFor address listing
      (b.mergeAll later (listedFor address listing)).2, scope i := by
    intro i hi
    obtain ⟨item, hitem, rfl⟩ := List.mem_map.mp hi
    obtain ⟨hstored, hkeep⟩ := List.mem_filter.mp hitem
    obtain ⟨j, -, hget⟩ := List.mem_filterMap.mp hstored
    exact (hb j item hget (Bool.and_eq_true_iff.mp hkeep).1).2
  obtain ⟨hremoved, hdeleted⟩ := hmerged.deleteAll hscope
  refine ⟨?_, ?_⟩
  · simp only [Index.reconcile, hstale, hchange, hremoved]
  · simp only [Index.reconcile, hstale]
    exact hdeleted

/-- **Reconciling the slice of an account outside the scope is none of its business.** -/
theorem reconcile_outside (ha : a.Filing)
    (hproper : ∀ item ∈ listedFor address listing, item.Proper)
    (hscope : ∀ item : StorageItem, item.Proper → item.address = address → ¬scope item.id)
    (clock : Nat → Nat) : a.AgreeOn scope (a.reconcile clock address listing).2 := by
  have hmerge : ∀ item ∈ listedFor address listing, ∀ (later : Index StorageItem) (now : Nat),
      later.Filing ∧ a.AgreeOn scope later →
        (later.merge now item).2.Filing ∧ a.AgreeOn scope (later.merge now item).2 := by
    intro item hitem later now hlater
    have haddress := beq_iff_eq.mp (List.mem_filter.mp hitem).2
    have houtside := hscope item (hproper item hitem) haddress
    exact ⟨hlater.1.merge (hproper item hitem) now,
      hlater.2.trans (merge_outside hlater.1.coherent now houtside)⟩
  have hmerged := mergeAll_induction hmerge clock ⟨ha, refl a⟩
  refine deleteAll_induction (P := fun later => a.AgreeOn scope later) _ ?_ hmerged.2
  intro i hi later hlater
  -- what is stale was stored for the account
  obtain ⟨item, hget, haddress, -⟩ := hmerged.1.coherent.mem_staleFor.mp hi
  obtain rfl : item.id = i := (hmerged.1.coherent.filed hget).id_eq
  exact hlater.trans
    (delete_outside (hscope item (hmerged.1.proper _ _ hget) haddress) later)

end AgreeOn

/-! ### The same content -/

namespace SameContent

/-- A reader finds the same resources in the same order, stamps aside. -/
theorem map_unstamped_filter {a b : Index R} (h : a.SameContent b) {keep : R → Bool}
    (hkeep : ∀ r, keep (unstamped r) = keep r) :
    (a.filter keep).map unstamped = (b.filter keep).map unstamped :=
  (sameContent_iff_agreeOn.mp h).map_unstamped_filter hkeep (keepsWithin_all _ _)
    (keepsWithin_all _ _)

/-- Removing a resource keeps the content the same. -/
theorem delete {a b : Index R} (h : a.SameContent b) (target : String) :
    (a.delete target).2.SameContent (b.delete target).2 :=
  sameContent_iff_agreeOn.mpr ((sameContent_iff_agreeOn.mp h).delete rfl).2

/-- Changing a resource by a patch keeps the content the same. -/
theorem update [LawfulResource R] {a b : Index R} (h : a.SameContent b) (now later : Nat)
    (target : String) (patch : Patch R) :
    (a.update now target patch).2.SameContent (b.update later target patch).2 :=
  sameContent_iff_agreeOn.mpr ((sameContent_iff_agreeOn.mp h).update now later rfl patch).2

/-- Reconciling a slice changes the same in both, and keeps the content the same. -/
theorem reconcile {a b : Index StorageItem} (h : a.SameContent b) (clock later : Nat → Nat)
    (address : String) (listing : List StorageItem) :
    (a.reconcile clock address listing).1 = (b.reconcile later address listing).1 ∧
      (a.reconcile clock address listing).2.SameContent (b.reconcile later address listing).2 := by
  rw [sameContent_iff_agreeOn] at h ⊢
  exact h.reconcile (fun _ _ => rfl) clock later (keepsWithin_all _ _) (keepsWithin_all _ _)

end SameContent

end Index

end ChainFeed
