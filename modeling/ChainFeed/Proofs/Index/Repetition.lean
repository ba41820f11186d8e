import ChainFeed.Proofs.Index.Reconciliation

/-!
# Merging and reconciling again

An index **reflects** a resource (`Index.Reflects`) if the resource brings nothing new to it.
Merging a resource that is reflected changes nothing at all, not even the clock
(`Reflects.merge_eq`), and once a resource is merged it is reflected, until another one with its id
is merged (`Coherent.reflects_merge`). So if no two of some items share an id, all of them are
reflected when the last of them is merged.

Reconciling a slice removes nothing that is listed, and leaves nothing stale. So when it is
reconciled with the same listing again, nothing is merged, nothing is removed, and the index stays
as it is (`reconcileAccount_twice`).
-/

namespace ChainFeed

open Resource

namespace Index

section

variable {R : Type} [Resource R] {index later : Index R} {r : R}

/-- The index holds all that a resource brings. -/
def Reflects (index : Index R) (r : R) : Prop :=
  ∃ stored, index.get? (Resource.id r) = some stored ∧
    sameContent (Resource.merge stored r) stored = true

/-- What is reflected is merged without a change. -/
theorem Reflects.merge_eq (h : index.Reflects r) (now : Nat) :
    index.merge now r = (.unchanged, index) := by
  obtain ⟨stored, hget, hsame⟩ := h
  rw [merge, hget]
  exact if_pos hsame

/-- Whether a resource is reflected is told by what is stored under its id. -/
theorem Reflects.of_get?_eq (h : index.Reflects r)
    (heq : later.get? (Resource.id r) = index.get? (Resource.id r)) : later.Reflects r := by
  obtain ⟨stored, hget, hsame⟩ := h
  exact ⟨stored, heq.trans hget, hsame⟩

variable [LawfulResource R] [IdempotentResource R]

/-- What has taken in a resource's values has nothing new to take in. -/
theorem sameContent_merge_of_unstamped_eq {stored merged : R}
    (h : unstamped stored = unstamped merged) (hmerged : Resource.merge merged r = merged) :
    sameContent (Resource.merge stored r) stored = true := by
  refine sameContent_of_unstamped_eq ?_
  rw [unstamped_merge, h, ← unstamped_merge, hmerged]

/-- **What was merged is reflected.** -/
theorem Coherent.reflects_merge (h : index.Coherent) (now : Nat) (r : R) :
    (index.merge now r).2.Reflects r := by
  cases hget : index.get? (Resource.id r) with
  | none =>
    rw [merge_of_none hget]
    exact ⟨_, get?_append_self now r index, sameContent_merge_of_unstamped_eq
      (unstamped_withStamps _ _) (IdempotentResource.merge_self r)⟩
  | some stored =>
    by_cases hsame : sameContent (Resource.merge stored r) stored = true
    · rw [merge_of_same hget hsame]
      exact ⟨stored, hget, hsame⟩
    · rw [merge_of_new hget hsame]
      refine ⟨_, h.id_merge_eq hget ▸ get?_replace_self now _ index, ?_⟩
      exact sameContent_merge_of_unstamped_eq (unstamped_withStamps _ _)
        (IdempotentResource.merge_merge stored r)

end

/-! ### Many items -/

variable {index : Index StorageItem} {items : List StorageItem}

/-- Items that are reflected are merged without a change. -/
theorem mergeAll_of_reflects (h : ∀ item ∈ items, index.Reflects item) (clock : Nat → Nat) :
    index.mergeAll clock items = (SliceChange.zero, index) := by
  induction items generalizing clock with
  | nil => rfl
  | cons item rest ih =>
    rw [List.forall_mem_cons] at h
    rw [Index.mergeAll, h.1.merge_eq]
    dsimp only
    rw [ih h.2]
    rfl

/-- Merging items leaves alone what has none of their ids. -/
theorem Coherent.get?_mergeAll (h : index.Coherent) (clock : Nat → Nat) {i : String}
    (hi : i ∉ items.map (·.id)) : (index.mergeAll clock items).2.get? i = index.get? i := by
  refine (mergeAll_induction
    (P := fun later => later.Coherent ∧ later.get? i = index.get? i)
    (fun item hitem later now hlater => ?_) clock ⟨h, rfl⟩).2
  have hne : item.id ≠ i := fun hid => hi (hid ▸ List.mem_map_of_mem hitem)
  exact ⟨hlater.1.step (merge_step now item hlater.1),
    (hlater.1.get?_merge_of_ne now hne).trans hlater.2⟩

/-- **Items with different ids are all reflected when the last of them is merged.** -/
theorem Coherent.reflects_mergeAll (h : index.Coherent) (hnodup : (items.map (·.id)).Nodup)
    (clock : Nat → Nat) : ∀ item ∈ items, (index.mergeAll clock items).2.Reflects item := by
  induction items generalizing clock index with
  | nil => exact fun _ hitem => absurd hitem List.not_mem_nil
  | cons item rest ih =>
    obtain ⟨hitem, hrest⟩ := List.nodup_cons.mp hnodup
    have hmerged := h.step (merge_step (clock 0) item h)
    rw [Index.mergeAll]
    refine List.forall_mem_cons.mpr ⟨?_, ih hmerged hrest _⟩
    exact (h.reflects_merge (clock 0) item).of_get?_eq (hmerged.get?_mergeAll _ hitem)

/-- An item whose content is stored already is merged into what is stored without a change. -/
theorem sameContent_merge_of_sameContent {item stored : StorageItem}
    (h : sameContent item stored = true) :
    sameContent (Resource.merge stored item) stored = true := by
  change instBEqStorageItem.beq { item with stamps := Stamps.unset }
    { stored with stamps := Stamps.unset } = true at h
  change instBEqStorageItem.beq { stored with
      domain := item.domain
      targetPath := item.targetPath
      data := item.data
      stamps := Stamps.unset } { stored with stamps := Stamps.unset } = true
  simp only [instBEqStorageItem.beq, Bool.and_eq_true, beq_self_eq_true, true_and] at h ⊢
  exact h.2.2.2

/-- Items with different ids leave alone what is stored with the content of one of them. -/
theorem Coherent.get?_mergeAll_of_sameContent (h : index.Coherent)
    (hnodup : (items.map (·.id)).Nodup) (clock : Nat → Nat) {item stored : StorageItem}
    (hitem : item ∈ items) (hstored : index.get? item.id = some stored)
    (hsame : sameContent item stored = true) :
    (index.mergeAll clock items).2.get? item.id = some stored := by
  -- the others that are merged have other ids
  refine (mergeAll_induction
    (P := fun later => later.Coherent ∧ later.get? item.id = some stored)
    (fun other hother later now hlater => ?_) clock ⟨h, hstored⟩).2
  refine ⟨hlater.1.step (merge_step now other hlater.1), ?_⟩
  by_cases hid : other.id = item.id
  · obtain rfl := List.inj_on_of_nodup_map hnodup hother hitem hid
    rw [merge_of_same hlater.2 (sameContent_merge_of_sameContent hsame)]
    exact hlater.2
  · exact (hlater.1.get?_merge_of_ne now hid).trans hlater.2

/-! ### Reconciling again -/

variable {address : String} {listing : List StorageItem}

theorem Coherent.reconcile (h : index.Coherent) (clock : Nat → Nat) (address : String)
    (listing : List StorageItem) : (index.reconcile clock address listing).2.Coherent :=
  deleteAll_induction _ (fun i _ _ hlater => hlater.step (delete_step 0 i _))
    (h.mergeAll clock (listedFor address listing))

/-- What is stored when a slice is reconciled: what is merged, less what is stale. -/
theorem Coherent.get?_reconcile (h : index.Coherent) (clock : Nat → Nat) (address : String)
    (listing : List StorageItem) (i : String) :
    (index.reconcile clock address listing).2.get? i =
      if i ∈ staleFor address listing index then none
      else (index.mergeAll clock (listedFor address listing)).2.get? i := by
  rw [← h.staleFor_mergeAll clock]
  exact get?_deleteAll _ _ i

theorem Coherent.get?_reconcile_of_listed (h : index.Coherent) (clock : Nat → Nat)
    {item : StorageItem} (hitem : item ∈ listedFor address listing) :
    (index.reconcile clock address listing).2.get? item.id =
      (index.mergeAll clock (listedFor address listing)).2.get? item.id := by
  rw [h.get?_reconcile, if_neg]
  rw [h.mem_staleFor]
  rintro ⟨_, -, -, hnone⟩
  exact hnone item hitem rfl

/-- When a slice is reconciled, nothing in it is stale. -/
theorem Coherent.staleFor_reconcile (h : index.Coherent) (clock : Nat → Nat) (address : String)
    (listing : List StorageItem) :
    staleFor address listing (index.reconcile clock address listing).2 = [] := by
  refine List.eq_nil_iff_forall_not_mem.mpr fun i hi => ?_
  obtain ⟨x, hx, hstale⟩ := (h.reconcile clock address listing).mem_staleFor.mp hi
  rw [h.get?_reconcile] at hx
  split at hx
  · cases hx
  · -- it was stale already when all was merged, so it was removed
    rename_i hfresh
    rw [← h.staleFor_mergeAll clock] at hfresh
    exact hfresh ((h.mergeAll clock _).mem_staleFor.mpr ⟨x, hx, hstale⟩)

/-- **Reconciling a slice with the same listing again changes nothing.** -/
theorem Coherent.reconcile_again (h : index.Coherent)
    (hnodup : (listedIds address listing).Nodup) (clock later : Nat → Nat) :
    (index.reconcile clock address listing).2.reconcile later address listing =
      (SliceChange.zero, (index.reconcile clock address listing).2) := by
  -- what is listed is merged, and not removed
  have hreflects : ∀ item ∈ listedFor address listing,
      (index.reconcile clock address listing).2.Reflects item := fun item hitem =>
    (h.reflects_mergeAll hnodup clock item hitem).of_get?_eq
      (h.get?_reconcile_of_listed clock hitem)
  generalize hnext : (index.reconcile clock address listing).2 = next at hreflects
  rw [Index.reconcile, mergeAll_of_reflects hreflects]
  dsimp only
  rw [← hnext, h.staleFor_reconcile]
  rfl

/-- **Reconciling twice is reconciling once.** After any operations, for a listing that holds no two
items of an account with the same id: when the slice of the account is reconciled with it, however
the address is spelled, doing so again reports no change and leaves the index as it is, stamps
included; and the first time already, every item that is listed with the content that is stored
stays as it is. -/
theorem reconcileAccount_twice (operations : List (Nat × Operation StorageItem))
    (clock later : Nat → Nat) (address : String) {listing : List StorageItem}
    (hnodup : (listedIds (Address.canonical address) listing).Nodup) :
    let index := Index.empty.after operations
    let once := (index.reconcileAccount clock address listing).2
    once.reconcileAccount later address listing = (SliceChange.zero, once) ∧
      ∀ item ∈ listedFor (Address.canonical address) listing, ∀ stored,
        index.get? item.id = some stored → sameContent item stored →
          once.get? item.id = some stored := by
  intro index once
  have h : index.Coherent := coherent_after operations
  refine ⟨h.reconcile_again hnodup clock later, fun item hitem stored hstored hsame => ?_⟩
  exact (h.get?_reconcile_of_listed clock hitem).trans
    (h.get?_mergeAll_of_sameContent hnodup clock hitem hstored hsame)

/-- Items of two accounts, one of which has an id that an item of the other can have too. -/
def clashingItems : List (Nat × Operation StorageItem) :=
  [(5, .add (.sample "0x1.b" "/storage/c")), (6, .add (.sample "0x1" "/public/gone")),
    (7, .add (.sample "0x1" "/public/same"))]

/-- A listing with that id, an item that stayed the same, and another account's item, twice. -/
def clashingListing : List StorageItem :=
  [{ StorageItem.sample "0x1" "b./storage/c" with data := .null }, .sample "0x1" "/public/same",
    .sample "0x2" "/storage/vault", .sample "0x2" "/storage/vault"]

theorem reconcileAccount_twice_of_clash :
    let index := Index.empty.after clashingItems
    let once := (index.reconcileAccount (fun n => 8 + n) "0X1 " clashingListing).2
    once.reconcileAccount (fun _ => 0) "0X1 " clashingListing = (SliceChange.zero, once) ∧
      ∀ item ∈ listedFor (Address.canonical "0X1 ") clashingListing, ∀ stored,
        index.get? item.id = some stored → sameContent item stored →
          once.get? item.id = some stored :=
  reconcileAccount_twice clashingItems (fun n => 8 + n) (fun _ => 0) "0X1 " (by decide +kernel)

/-- The first time, the clashing id is merged into the other account's item. -/
example : ((Index.empty.after clashingItems).reconcileAccount (fun _ => 8) "0x1"
    clashingListing).1 = ⟨0, 1, 1⟩ := by
  decide +kernel

end Index

end ChainFeed
