import ChainFeed.Proofs.Index.Slice
import ChainFeed.Proofs.Index.Stamps
import ChainFeed.Resource.Sample

/-!
# What reconciling makes of an index

Merging resources adds an id behind all others for each one that is **unstored** (`Index.unstored`),
in the order in which the resources come, and removes nothing. What is no longer listed was stored
all along, and merging the listed items leaves it as it is (`Coherent.staleFor_mergeAll`). So the
stale ids can be told before anything is merged, and reconciling is accounted for by two lists of
ids that depend on the index and the listing alone: those that come, and those that go.

An index is **reconciled** with the listing of an account (`Index.Reconciled`) if the slice of the
account mirrors the listing, the items of all other accounts are as they were, what stays keeps its
place and its first stamp, and the change that is reported counts what came and what went.
-/

namespace ChainFeed

open Resource

namespace Index

section

variable {R : Type} [Resource R] {index : Index R}

/-! ### What merging adds -/

/-- The ids among some that are not stored, each of them once. -/
def unstored (ids : List String) (index : Index R) : List String :=
  (ids.filter fun i => !index.contains i).eraseDups

/-- Merging a resource whose id is not stored adds the id behind all others. -/
theorem order_merge (now : Nat) (r : R) (index : Index R) :
    (index.merge now r).2.order.toList =
      index.order.toList ++ if index.contains (Resource.id r) then [] else [Resource.id r] := by
  rw [contains_eq_isSome_get?]
  cases hget : index.get? (Resource.id r) with
  | none =>
    rw [merge_of_none hget]
    exact Array.toList_push
  | some stored =>
    by_cases hsame : sameContent (Resource.merge stored r) stored = true
    · rw [merge_of_same hget hsame]
      exact (List.append_nil _).symm
    · rw [merge_of_new hget hsame]
      exact (List.append_nil _).symm

/-- A resource counts as added if its id was not stored. -/
theorem added_count_merge (now : Nat) (r : R) (index : Index R) (change : SliceChange) :
    (change.count (index.merge now r).1).added =
      change.added + if index.contains (Resource.id r) then 0 else 1 := by
  rw [contains_eq_isSome_get?]
  cases hget : index.get? (Resource.id r) with
  | none =>
    rw [merge, hget]
    rfl
  | some stored =>
    rw [merge, hget]
    dsimp only
    split <;> rfl

/-- Once a resource is merged, its id is no longer among those that are not stored. -/
theorem Coherent.unstored_cons [LawfulResource R] (h : index.Coherent) (now : Nat) (r : R)
    (ids : List String) :
    index.unstored (Resource.id r :: ids) =
      (if index.contains (Resource.id r) then [] else [Resource.id r]) ++
        (index.merge now r).2.unstored ids := by
  have hcontains (i : String) :
      (index.merge now r).2.contains i = (index.contains i || i == Resource.id r) := by
    rw [Bool.eq_iff_iff, Bool.or_eq_true, beq_iff_eq, eq_comm (a := i)]
    exact h.contains_merge_iff now r i
  simp only [unstored, hcontains]
  -- the id is left out of the rest either way: as one that is stored, or as a repetition
  by_cases hr : index.contains (Resource.id r) = true
  · rw [if_pos hr, List.nil_append, List.filter_cons_of_neg (by simpa using hr)]
    refine congrArg _ (List.filter_congr fun i _ => ?_)
    by_cases hi : i = Resource.id r
    · rw [hi, hr, Bool.true_or]
    · rw [beq_false_of_ne hi, Bool.or_false]
  · rw [if_neg hr, List.filter_cons_of_pos (by simpa using hr), List.eraseDups_cons,
      List.singleton_append, List.filter_filter]
    refine congrArg _ (congrArg _ (List.filter_congr fun i _ => ?_))
    rw [Bool.not_or, Bool.and_comm]

end

theorem Coherent.mergeAll {index : Index StorageItem} (h : index.Coherent) (clock : Nat → Nat)
    (items : List StorageItem) : (index.mergeAll clock items).2.Coherent :=
  mergeAll_induction (fun item _ _ now hlater => hlater.step (merge_step now item hlater)) clock h

/-- **Merging adds what is not stored, and removes nothing.** -/
theorem Coherent.mergeAll_adds {index : Index StorageItem} (h : index.Coherent)
    (clock : Nat → Nat) (items : List StorageItem) :
    (index.mergeAll clock items).2.order.toList =
        index.order.toList ++ index.unstored (items.map (·.id)) ∧
      (index.mergeAll clock items).1.added = (index.unstored (items.map (·.id))).length := by
  induction items generalizing clock index with
  | nil => exact ⟨(List.append_nil _).symm, rfl⟩
  | cons item rest ih =>
    obtain ⟨horder, hadded⟩ :=
      ih (h.step (merge_step (clock 0) item h)) fun n => clock (n + 1)
    have hunstored := h.unstored_cons (clock 0) item (rest.map (·.id))
    rw [List.map_cons, show item.id = Resource.id item from rfl, hunstored,
      Index.mergeAll]
    refine ⟨?_, ?_⟩
    · refine horder.trans ?_
      rw [order_merge, List.append_assoc]
    · refine (added_count_merge _ _ _ _).trans ?_
      rw [hadded, List.length_append, Nat.add_comm]
      split <;> rfl

/-! ### What removing removes -/

variable {index : Index StorageItem} {address : String} {listing : List StorageItem}

/-- Removing a resource leaves the others in order. -/
theorem Coherent.toList_delete (h : index.Coherent) (target : String) :
    (index.delete target).2.toList = index.toList.filter fun item => item.id ≠ target := by
  rw [Index.delete]
  cases hget : index.get? target with
  | none =>
    refine (List.filter_eq_self.mpr fun item hitem => decide_eq_true ?_).symm
    rintro rfl
    rw [show index.get? item.id = some item from h.mem_toList_iff.mp hitem] at hget
    cases hget
  | some stored => exact congrArg Roster.resources (h.roster_erase target)

/-- **Removing some ids leaves the others in order, and counts those that were stored.** -/
theorem Coherent.deleteAll_removes (h : index.Coherent) {ids : List String} (hnodup : ids.Nodup)
    (hstored : ∀ i ∈ ids, (index.get? i).isSome) :
    (index.deleteAll ids).2.toList = index.toList.filter (fun item => item.id ∉ ids) ∧
      (index.deleteAll ids).1 = ids.length := by
  induction ids generalizing index with
  | nil => exact ⟨(List.filter_eq_self.mpr fun _ _ => rfl).symm, rfl⟩
  | cons i rest ih =>
    rw [List.forall_mem_cons] at hstored
    obtain ⟨hi, hrest⟩ := List.nodup_cons.mp hnodup
    -- the others are still stored when the first one is removed
    have hlater : ∀ j ∈ rest, ((index.delete i).2.get? j).isSome := by
      intro j hj
      rw [get?_delete, if_neg (ne_of_mem_of_not_mem hj hi).symm]
      exact hstored.2 j hj
    obtain ⟨hlist, hcount⟩ := ih (h.step (delete_step 0 i index)) hrest hlater
    have hok : (index.delete i).1.isOk := by
      obtain ⟨stored, hget⟩ := Option.isSome_iff_exists.mp hstored.1
      rw [Index.delete, hget]
      rfl
    rw [deleteAll]
    refine ⟨hlist.trans ?_, ?_⟩
    · rw [h.toList_delete, List.filter_filter]
      refine List.filter_congr fun item _ => ?_
      simp only [List.mem_cons, not_or, ne_eq, Bool.decide_and, Bool.and_comm]
    · exact (if_pos hok).trans (congrArg (· + 1) hcount)

/-! ### What is stale -/

/-- The ids that a listing holds for an account. -/
def listedIds (address : String) (listing : List StorageItem) : List String :=
  (listedFor address listing).map (·.id)

/-- Whether a stored item stays when the slice of an account is made equal to a listing: it belongs
to another account, or is listed. -/
def stays (address : String) (listing : List StorageItem) (item : StorageItem) : Bool :=
  item.address != address || (listedIds address listing).contains item.id

/-- Merging items changes nothing for a reader who keeps none with their ids. -/
theorem Coherent.filter_mergeAll (h : index.Coherent) {items : List StorageItem}
    {keep : StorageItem → Bool} (hkeep : ∀ x, keep x → x.id ∉ items.map (·.id))
    (clock : Nat → Nat) : (index.mergeAll clock items).2.filter keep = index.filter keep := by
  refine (mergeAll_induction
    (P := fun later => later.Coherent ∧ later.filter keep = index.filter keep)
    (fun item hitem later now hlater => ?_) clock ⟨h, rfl⟩).2
  have hnot (x : StorageItem) (hx : x.id = item.id) : ¬keep x := fun hkept =>
    hkeep x hkept (hx ▸ List.mem_map_of_mem hitem)
  refine ⟨hlater.1.step (merge_step now item hlater.1), ?_⟩
  refine (hlater.1.filter_merge now (fun _ => hnot _ rfl) fun stored hget => ?_).trans hlater.2
  have hid : stored.id = item.id := (hlater.1.filed hget).id_eq
  exact ⟨hnot _ hid, fun _ => hnot _ hid⟩

/-- **What is stale when all is merged was stale before.** -/
theorem Coherent.staleFor_mergeAll (h : index.Coherent) (clock : Nat → Nat) (address : String)
    (listing : List StorageItem) :
    staleFor address listing (index.mergeAll clock (listedFor address listing)).2 =
      staleFor address listing index := by
  refine congrArg (List.map _) (h.filter_mergeAll (fun x hx => ?_) clock)
  rw [Bool.and_eq_true, Bool.not_eq_true', ← Bool.not_eq_true, List.contains_iff_mem] at hx
  exact hx.2

theorem Coherent.nodup_staleFor (h : index.Coherent) (address : String)
    (listing : List StorageItem) : (staleFor address listing index).Nodup :=
  (h.map_id_toList ▸ h.nodup : (index.toList.map (·.id)).Nodup).sublist
    (List.filter_sublist.map _)

/-- What is stored stays unless it is stale. -/
theorem Coherent.not_mem_staleFor_iff (h : index.Coherent) {item : StorageItem}
    (hitem : item ∈ index.toList) :
    item.id ∉ staleFor address listing index ↔ stays address listing item := by
  have hget : index.get? item.id = some item := h.mem_toList_iff.mp hitem
  rw [h.mem_staleFor, hget, stays, Bool.or_eq_true, bne_iff_ne, List.contains_iff_mem, listedIds,
    List.mem_map]
  constructor
  · intro hnot
    by_cases haddress : item.address = address
    · refine .inr ?_
      by_contra hlisted
      exact hnot ⟨item, rfl, haddress, fun y hy hid => hlisted ⟨y, hy, hid⟩⟩
    · exact .inl haddress
  · rintro hkept ⟨x, hx, haddress, hnone⟩
    obtain rfl := Option.some.inj hx
    rcases hkept with hne | ⟨y, hy, hid⟩
    · exact hne haddress
    · exact hnone y hy hid

/-! ### Reconciling -/

/-- How an index is left when the slice of an account was made equal to a listing, and what is
reported of that. -/
structure Reconciled (address : String) (listing : List StorageItem) (index : Index StorageItem)
    (change : SliceChange) (next : Index StorageItem) : Prop where
  /-- The slice holds what is listed last under each path, and nothing else. -/
  mirrors : next.Mirrors address listing
  /-- The items of other accounts are as they were. -/
  others_eq : (next.filter (·.address != address)) = index.filter (·.address != address)
  /-- What stays keeps its place, and what is new stands behind it as it was listed. -/
  ids_eq : next.toList.map (·.id) =
    (index.filter (stays address listing)).map (·.id) ++ index.unstored (listedIds address listing)
  /-- What stays keeps the stamp of its addition. -/
  createdAt_eq : ∀ old ∈ index.toList, ∀ new ∈ next.toList, new.id = old.id →
    new.stamps.createdAt = old.stamps.createdAt
  /-- As many items count as added as ids are new. -/
  added_eq : change.added = (index.unstored (listedIds address listing)).length
  /-- As many items count as removed as the slice held under ids that are not listed. -/
  removed_eq : change.removed =
    ((index.slice address).filter fun x => !(listedIds address listing).contains x.id).length
  /-- The slice grew by what was added, less what was removed. -/
  length_eq : (next.slice address).length + change.removed =
    (index.slice address).length + change.added

/-- What reconciling removes, in terms of what was stored before. -/
theorem Coherent.deleteAll_reconcile (h : index.Coherent) (clock : Nat → Nat) (address : String)
    (listing : List StorageItem) :
    (index.reconcile clock address listing).2.toList =
        (index.mergeAll clock (listedFor address listing)).2.toList.filter
          (fun item => item.id ∉ staleFor address listing index) ∧
      (index.reconcile clock address listing).1 =
        { (index.mergeAll clock (listedFor address listing)).1 with
          removed := (staleFor address listing index).length } := by
  have hmerged := h.mergeAll clock (listedFor address listing)
  have hstale : ∀ i ∈ staleFor address listing index,
      ((index.mergeAll clock (listedFor address listing)).2.get? i).isSome := by
    intro i hi
    rw [← h.staleFor_mergeAll clock, hmerged.mem_staleFor] at hi
    obtain ⟨x, hx, -⟩ := hi
    exact Option.isSome_of_eq_some hx
  obtain ⟨hlist, hcount⟩ := hmerged.deleteAll_removes (h.nodup_staleFor address listing) hstale
  rw [Index.reconcile]
  dsimp only
  rw [h.staleFor_mergeAll, hcount]
  exact ⟨hlist, rfl⟩

/-- Reconciling keeps the order of what stays, and adds what is new behind it. -/
theorem Coherent.map_id_reconcile (h : index.Coherent) (clock : Nat → Nat) (address : String)
    (listing : List StorageItem) :
    (index.reconcile clock address listing).2.toList.map (·.id) =
      (index.filter (stays address listing)).map (·.id) ++
        index.unstored (listedIds address listing) := by
  have hmerged := h.mergeAll clock (listedFor address listing)
  have hstayed : index.order.toList.filter (· ∉ staleFor address listing index) =
      (index.filter (stays address listing)).map (·.id) := by
    rw [← h.map_id_toList, List.filter_map]
    refine congrArg _ (List.filter_congr fun item hitem => ?_)
    rw [Bool.eq_iff_iff, Function.comp_apply, decide_eq_true_iff]
    exact h.not_mem_staleFor_iff hitem
  -- what is stale is stored, so nothing new is
  have hnew : (index.unstored (listedIds address listing)).filter
      (· ∉ staleFor address listing index) = index.unstored (listedIds address listing) := by
    refine List.filter_eq_self.mpr fun i hi => decide_eq_true fun hstale => ?_
    rw [unstored, List.mem_eraseDups, List.mem_filter, contains_eq_isSome_get?] at hi
    obtain ⟨x, hx, -⟩ := h.mem_staleFor.mp hstale
    rw [hx] at hi
    exact absurd hi.2 Bool.false_ne_true
  rw [(h.deleteAll_reconcile clock address listing).1]
  calc ((index.mergeAll clock (listedFor address listing)).2.toList.filter
        fun item => item.id ∉ staleFor address listing index).map (·.id)
      = (index.mergeAll clock (listedFor address listing)).2.order.toList.filter
          (· ∉ staleFor address listing index) := by
        rw [← hmerged.map_id_toList, List.filter_map]
        rfl
    _ = _ := by
        rw [(h.mergeAll_adds clock _).1, List.filter_append, hstayed]
        exact congrArg _ hnew

/-- Reconciling leaves what stays the stamp of its addition. -/
theorem Coherent.createdAt_reconcile (h : index.Coherent) (clock : Nat → Nat)
    {old new : StorageItem} (hold : old ∈ index.toList)
    (hnew : new ∈ (index.reconcile clock address listing).2.toList) (hid : new.id = old.id) :
    new.stamps.createdAt = old.stamps.createdAt := by
  -- what was stored stays stored, with its stamp, until all is merged
  have hkept : (index.mergeAll clock (listedFor address listing)).2.Coherent ∧
      ∃ s, (index.mergeAll clock (listedFor address listing)).2.get? old.id = some s ∧
        s.stamps.createdAt = old.stamps.createdAt := by
    refine mergeAll_induction (P := fun later => later.Coherent ∧
      ∃ s, later.get? old.id = some s ∧ s.stamps.createdAt = old.stamps.createdAt)
      ?_ clock ⟨h, old, h.mem_toList_iff.mp hold, rfl⟩
    rintro item - later now ⟨hlater, s, hs, hcreated⟩
    have step := merge_step now item hlater
    obtain ⟨t, ht, -⟩ := hlater.get?_merge_of_some now item hs
    exact ⟨hlater.step step, t, ht, (step.createdAt_eq hs ht).trans hcreated⟩
  obtain ⟨hmerged, s, hs, hcreated⟩ := hkept
  rw [(h.deleteAll_reconcile clock address listing).1] at hnew
  have hstored : Index.get? new.id _ = some new :=
    hmerged.mem_toList_iff.mp (List.mem_filter.mp hnew).1
  rw [hid, hs] at hstored
  obtain rfl := Option.some.inj hstored
  exact hcreated

/-- A slice grows by what is added, less what is removed, if the other slices stay. -/
theorem length_slice_add {next : Index StorageItem} {new : List String}
    (hothers : next.filter (·.address != address) = index.filter (·.address != address))
    (hids : next.toList.map (·.id) = (index.filter (stays address listing)).map (·.id) ++ new) :
    (next.slice address).length +
        ((index.slice address).filter fun x => !(listedIds address listing).contains x.id).length =
      (index.slice address).length + new.length := by
  -- both indexes are cut into the slice and the rest, the old one into what stays and what goes too
  have hnext := next.toList.length_eq_length_filter_add (·.address == address)
  have hindex := index.toList.length_eq_length_filter_add (·.address == address)
  have hgone := index.toList.length_eq_length_filter_add (stays address listing)
  have hlength : next.toList.length =
      (index.toList.filter (stays address listing)).length + new.length := by
    have hmapped := congrArg List.length hids
    rwa [List.length_map, List.length_append, List.length_map] at hmapped
  have hstale : ((index.slice address).filter fun x =>
      !(listedIds address listing).contains x.id) =
        index.toList.filter fun x => !stays address listing x := by
    rw [slice, Index.filter, List.filter_filter]
    refine List.filter_congr fun x _ => ?_
    rw [stays, Bool.not_or, bne, Bool.not_not, Bool.and_comm]
  have hothers : (next.toList.filter fun x => !(x.address == address)).length =
      (index.toList.filter fun x => !(x.address == address)).length :=
    congrArg List.length hothers
  rw [hstale, slice, slice, Index.filter, Index.filter]
  omega

/-- **Reconciling makes a slice equal to a listing.** -/
theorem Filing.reconciled (h : index.Filing) (hproper : ∀ x ∈ listing, x.Proper)
    (clock : Nat → Nat) (address : String) :
    index.Reconciled address listing (index.reconcile clock address listing).1
      (index.reconcile clock address listing).2 := by
  have hlisted : ∀ x ∈ listedFor address listing, x.Proper := fun x hx =>
    hproper x (List.mem_filter.mp hx).1
  have hids := h.coherent.map_id_reconcile clock address listing
  have hadded := (h.coherent.mergeAll_adds clock (listedFor address listing)).2
  have hchange := (h.coherent.deleteAll_reconcile clock address listing).2
  have hothers := h.filter_reconcile hlisted clock (· != address) (by simp)
  have hremoved : (staleFor address listing index).length = ((index.slice address).filter
      fun x => !(listedIds address listing).contains x.id).length := by
    rw [staleFor, List.length_map, slice, Index.filter, Index.filter, List.filter_filter]
    simp only [Bool.and_comm, listedIds]
  refine ⟨(h.reconcile hlisted clock).2.1, hothers, hids,
    fun old hold new hnew => h.coherent.createdAt_reconcile clock hold hnew, ?_, ?_, ?_⟩
  · rw [hchange]
    exact hadded
  · rw [hchange]
    exact hremoved
  · rw [hchange]
    dsimp only
    rw [hremoved, hadded]
    exact length_slice_add hothers hids

/-- **A slice is made equal to the listing of its account.** After any operations, for stored and
listed items whose ids are made of plain addresses and paths: reconciling the slice of an account,
however its address is spelled, leaves an index that is reconciled with the listing, and does the
same with every listing that holds the same items for that account. -/
theorem slice_reconciled (operations : List (Nat × Operation StorageItem))
    (hstored : ∀ item ∈ (Index.empty.after operations).toList, item.Proper)
    {listing : List StorageItem} (hlisted : ∀ item ∈ listing, item.Proper) (clock : Nat → Nat)
    (address : String) :
    let index := Index.empty.after operations
    let account := Address.canonical address
    let result := index.reconcileAccount clock address listing
    index.Reconciled account listing result.1 result.2 ∧
      ∀ more, listedFor account more = listedFor account listing →
        index.reconcileAccount clock address more = result := by
  intro index account result
  have h : index.Coherent := coherent_after operations
  have hfiling : index.Filing := ⟨h, fun i item hitem =>
    hstored item (h.mem_toList_iff.mpr ((h.filed hitem).id_eq ▸ hitem))⟩
  refine ⟨hfiling.reconciled hlisted clock account, fun more hmore => ?_⟩
  simp only [result, Index.reconcileAccount, Index.reconcile, staleFor, account] at hmore ⊢
  rw [hmore]

/-- Items of two accounts. -/
def twoAccounts : List (Nat × Operation StorageItem) :=
  [(5, .add (.sample "0x1" "/storage/kept")), (6, .add (.sample "0x2" "/storage/vault")),
    (7, .add (.sample "0x1" "/public/gone")), (8, .add (.sample "0x1" "/public/same"))]

/-- A listing with an item that changed, one of another account, one that stayed the same, and two
under the same new path. -/
def freshListing : List StorageItem :=
  [.sample "0x1" "/storage/new", { StorageItem.sample "0x1" "/storage/kept" with data := .null },
    .sample "0x2" "/storage/other", .sample "0x1" "/public/same",
    { StorageItem.sample "0x1" "/storage/new" with data := .null }]

theorem slice_reconciled_of_sample :
    let index := Index.empty.after twoAccounts
    let account := Address.canonical " 0X1"
    let result := index.reconcileAccount (fun n => 9 + n) " 0X1" freshListing
    index.Reconciled account freshListing result.1 result.2 ∧
      ∀ more, listedFor account more = listedFor account freshListing →
        index.reconcileAccount (fun n => 9 + n) " 0X1" more = result :=
  slice_reconciled twoAccounts (by decide +kernel) (by decide +kernel) (fun n => 9 + n) " 0X1"

/-- The changed item and the second one under the new path count as updated. -/
example : ((Index.empty.after twoAccounts).reconcileAccount (fun _ => 9) "1" freshListing).1 =
    ⟨1, 2, 1⟩ := by
  decide +kernel

end Index

end ChainFeed
