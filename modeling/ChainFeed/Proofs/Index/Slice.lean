import ChainFeed.Index.Slice
import ChainFeed.Proofs.Index.Naming
import ChainFeed.Proofs.Index.Roster

/-!
# Slices mirror listings

The **owner** of an id is what stands in front of its first dot (`ownerOf`). Among proper items
(`StorageItem.Proper`), the id tells the address and the path. So reconciling the slice of one
account touches no other slice.

A slice **mirrors** a listing (`Index.Mirrors`) if it holds, for each path, the content of the last
item that is listed under it, and nothing else. Merging the listed items one by one leaves the
content of the last one of each id (`mergeAll_last`), and what is stale is removed, so a slice
mirrors the listing that it was reconciled with (`Filing.reconcile`).
-/

namespace ChainFeed

open Resource

/-! ### Owners -/

/-- The owner of an id: what stands in front of its first dot. -/
def ownerOf (id : String) : String := String.ofList (id.toList.takeWhile (· ≠ '.'))

/-- An address without a dot owns the ids that are made of it and a name or a path. -/
theorem ownerOf_append {address : String} (h : '.' ∉ address.toList) (rest : String) :
    ownerOf (address ++ "." ++ rest) = address := by
  have hcut : (address ++ "." ++ rest).toList.takeWhile (· ≠ '.') = address.toList := by
    rw [String.toList_append, String.toList_append, List.append_assoc,
      List.takeWhile_append_of_pos fun c hc => decide_eq_true (ne_of_mem_of_not_mem hc h)]
    simp
  rw [ownerOf, hcut, String.ofList_toList]

/-- It owns itself. -/
theorem ownerOf_self {address : String} (h : '.' ∉ address.toList) :
    ownerOf address = address := by
  rw [ownerOf, ← List.append_nil address.toList,
    List.takeWhile_append_of_pos fun c hc => decide_eq_true (ne_of_mem_of_not_mem hc h),
    List.takeWhile_nil, List.append_nil, String.ofList_toList]

/-! ### Slices -/

namespace Index

/-- The stored items of an account, in order. -/
def slice (address : String) (index : Index StorageItem) : List StorageItem :=
  index.filter (·.address == address)

/-- The last item that a listing holds under an account's path. -/
def lastListed? (address path : String) (listing : List StorageItem) : Option StorageItem :=
  listing.reverse.find? fun item => item.address == address && item.path == path

/-- The slice of an account holds, for each path, what the listing holds under it last, stamps
aside, and nothing else. -/
structure Mirrors (index : Index StorageItem) (address : String) (listing : List StorageItem) :
    Prop where
  /-- What is stored is listed last under its path. -/
  listed : ∀ item ∈ index.slice address,
    ∃ last, lastListed? address item.path listing = some last ∧ sameContent last item
  /-- What is listed last under a path is stored. -/
  stored : ∀ path last, lastListed? address path listing = some last →
    ∃ item ∈ index.slice address, item.path = path ∧ sameContent last item
  /-- No path holds two items. -/
  nodup : ((index.slice address).map (·.path)).Nodup

variable {index : Index StorageItem} {address other : String} {item : StorageItem}

theorem Mirrors.of_slice_eq {listing : List StorageItem} {later : Index StorageItem}
    (h : index.Mirrors address listing) (heq : later.slice address = index.slice address) :
    later.Mirrors address listing :=
  ⟨heq ▸ h.listed, heq ▸ h.stored, heq ▸ h.nodup⟩

theorem Coherent.mem_slice_iff (h : index.Coherent) :
    item ∈ index.slice address ↔ index.get? item.id = some item ∧ item.address = address := by
  rw [slice, Index.filter, List.mem_filter, h.mem_toList_iff, beq_iff_eq]
  rfl

/-- A slice of proper items holds one item for each path. -/
theorem Coherent.nodup_slice (h : index.Coherent) (hall : index.All StorageItem.Proper) :
    ((index.slice address).map (·.path)).Nodup := by
  have hids : ((index.slice address).map (·.id)).Nodup := by
    have hnodup : (index.toList.map (·.id)).Nodup := h.map_id_toList ▸ h.nodup
    exact hnodup.sublist (List.filter_sublist.map _)
  have hpaths : (index.slice address).map (·.id) =
      ((index.slice address).map (·.path)).map (StorageItem.idOf address) := by
    rw [List.map_map]
    refine List.map_congr_left fun item hitem => ?_
    obtain ⟨hstored, rfl⟩ := h.mem_slice_iff.mp hitem
    exact (hall _ _ hstored).id_eq
  rw [hpaths] at hids
  exact hids.of_map _

/-! ### Merging one item -/

/-- An index whose items are proper. -/
structure Filing (index : Index StorageItem) : Prop where
  /-- The parts of the index fit together. -/
  coherent : index.Coherent
  /-- The items are proper. -/
  proper : index.All StorageItem.Proper

theorem Filing.merge (h : index.Filing) (hitem : item.Proper) (now : Nat) :
    (index.merge now item).2.Filing where
  coherent := h.coherent.step (merge_step now item h.coherent)
  proper := h.proper.merge (fun _ => ⟨hitem.id_eq, hitem.plain⟩)
    fun _ _ hstored => ⟨hstored.id_eq, hstored.plain⟩

/-- A merged item is stored with its content. -/
theorem Filing.get?_merge (h : index.Filing) (hitem : item.Proper) (now : Nat) :
    ∃ stored, (index.merge now item).2.get? item.id = some stored ∧ sameContent item stored :=
  StorageItem.toldApart_proper.get?_merge h.coherent h.proper hitem now

/-! ### Other slices -/

/-- A reader sees no change of what was not kept before and is not kept behind it. -/
theorem filter_map_eq_filter {α : Type} {items : List α} {change : α → α} {keep : α → Bool}
    (hkeep : ∀ item ∈ items, keep (change item) = keep item)
    (hchange : ∀ item ∈ items, keep item → change item = item) :
    (items.map change).filter keep = items.filter keep := by
  have hfilter : items.filter (keep ∘ change) = items.filter keep := List.filter_congr hkeep
  rw [List.filter_map, hfilter]
  refine (List.map_congr_left fun item hitem => ?_).trans (List.map_id _)
  obtain ⟨hmem, hkept⟩ := List.mem_filter.mp hitem
  exact hchange item hmem hkept

/-- Merging a resource changes nothing for a reader who keeps neither the resource nor what it is
merged into. -/
theorem Coherent.filter_merge {R : Type} [Resource R] [LawfulResource R] {index : Index R}
    (h : index.Coherent) (now : Nat) {r : R} {keep : R → Bool}
    (hnew : ∀ t, ¬keep (withStamps t r))
    (hold : ∀ stored, index.get? (Resource.id r) = some stored →
      ¬keep stored ∧ ∀ t, ¬keep (withStamps t (Resource.merge stored r))) :
    (index.merge now r).2.filter keep = index.filter keep := by
  cases hget : index.get? (Resource.id r) with
  | none =>
    have hlist : (index.append now r).toList = index.toList ++ [withStamps _ r] :=
      congrArg Roster.resources (h.roster_append now hget)
    rw [merge_of_none hget, Index.filter, hlist, List.filter_append,
      List.filter_cons_of_neg (hnew _), List.filter_nil, List.append_nil, Index.filter]
  | some stored =>
    by_cases hsame : sameContent (Resource.merge stored r) stored = true
    · rw [merge_of_same hget hsame]
    · obtain ⟨hstored, hmerged⟩ := hold stored hget
      have hid := h.id_merge_eq hget
      have hlist : (index.replace now (Resource.merge stored r)).toList = index.toList.map _ :=
        congrArg Roster.resources (h.roster_replace now (hid ▸ hget))
      -- only the stored resource changes
      have hfound (s : R) (hs : s ∈ index.toList)
          (heq : Resource.id s = Resource.id (Resource.merge stored r)) : s = stored := by
        have hs := h.mem_toList_iff.mp hs
        rw [heq, hid] at hs
        exact Option.some.inj (hs.symm.trans hget)
      rw [merge_of_new hget hsame, Index.filter, hlist]
      refine filter_map_eq_filter (fun s hs => ?_) fun s hs hkept => if_neg fun heq => ?_
      · split
        · rename_i heq
          rw [hfound s hs heq, Bool.eq_false_iff.mpr hstored]
          exact Bool.eq_false_iff.mpr (hmerged _)
        · rfl
      · exact hstored (hfound s hs heq ▸ hkept)

/-- Merging an item changes nothing for a reader who keeps nothing of its account. -/
theorem Filing.filter_merge (h : index.Filing) (hitem : item.Proper) {keep : String → Bool}
    (hkeep : ¬keep item.address) (now : Nat) :
    ((index.merge now item).2.filter fun x => keep x.address) =
      index.filter fun x => keep x.address := by
  refine h.coherent.filter_merge now (fun _ => hkeep) fun stored hget => ?_
  have hid : stored.id = item.id := (h.coherent.filed hget).id_eq
  have haddress := ((h.proper _ _ hget).eq_of_id_eq hitem hid).1
  have hstored : ¬keep stored.address := haddress.symm ▸ hkeep
  exact ⟨hstored, fun _ => hstored⟩

/-- What is stored after a removal. -/
theorem get?_delete (target : String) (index : Index StorageItem) (i : String) :
    (index.delete target).2.get? i = if target = i then none else index.get? i := by
  rw [Index.delete]
  cases hget : index.get? target with
  | none =>
    dsimp only
    split
    · rename_i hi
      exact hi ▸ hget
    · rfl
  | some stored => exact get?_erase target index i

theorem Filing.delete (h : index.Filing) (target : String) : (index.delete target).2.Filing where
  coherent := h.coherent.step (delete_step 0 target index)
  proper i item hitem := by
    rw [get?_delete] at hitem
    split at hitem
    · cases hitem
    · exact h.proper i item hitem

/-- Removing an item changes nothing for a reader who keeps nothing of its account. -/
theorem Filing.filter_delete (h : index.Filing) {target : String} {keep : String → Bool}
    (hkeep : ∀ stored, index.get? target = some stored → ¬keep stored.address) :
    ((index.delete target).2.filter fun x => keep x.address) =
      index.filter fun x => keep x.address := by
  rw [Index.delete]
  cases hget : index.get? target with
  | none => rfl
  | some stored =>
    have hlist : (index.erase target).toList = index.toList.filter (Resource.id · ≠ target) :=
      congrArg Roster.resources (h.coherent.roster_erase target)
    change ((index.erase target).toList.filter fun x => keep x.address) = _
    rw [hlist, List.filter_filter, Index.filter]
    refine List.filter_congr fun s hs => ?_
    rw [Bool.and_eq_left_iff_imp]
    intro hkept
    have hfound := h.coherent.mem_toList_iff.mp hs
    refine decide_eq_true fun heq => ?_
    rw [heq] at hfound
    exact hkeep s hfound hkept

/-! ### Merging and removing many -/

/-- Whatever merging one of some items keeps, merging all of them keeps. -/
theorem mergeAll_induction {P : Index StorageItem → Prop} {items : List StorageItem}
    (hmerge : ∀ item ∈ items, ∀ index now, P index → P (index.merge now item).2)
    (clock : Nat → Nat) (h : P index) : P (index.mergeAll clock items).2 := by
  induction items generalizing clock index with
  | nil => exact h
  | cons item rest ih =>
    rw [List.forall_mem_cons] at hmerge
    exact ih hmerge.2 _ (hmerge.1 index _ h)

/-- Whatever removing an item with one of some ids keeps, removing all of them keeps. -/
theorem deleteAll_induction {P : Index StorageItem → Prop} (ids : List String)
    (hdelete : ∀ i ∈ ids, ∀ index, P index → P (index.delete i).2) (h : P index) :
    P (index.deleteAll ids).2 := by
  induction ids generalizing index with
  | nil => exact h
  | cons i rest ih =>
    rw [List.forall_mem_cons] at hdelete
    exact ih hdelete.2 (hdelete.1 index h)

/-- Merging proper items keeps all items proper. -/
theorem Filing.mergeAll (h : index.Filing) {items : List StorageItem}
    (hproper : ∀ x ∈ items, x.Proper) (clock : Nat → Nat) :
    (index.mergeAll clock items).2.Filing :=
  mergeAll_induction (fun x hx _ now hlater => hlater.merge (hproper x hx) now) clock h

theorem mergeAll_append (clock : Nat → Nat) (items more : List StorageItem)
    (index : Index StorageItem) :
    (index.mergeAll clock (items ++ more)).2 =
      ((index.mergeAll clock items).2.mergeAll (fun n => clock (n + items.length)) more).2 := by
  induction items generalizing clock index with
  | nil => rfl
  | cons item rest ih =>
    rw [List.cons_append, mergeAll, mergeAll]
    refine (ih _ _).trans ?_
    simp only [List.length_cons, Nat.add_assoc]

/-- **Of the merged items with one id, the last one counts.** -/
theorem Filing.mergeAll_last (h : index.Filing) {before behind : List StorageItem}
    (hproper : ∀ x ∈ before ++ item :: behind, x.Proper) (hlast : ∀ x ∈ behind, x.id ≠ item.id)
    (clock : Nat → Nat) :
    ∃ stored, (index.mergeAll clock (before ++ item :: behind)).2.get? item.id = some stored ∧
      sameContent item stored := by
  rw [List.forall_mem_append, List.forall_mem_cons] at hproper
  obtain ⟨hbefore, hitem, hbehind⟩ := hproper
  have hfirst : (index.mergeAll clock before).2.Filing := h.mergeAll hbefore clock
  obtain ⟨stored, hstored, hsame⟩ := hfirst.get?_merge hitem (clock (0 + before.length))
  -- the items behind the last one have other ids
  have hrest := mergeAll_induction
    (P := fun index => index.Filing ∧ index.get? item.id = some stored)
    (fun x hx index now hindex => ⟨hindex.1.merge (hbehind x hx) now,
      (hindex.1.coherent.get?_merge_of_ne now (hlast x hx)).trans hindex.2⟩)
    (fun n => clock (n + 1 + before.length)) ⟨hfirst.merge hitem _, hstored⟩
  rw [mergeAll_append, Index.mergeAll]
  exact ⟨stored, hrest.2, hsame⟩

/-- What is stored after removals. -/
theorem get?_deleteAll (ids : List String) (index : Index StorageItem) (i : String) :
    (index.deleteAll ids).2.get? i = if i ∈ ids then none else index.get? i := by
  induction ids generalizing index with
  | nil => rw [if_neg List.not_mem_nil]; rfl
  | cons target rest ih =>
    rw [deleteAll]
    refine (ih _).trans ?_
    rw [get?_delete]
    by_cases hi : i ∈ rest
    · rw [if_pos hi, if_pos (List.mem_cons_of_mem _ hi)]
    · rw [if_neg hi]
      by_cases htarget : target = i
      · rw [if_pos htarget, if_pos (htarget ▸ List.mem_cons_self)]
      · rw [if_neg htarget, if_neg (List.not_mem_cons_of_ne_of_not_mem (Ne.symm htarget) hi)]

/-! ### Reconciling -/

/-- The items listed last, under any path of an account, are those behind which the listing holds
no item with the same id. -/
theorem lastListed?_eq_some {path : String} {listing : List StorageItem}
    (h : lastListed? address path listing = some item) :
    item.address = address ∧ item.path = path ∧
      ∃ before behind, listing = before ++ item :: behind ∧
        ∀ x ∈ behind, x.address = address → x.path ≠ path := by
  obtain ⟨hitem, before, behind, hlisting, hlast⟩ := List.find?_eq_some_iff_append.mp h
  rw [Bool.and_eq_true, beq_iff_eq, beq_iff_eq] at hitem
  refine ⟨hitem.1, hitem.2, behind.reverse, before.reverse, ?_, fun x hx haddress hpath => ?_⟩
  · rw [← List.reverse_reverse listing, hlisting, List.reverse_append, List.reverse_cons,
      List.append_assoc, List.singleton_append]
  · have hnot := hlast x (List.mem_reverse.mp hx)
    rw [haddress, hpath, beq_self_eq_true, beq_self_eq_true] at hnot
    cases hnot

theorem mem_listedFor_of_lastListed? {path : String} {listing : List StorageItem}
    (h : lastListed? address path listing = some item) : item ∈ listedFor address listing := by
  obtain ⟨haddress, -, before, behind, rfl, -⟩ := lastListed?_eq_some h
  exact List.mem_filter.mpr ⟨List.mem_append_right _ List.mem_cons_self, beq_iff_eq.mpr haddress⟩

/-- An item that is listed for an account has one that is listed last under its path. -/
theorem exists_lastListed? {listing : List StorageItem} (h : item ∈ listing) :
    ∃ last, lastListed? item.address item.path listing = some last := by
  refine Option.isSome_iff_exists.mp (List.find?_isSome.mpr ⟨item, List.mem_reverse.mpr h, ?_⟩)
  rw [beq_self_eq_true, beq_self_eq_true]
  rfl

variable {listing : List StorageItem}

/-- Items that are listed for an account with a plain address are proper if their ids are made of
address and path. -/
theorem proper_of_mem_listedFor (hplain : '.' ∉ address.toList)
    (hids : ∀ x ∈ listing, x.id = StorageItem.idOf x.address x.path) :
    ∀ x ∈ listedFor address listing, x.Proper := by
  intro x hx
  obtain ⟨hlisted, haddress⟩ := List.mem_filter.mp hx
  exact ⟨hids x hlisted, (beq_iff_eq.mp haddress).symm ▸ hplain⟩

/-- What is listed last under a path is stored when all is merged. -/
theorem Filing.get?_mergeAll_lastListed (h : index.Filing)
    (hproper : ∀ x ∈ listedFor address listing, x.Proper) (clock : Nat → Nat) {path : String}
    (hlast : lastListed? address path listing = some item) :
    ∃ stored, (index.mergeAll clock (listedFor address listing)).2.get? item.id = some stored ∧
      sameContent item stored := by
  obtain ⟨haddress, rfl, before, behind, rfl, hbehind⟩ := lastListed?_eq_some hlast
  have hcut : listedFor address (before ++ item :: behind) =
      listedFor address before ++ item :: listedFor address behind := by
    rw [listedFor, List.filter_append]
    exact congrArg _ (List.filter_cons_of_pos (beq_iff_eq.mpr haddress))
  rw [hcut] at hproper ⊢
  refine h.mergeAll_last hproper (fun x hx hid => ?_) clock
  obtain ⟨hmem, hx'⟩ := List.mem_filter.mp hx
  rw [List.forall_mem_append, List.forall_mem_cons] at hproper
  exact hbehind x hmem (beq_iff_eq.mp hx') ((hproper.2.2 x hx).eq_of_id_eq hproper.2.1 hid).2

/-- An id is stale if an item of the account is stored under it and none is listed with it. -/
theorem Coherent.mem_staleFor (h : index.Coherent) {i : String} :
    i ∈ staleFor address listing index ↔
      ∃ x, index.get? i = some x ∧ x.address = address ∧
        ∀ y ∈ listedFor address listing, y.id ≠ i := by
  rw [staleFor, List.mem_map]
  simp only [Index.filter, List.mem_filter, Bool.and_eq_true, beq_iff_eq, Bool.not_eq_true',
    List.contains_eq_mem, decide_eq_false_iff_not, List.mem_map, not_exists, not_and]
  constructor
  · rintro ⟨x, ⟨hmem, haddress, hnot⟩, rfl⟩
    exact ⟨x, h.mem_toList_iff.mp hmem, haddress, fun y hy => hnot y hy⟩
  · rintro ⟨x, hx, haddress, hnot⟩
    obtain rfl : x.id = i := (h.filed hx).id_eq
    exact ⟨x, ⟨h.mem_toList_iff.mpr hx, haddress, fun y hy => hnot y hy⟩, rfl⟩

/-- Removing what is stale changes nothing for a reader who keeps nothing of the account. -/
theorem Filing.deleteAll_staleFor (h : index.Filing) (address : String)
    (listing : List StorageItem) :
    (index.deleteAll (staleFor address listing index)).2.Filing ∧
      ∀ keep : String → Bool, ¬keep address →
        ((index.deleteAll (staleFor address listing index)).2.filter fun x => keep x.address) =
          index.filter fun x => keep x.address := by
  -- what is still stored was stored before
  have hdeleted := deleteAll_induction (staleFor address listing index)
    (P := fun later => later.Filing ∧
      (∀ i x, later.get? i = some x → index.get? i = some x) ∧
      ∀ keep : String → Bool, ¬keep address →
        (later.filter fun x => keep x.address) = index.filter fun x => keep x.address)
    (fun i hi later hlater => by
      obtain ⟨y, hy, haddress, -⟩ := h.coherent.mem_staleFor.mp hi
      obtain ⟨hfiling, hold, hothers⟩ := hlater
      refine ⟨hfiling.delete i, fun j x hx => ?_, fun keep hkeep => ?_⟩
      · rw [get?_delete] at hx
        split at hx
        · cases hx
        · exact hold j x hx
      · refine (hfiling.filter_delete fun x hx => ?_).trans (hothers keep hkeep)
        obtain rfl := Option.some.inj (hy.symm.trans (hold i x hx))
        exact haddress ▸ hkeep)
    ⟨h, fun _ _ hx => hx, fun _ _ => rfl⟩
  exact ⟨hdeleted.1, hdeleted.2.2⟩

/-- When what is stale is removed, a slice mirrors the listing that was merged into it. -/
theorem Filing.mirrors_deleteAll (h : index.Filing)
    (hproper : ∀ y ∈ listedFor address listing, y.Proper)
    (hlast : ∀ path last, lastListed? address path listing = some last →
      ∃ stored, index.get? last.id = some stored ∧ sameContent last stored) :
    (index.deleteAll (staleFor address listing index)).2.Mirrors address listing := by
  have hdeleted := (h.deleteAll_staleFor address listing).1
  refine ⟨fun item hitem => ?_, fun path last hlisted => ?_,
    hdeleted.coherent.nodup_slice hdeleted.proper⟩
  · obtain ⟨hstored, haddress⟩ := hdeleted.coherent.mem_slice_iff.mp hitem
    rw [get?_deleteAll] at hstored
    split at hstored
    · cases hstored
    · -- the item is not stale, so one is listed with its id, and one is listed last
      rename_i hfresh
      rw [h.coherent.mem_staleFor] at hfresh
      push Not at hfresh
      obtain ⟨y, hy, hid⟩ := hfresh item hstored haddress
      have hpath := ((hproper y hy).eq_of_id_eq (h.proper _ _ hstored) hid).2
      obtain ⟨hmem, hmine⟩ := List.mem_filter.mp hy
      obtain ⟨last, hlisted⟩ := exists_lastListed? hmem
      rw [beq_iff_eq.mp hmine, hpath] at hlisted
      obtain ⟨stored, hfound, hsame⟩ := hlast _ _ hlisted
      obtain ⟨hlastAddress, hlastPath, -⟩ := lastListed?_eq_some hlisted
      have hlastId : last.id = item.id := by
        rw [(hproper last (mem_listedFor_of_lastListed? hlisted)).id_eq, hlastAddress, hlastPath,
          (h.proper _ _ hstored).id_eq, haddress]
      rw [hlastId] at hfound
      obtain rfl := Option.some.inj (hstored.symm.trans hfound)
      exact ⟨last, hlisted, hsame⟩
  · obtain ⟨stored, hstored, hsame⟩ := hlast path last hlisted
    obtain ⟨haddress, hpath, -⟩ := lastListed?_eq_some hlisted
    have hmem := mem_listedFor_of_lastListed? hlisted
    have hid : stored.id = last.id := (h.coherent.filed hstored).id_eq
    have heq := (h.proper _ _ hstored).eq_of_id_eq (hproper last hmem) hid
    have hfresh : last.id ∉ staleFor address listing index := by
      rw [h.coherent.mem_staleFor]
      rintro ⟨x, -, -, hnot⟩
      exact hnot last hmem rfl
    refine ⟨stored, hdeleted.coherent.mem_slice_iff.mpr ⟨?_, heq.1.trans haddress⟩,
      heq.2.trans hpath, hsame⟩
    rw [get?_deleteAll, hid, if_neg hfresh, hstored]

/-- Reconciling keeps what holds of all items by their ids, addresses and paths, if it holds of the
listed items of the account. -/
theorem All.reconcile {P : String → String → String → Prop}
    (h : index.All fun x => P x.id x.address x.path)
    (hlisted : ∀ x ∈ listedFor address listing, P x.id x.address x.path) (clock : Nat → Nat) :
    (index.reconcile clock address listing).2.All fun x => P x.id x.address x.path := by
  have hmerged : (index.mergeAll clock (listedFor address listing)).2.All
      fun x => P x.id x.address x.path :=
    mergeAll_induction (fun x hx _ _ hlater =>
      hlater.merge (fun _ => hlisted x hx) fun _ _ hstored => hstored) clock h
  refine deleteAll_induction _ (fun target _ later hlater i x hx => ?_) hmerged
  rw [get?_delete] at hx
  split at hx
  · cases hx
  · exact hlater i x hx

/-- Reconciling a slice changes nothing for a reader who keeps nothing of its account. -/
theorem Filing.filter_reconcile (h : index.Filing)
    (hproper : ∀ x ∈ listedFor address listing, x.Proper) (clock : Nat → Nat)
    (keep : String → Bool) (hkeep : ¬keep address) :
    ((index.reconcile clock address listing).2.filter fun x => keep x.address) =
      index.filter fun x => keep x.address := by
  have hmine : ∀ x ∈ listedFor address listing, x.address = address := fun x hx =>
    beq_iff_eq.mp (List.mem_filter.mp hx).2
  obtain ⟨hfiling, hmerged⟩ := mergeAll_induction
    (P := fun later => later.Filing ∧
      (later.filter fun x => keep x.address) = index.filter fun x => keep x.address)
    (fun x hx later now hlater => ⟨hlater.1.merge (hproper x hx) now,
      (hlater.1.filter_merge (hproper x hx) (hmine x hx ▸ hkeep) now).trans hlater.2⟩)
    clock ⟨h, rfl⟩
  exact ((hfiling.deleteAll_staleFor address listing).2 keep hkeep).trans hmerged

/-- **A slice mirrors the listing that it is reconciled with, and the other slices stay.** -/
theorem Filing.reconcile (h : index.Filing)
    (hproper : ∀ x ∈ listedFor address listing, x.Proper) (clock : Nat → Nat) :
    (index.reconcile clock address listing).2.Filing ∧
      (index.reconcile clock address listing).2.Mirrors address listing ∧
      ∀ other, other ≠ address →
        (index.reconcile clock address listing).2.slice other = index.slice other := by
  have hfiling : (index.mergeAll clock (listedFor address listing)).2.Filing :=
    h.mergeAll hproper clock
  have hlast (path : String) (last : StorageItem)
      (hlisted : lastListed? address path listing = some last) :=
    h.get?_mergeAll_lastListed hproper clock hlisted
  exact ⟨(hfiling.deleteAll_staleFor address listing).1, hfiling.mirrors_deleteAll hproper hlast,
    fun other hne => h.filter_reconcile hproper clock (· == other) (by simpa using hne.symm)⟩

end Index

end ChainFeed
