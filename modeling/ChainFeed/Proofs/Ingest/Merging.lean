import ChainFeed.Ingest.Follower
import ChainFeed.Proofs.Gateway.Inquiry
import ChainFeed.Proofs.Ingest.Journal

/-!
# What a tick merges

The first stage of a tick fetches a batch of consecutive heights and merges the blocks in front of
the first height without one (`fetchedPrefix`). The stage writes what merging these blocks **one by
one** writes, and nothing else (`mergeHeights_eq`); the stages behind it write no block and leave
the watermark and the first height alone (`run_follows`).
-/

namespace ChainFeed

/-- The block that a write stores, if it stores one. -/
def Write.block? : Write → Option Block
  | .block b => some b
  | _ => none

theorem Write.block?_eq_none {write : Write} (h : write.kind ≠ .block) : write.block? = none := by
  cases write with
  | block => exact absurd rfl h
  | _ => rfl

namespace Ingest

/-! ### The heights in front of the first failure -/

/-- The blocks that were fetched for heights, up to the first height without one. -/
def fetchedPrefix : List (Nat × Except GatewayError FetchedBlock) → List (Nat × FetchedBlock)
  | [] => []
  | (height, .ok fetched) :: rest => (height, fetched) :: fetchedPrefix rest
  | (_, .error _) :: _ => []

variable {fetches : List (Nat × Except GatewayError FetchedBlock)} {m : Nat × FetchedBlock}

theorem mem_of_mem_fetchedPrefix (h : m ∈ fetchedPrefix fetches) : (m.1, .ok m.2) ∈ fetches := by
  induction fetches with
  | nil => cases h
  | cons fetch rest ih =>
    obtain ⟨height, _ | fetched⟩ := fetch
    · cases h
    · rcases List.mem_cons.mp h with rfl | h
      · exact List.mem_cons_self
      · exact List.mem_cons_of_mem _ (ih h)

/-- The merged heights are the first ones of those that were asked for. -/
theorem map_fst_fetchedPrefix_prefix
    (fetches : List (Nat × Except GatewayError FetchedBlock)) :
    (fetchedPrefix fetches).map Prod.fst <+: fetches.map Prod.fst := by
  induction fetches with
  | nil => exact List.nil_prefix
  | cons fetch rest ih =>
    obtain ⟨height, _ | fetched⟩ := fetch
    · exact List.nil_prefix
    · exact (List.prefix_cons_inj _).mpr ih

/-- Without a failure, every height that was asked for is merged. -/
theorem map_fst_fetchedPrefix (h : ∀ fetch ∈ fetches, ∃ fetched, fetch.2 = .ok fetched) :
    (fetchedPrefix fetches).map Prod.fst = fetches.map Prod.fst := by
  induction fetches with
  | nil => rfl
  | cons fetch rest ih =>
    rw [List.forall_mem_cons] at h
    obtain ⟨height, outcome⟩ := fetch
    obtain ⟨fetched, rfl⟩ : ∃ fetched, outcome = .ok fetched := h.1
    rw [fetchedPrefix, List.map_cons, List.map_cons, ih h.2]

/-- The merged heights are in front of every height without a block. -/
theorem lt_of_mem_fetchedPrefix (hsorted : (fetches.map Prod.fst).Pairwise (· < ·))
    (hm : m ∈ fetchedPrefix fetches) {height : Nat} {e : GatewayError}
    (he : (height, .error e) ∈ fetches) : m.1 < height := by
  induction fetches with
  | nil => cases hm
  | cons fetch rest ih =>
    rw [List.map_cons, List.pairwise_cons] at hsorted
    obtain ⟨first, _ | fetched⟩ := fetch
    · cases hm
    · replace he : (height, .error e) ∈ rest := by simpa using he
      rcases List.mem_cons.mp hm with rfl | hm
      · exact hsorted.1 _ (List.mem_map_of_mem he)
      · exact ih hsorted.2 hm he

/-! ### Merging one by one -/

namespace Progress

variable {moment : Moment}

/-- The progress after the blocks of some heights, merged one by one. -/
def mergeEach (moment : Moment) (blocks : List (Nat × FetchedBlock)) (p : Progress) : Progress :=
  blocks.foldl (fun p m => p.mergeHeight moment m.1 m.2) p

theorem mergeEach_append (blocks more : List (Nat × FetchedBlock)) (p : Progress) :
    p.mergeEach moment (blocks ++ more) = (p.mergeEach moment blocks).mergeEach moment more :=
  List.foldl_append

/-- Merging what was fetched is merging the blocks in front of the first failure one by one; beyond
that, the failure is reported. -/
theorem mergeHeights_eq (p : Progress) :
    ∃ failures, p.mergeHeights moment fetches =
      { p.mergeEach moment (fetchedPrefix fetches) with
        report := { (p.mergeEach moment (fetchedPrefix fetches)).report with failures } } := by
  induction fetches generalizing p with
  | nil => exact ⟨_, rfl⟩
  | cons fetch rest ih =>
    obtain ⟨height, e | fetched⟩ := fetch
    · -- a height without a block may be none yet, which is no failure
      rw [mergeHeights]
      split <;> exact ⟨_, rfl⟩
    · exact ih _

/-- The progress after what a block carries, in front of the block itself. -/
def mergeContents (moment : Moment) (fetched : FetchedBlock) (p : Progress) : Progress :=
  let transactions := p.mergeTransactions moment fetched.block [] fetched.contents.transactions
  transactions.2.mergeEvents moment fetched.block transactions.1
    (eventOrder fetched.contents.events)

theorem mergeBlock_eq (fetched : FetchedBlock) (p : Progress) :
    p.mergeBlock moment fetched =
      (p.mergeContents moment fetched).write moment (.block fetched.block) := rfl

theorem mergeContents_follows (moment : Moment) (fetched : FetchedBlock) (p : Progress) :
    Follows moment [.transaction, .event] p (p.mergeContents moment fetched) := by
  have htransactions : Follows moment [.transaction] p _ :=
    mergeTransactions_follows fetched.block [] fetched.contents.transactions p
  refine (htransactions.mono ?_).trans
    ((mergeEvents_follows fetched.block _ (eventOrder fetched.contents.events) _).mono ?_)
  · exact List.cons_subset_cons _ (List.nil_subset _)
  · exact List.subset_cons_self _ _

theorem heights_mergeBlock (moment : Moment) (fetched : FetchedBlock) (p : Progress) :
    (p.mergeBlock moment fetched).state.heights = p.state.heights :=
  (mergeContents_follows moment fetched p).heights

/-- The first height stays while blocks are merged. -/
@[simp]
theorem firstHeight_mergeEach (blocks : List (Nat × FetchedBlock)) (p : Progress) :
    (p.mergeEach moment blocks).state.firstHeight = p.state.firstHeight := by
  induction blocks generalizing p with
  | nil => rfl
  | cons m blocks ih =>
    have hblock : (p.mergeBlock moment m.2).state.firstHeight = p.state.firstHeight :=
      State.firstHeight_eq_of_heights_eq (heights_mergeBlock moment m.2 p)
    exact (ih _).trans hblock

/-- The watermark is the last height that was merged. -/
theorem watermark_mergeEach (blocks : List (Nat × FetchedBlock)) (p : Progress) :
    (p.mergeEach moment blocks).state.watermark =
      (blocks.map Prod.fst).getLast?.or p.state.watermark := by
  induction blocks generalizing p with
  | nil => rfl
  | cons m blocks ih =>
    rw [mergeEach, List.foldl_cons]
    refine (ih _).trans ?_
    rw [List.map_cons, List.getLast?_cons]
    cases (blocks.map Prod.fst).getLast? <;> rfl

/-- The writes that store blocks, of those in a journal. -/
def blockWrites (p : Progress) : List Block := p.journal.toList.filterMap Write.block?

/-- Writes of other kinds store no block. -/
theorem Follows.blockWrites_eq {kinds : List Kind} {p q : Progress}
    (h : Follows moment kinds p q) (hkind : .block ∉ kinds) : q.blockWrites = p.blockWrites := by
  obtain ⟨writes, hw, hkinds⟩ := h.wrote
  have hnone : writes.filterMap Write.block? = [] := by
    refine List.filterMap_eq_nil_iff.mpr fun w hmem => Write.block?_eq_none ?_
    rintro heq
    exact hkind (heq ▸ hkinds w hmem)
  rw [blockWrites, hw.journal, List.filterMap_append, hnone, List.append_nil]
  rfl

theorem blockWrites_mergeBlock (moment : Moment) (fetched : FetchedBlock) (p : Progress) :
    (p.mergeBlock moment fetched).blockWrites = p.blockWrites ++ [fetched.block] := by
  rw [← (mergeContents_follows moment fetched p).blockWrites_eq (by decide)]
  simp only [mergeBlock_eq, blockWrites, Progress.write, Array.toList_push, List.filterMap_append]
  rfl

/-- One by one, the blocks are stored in order. -/
theorem blockWrites_mergeEach (blocks : List (Nat × FetchedBlock)) (p : Progress) :
    (p.mergeEach moment blocks).blockWrites = p.blockWrites ++ blocks.map (·.2.block) := by
  induction blocks generalizing p with
  | nil => exact (List.append_nil _).symm
  | cons m blocks ih =>
    rw [mergeEach, List.foldl_cons]
    refine (ih _).trans ?_
    rw [List.map_cons, ← List.singleton_append, ← List.append_assoc,
      ← blockWrites_mergeBlock moment]
    rfl

end Progress

end Ingest

open Ingest

/-! ### The stages behind -/

section

variable {σ : Type} (gateway : Gateway σ) (settings : Settings) (moment : Moment) (chain : σ)
  (follower : Follower)

/-- A tick goes through the stages one after the other. -/
theorem Follower.run_eq :
    follower.run gateway settings moment chain =
      let a := ingestBlocks gateway settings moment chain
        (Progress.start follower.store follower.state)
      let b := indexAccounts gateway settings moment a.2 a.1
      let c := refreshStatuses gateway moment b.2 b.1
      resyncStorage gateway settings moment c.2 c.1 := by
  unfold run
  dsimp only

/-- A tick leaves the store and the memory of its last stage. -/
theorem Follower.tick_eq :
    follower.tick gateway settings moment chain =
      let a := follower.run gateway settings moment chain
      ({ a.1.report with watermark := a.1.state.watermark }, ⟨a.1.store, a.1.state⟩, a.2) := by
  unfold tick
  dsimp only

/-- A tick is its first stage followed by writes of other kinds than blocks. -/
theorem Follower.run_follows :
    Progress.Follows moment [.account, .contract, .transaction, .storageItem]
      (ingestBlocks gateway settings moment chain
        (Progress.start follower.store follower.state)).1
      (follower.run gateway settings moment chain).1 := by
  have haccounts := indexAccounts_follows moment gateway settings
  have hstatuses := refreshStatuses_follows moment gateway
  have hstorage := resyncStorage_follows moment gateway settings
  rw [run_eq]
  exact ((haccounts _ _).mono (by decide)).trans
    (((hstatuses _ _).mono (by decide)).trans ((hstorage _ _).mono (by decide)))

end

end ChainFeed
