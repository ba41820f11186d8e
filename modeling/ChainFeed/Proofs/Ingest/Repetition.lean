import ChainFeed.Proofs.Index.Repetition
import ChainFeed.Proofs.Ingest.Distinct

/-!
# Merging a block again

The first time that a block with distinct records is merged, all that it brings comes to be
reflected in the store: its accepted transactions with the statuses that they are merged with
(`Distinct.reflects_transactions`), its accepted events, and the block itself. The second time, the
statuses are the same once more (`settledOver_again`), and the checks come to the same verdicts,
though the block and its transactions are known by then (`acceptsTransaction_mergeBlock`,
`acceptsEvent_mergeBlock`). So nothing is written (`mergeBlock_twice`).
-/

namespace ChainFeed

open Resource
open Ingest

namespace Transaction

/-! ### Statuses -/

/-- What has the content of a merged transaction has its status. -/
theorem status_eq_of_sameContent_merge {t stored : Transaction}
    (h : sameContent (Resource.merge stored t) stored = true) : stored.status = t.status := by
  change instBEqTransaction.beq { Resource.merge stored t with stamps := Stamps.unset }
    { stored with stamps := Stamps.unset } = true at h
  simp only [instBEqTransaction.beq, Bool.and_eq_true, beq_iff_eq] at h
  obtain ⟨-, -, -, -, -, -, -, -, -, -, -, hstatus, -⟩ := h
  exact hstatus.symm

/-- A transaction that is stored with the status that it was merged with is merged with that status
again. -/
theorem settledOver_again {t stored : Transaction} {found : Option Transaction}
    (h : stored.status = (t.settledOver found).status) :
    t.settledOver (some stored) = t.settledOver found := by
  cases found with
  | none =>
    rw [settledOver, h]
    split <;> rfl
  | some earlier =>
    by_cases hadvances : t.status.advancesOver earlier.status = true
    · -- the transaction was merged with its own status
      have hsettled : t.settledOver (some earlier) = t := if_pos hadvances
      rw [hsettled] at h ⊢
      rw [settledOver, h]
      split <;> rfl
    · -- it was merged with the stored status, which it does not advance over now either
      have hsettled : t.settledOver (some earlier) = { t with status := earlier.status } :=
        if_neg hadvances
      rw [hsettled] at h ⊢
      rw [settledOver, h]
      exact if_neg hadvances

end Transaction

/-- What merging a transaction leaves reflects it, with the status that it would be merged with
next. -/
theorem Index.Coherent.reflects_merge_settled {index : Index Transaction} (h : index.Coherent)
    (now : Nat) (t : Transaction) :
    ∃ stored, (index.merge now (t.settledOver (index.get? t.id))).2.get? t.id = some stored ∧
      sameContent (Resource.merge stored (t.settledOver (some stored))) stored = true := by
  obtain ⟨stored, hstored, hsame⟩ := h.reflects_merge now (t.settledOver (index.get? t.id))
  rw [Transaction.id_settledOver] at hstored
  have hstatus := Transaction.status_eq_of_sameContent_merge hsame
  refine ⟨stored, hstored, ?_⟩
  rw [Transaction.settledOver_again hstatus]
  exact hsame

namespace Ingest.FetchedBlock

open Progress

variable {fetched : FetchedBlock} {p : Progress}

/-! ### What is reflected -/

/-- **The accepted transactions of a block are reflected with the statuses they would be merged
with.** -/
theorem Distinct.reflects_transactions (h : fetched.Distinct) (moment : Moment)
    (hp : p.store.transactions.Coherent) :
    ∀ t ∈ fetched.acceptedTransactions p.store,
      (p.mergeBlock moment fetched).store.transactions.Reflects
        ((p.mergeBlock moment fetched).settled t) := by
  intro t ht
  have hdid := (h.transactions_mergeBlock moment hp
    (fun t _ after => ∃ stored, after = some stored ∧
      sameContent (Resource.merge stored (t.settledOver (some stored))) stored = true)
    fun _ now t hindex => hindex.reflects_merge_settled now t).1
  obtain ⟨stored, hstored, hsame⟩ := hdid t ht
  rw [settled_eq_settledOver, hstored, Index.Reflects, Transaction.id_settledOver]
  exact ⟨stored, hstored, hsame⟩

/-- The accepted events of a block are reflected. -/
theorem Distinct.reflects_events (h : fetched.Distinct) (moment : Moment) (hp : p.store.Coherent) :
    ∀ e ∈ fetched.acceptedEvents p.store,
      (p.mergeBlock moment fetched).store.events.Reflects (placed fetched.block e) := by
  intro e he
  have hdid := (h.events_mergeBlock moment hp
    (fun e _ after => ∃ stored, after = some stored ∧
      sameContent (Resource.merge stored (placed fetched.block e)) stored = true)
    fun _ now e hindex => by
      have hreflects := hindex.reflects_merge now (placed fetched.block e)
      rwa [Index.Reflects, resource_id_placed] at hreflects).1
  rw [Index.Reflects, resource_id_placed]
  exact hdid e he

/-- A block that was merged is reflected. -/
theorem reflects_block (fetched : FetchedBlock) (moment : Moment) (hp : p.store.Coherent) :
    (p.mergeBlock moment fetched).store.blocks.Reflects fetched.block := by
  obtain ⟨now, hblocks⟩ := blocks_mergeBlock moment fetched p
  rw [hblocks]
  exact (hp .block).reflects_merge now fetched.block

/-! ### The same verdicts -/

/-- A block accepts the same transactions when it is stored itself. -/
theorem acceptsTransaction_mergeBlock (fetched : FetchedBlock) (moment : Moment)
    (hp : p.store.Coherent) (t : Transaction) :
    (p.mergeBlock moment fetched).store.acceptsTransaction fetched.block t =
      p.store.acceptsTransaction fetched.block t := by
  obtain ⟨now, hblocks⟩ := blocks_mergeBlock moment fetched p
  have hcontains := (hp .block).contains_merge_iff now fetched.block t.blockId
  replace hcontains : (p.store.blocks.merge now fetched.block).2.contains t.blockId ↔
      p.store.blocks.contains t.blockId ∨ fetched.block.id = t.blockId := hcontains
  rw [Store.acceptsTransaction, Store.acceptsTransaction, hblocks, Bool.eq_iff_iff]
  simp only [Bool.and_eq_true, Bool.or_eq_true, beq_iff_eq, hcontains]
  tauto

theorem acceptedTransactions_mergeBlock (fetched : FetchedBlock) (moment : Moment)
    (hp : p.store.Coherent) :
    fetched.acceptedTransactions (p.mergeBlock moment fetched).store =
      fetched.acceptedTransactions p.store :=
  List.filter_congr fun t _ => fetched.acceptsTransaction_mergeBlock moment hp t

/-- A block accepts the same events when its transactions are stored. -/
theorem acceptsEvent_mergeBlock (fetched : FetchedBlock) (moment : Moment)
    (hp : p.store.Coherent) (e : Event) :
    fetched.acceptsEvent (p.mergeBlock moment fetched).store e =
      fetched.acceptsEvent p.store e := by
  have hcontains := contains_foldl_mergeTransaction moment fetched.block
    (fetched.acceptedTransactions p.store) (hp .transaction) e.transactionId
  replace hcontains : (p.mergeBlock moment fetched).store.transactions.contains e.transactionId ↔
      p.store.transactions.contains e.transactionId ∨
        ∃ t ∈ fetched.acceptedTransactions p.store, t.id = e.transactionId := by
    rw [transactions_mergeBlock moment (hp .transaction)]
    exact hcontains
  rw [acceptsEvent, acceptsEvent, fetched.acceptedTransactions_mergeBlock moment hp,
    Bool.eq_iff_iff]
  simp only [Bool.and_eq_true, Bool.or_eq_true, List.any_eq_true, beq_iff_eq, hcontains]
  tauto

theorem acceptedEvents_mergeBlock (fetched : FetchedBlock) (moment : Moment)
    (hp : p.store.Coherent) :
    fetched.acceptedEvents (p.mergeBlock moment fetched).store = fetched.acceptedEvents p.store :=
  List.filter_congr fun e _ => fetched.acceptsEvent_mergeBlock moment hp e

/-- A block is seen to concern the same accounts again. -/
theorem observed_mergeBlock (fetched : FetchedBlock) (moment : Moment) (hp : p.store.Coherent) :
    fetched.observed (p.mergeBlock moment fetched).store = fetched.observed p.store := by
  rw [observed, observed, fetched.acceptedTransactions_mergeBlock moment hp,
    fetched.acceptedEvents_mergeBlock moment hp]

end Ingest.FetchedBlock

namespace Ingest.Progress

variable {p q : Progress} {fetched : FetchedBlock}

/-- **The records of a block have the same flaws again.** -/
theorem flaws_mergeBlock (moment later : Moment) (h : p.store.Coherent) (fetched : FetchedBlock) :
    (p.mergeBlock moment fetched).flaws later fetched = p.flaws moment fetched := by
  have hlater : (p.mergeBlock moment fetched).store.Coherent := coherent_mergeBlock moment fetched h
  rw [flaws_eq later (hlater .transaction), flaws_eq moment (h .transaction)]
  congr 1
  · refine List.map_congr_left fun t _ => ?_
    rw [FetchedBlock.transactionVerdict, FetchedBlock.transactionVerdict,
      fetched.acceptsTransaction_mergeBlock moment h]
  · refine List.map_congr_left fun e _ => ?_
    rw [FetchedBlock.eventVerdict, FetchedBlock.eventVerdict,
      fetched.acceptsEvent_mergeBlock moment h]

/-! ### Merging what is reflected -/

/-- Merging reflected transactions changes nothing that is stored. -/
theorem store_foldl_mergeTransaction (moment : Moment) (block : Block)
    {transactions : List Transaction}
    (h : ∀ t ∈ transactions, p.store.transactions.Reflects (p.settled t)) :
    (transactions.foldl (fun q t => q.mergeTransaction moment block t) p).store = p.store := by
  refine List.foldlRecOn (motive := fun q : Progress => q.store = p.store) _ _ rfl
    fun q hq t ht => ?_
  -- the store alone tells the status that a transaction is merged with
  have hsettled : q.settled t = p.settled t := by
    rw [settled_eq_settledOver, settled_eq_settledOver, hq]
  have hstore : (q.mergeTransaction moment block t).store =
      p.store.write (moment.wall q.journal.size) (.transaction (p.settled t)) := by
    rw [← hq, ← hsettled]
    rfl
  rw [hstore, Store.write, (h t ht).merge_eq]

/-- Merging reflected events changes nothing that is stored. -/
theorem store_foldl_mergeEvent (moment : Moment) (block : Block) {events : List Event}
    (h : ∀ e ∈ events, p.store.events.Reflects (placed block e)) :
    (events.foldl (fun q e => q.mergeEvent moment block e) p).store = p.store := by
  refine List.foldlRecOn (motive := fun q : Progress => q.store = p.store) _ _ rfl
    fun q hq e he => ?_
  have hstore : (q.mergeEvent moment block e).store =
      p.store.write (moment.wall q.journal.size) (.event (placed block e)) := by
    rw [← hq]
    rfl
  rw [hstore, Store.write, (h e he).merge_eq]

/-- **A block that brings nothing new changes nothing that is stored.** -/
theorem store_mergeBlock_of_reflects (moment : Moment) (hp : p.store.transactions.Coherent)
    (fetched : FetchedBlock)
    (htransactions : ∀ t ∈ fetched.acceptedTransactions p.store,
      p.store.transactions.Reflects (p.settled t))
    (hevents : ∀ e ∈ fetched.acceptedEvents p.store,
      p.store.events.Reflects (placed fetched.block e))
    (hblock : p.store.blocks.Reflects fetched.block) :
    (p.mergeBlock moment fetched).store = p.store := by
  have hmerged : (p.mergeAcceptedTransactions moment fetched).store = p.store :=
    store_foldl_mergeTransaction moment fetched.block htransactions
  have haccepted : (p.mergeAccepted moment fetched).store = p.store :=
    (store_foldl_mergeEvent moment fetched.block (hmerged.symm ▸ hevents)).trans hmerged
  obtain ⟨report, heq⟩ := mergeContents_eq moment hp fetched
  rw [mergeBlock_eq, heq, Progress.write]
  dsimp only
  rw [haccepted, Store.write, hblock.merge_eq]

/-- **Merging a block again changes nothing.** Whatever a follower has stored and remembers, and
whatever the wall clock shows: when a block is merged in which no two transactions and no two events
share an id that is not empty, merging it again leaves the store and the queue as they are, and
finds the same flaws in the same records, which are skipped and counted both times. -/
theorem mergeBlock_twice (h : p.store.Coherent) (hdistinct : fetched.Distinct)
    (moment later : Moment) :
    let once := p.mergeBlock moment fetched
    let twice := once.mergeBlock later fetched
    twice.store = once.store ∧ once.flaws later fetched = p.flaws moment fetched ∧
      (∀ address : String, twice.state.pending[address]? = once.state.pending[address]?) ∧
      once.report.skippedRecords =
        p.report.skippedRecords + (p.flaws moment fetched).countP (·.isSome) ∧
      twice.report.skippedRecords =
        once.report.skippedRecords + (p.flaws moment fetched).countP (·.isSome) := by
  intro once twice
  have hlater : once.store.Coherent := coherent_mergeBlock moment fetched h
  have hflaws : once.flaws later fetched = p.flaws moment fetched :=
    flaws_mergeBlock moment later h fetched
  refine ⟨?_, hflaws, fun address => ?_, skippedRecords_mergeBlock moment fetched p, ?_⟩
  · refine store_mergeBlock_of_reflects later (hlater .transaction) fetched ?_ ?_ ?_
    · rw [fetched.acceptedTransactions_mergeBlock moment h]
      exact hdistinct.reflects_transactions moment (h .transaction)
    · rw [fetched.acceptedEvents_mergeBlock moment h]
      exact hdistinct.reflects_events moment h
    · exact fetched.reflects_block moment h
  · rw [getElem?_pending_mergeBlock later (hlater .transaction),
      fetched.observed_mergeBlock moment h, getElem?_pending_mergeBlock moment (h .transaction)]
    split <;> rfl
  · rw [← hflaws]
    exact skippedRecords_mergeBlock later fetched once

theorem mergeBlock_twice_of_sample :
    let p := FetchedBlock.sampleProgress
    let fetched := FetchedBlock.sampleMixture
    let moment : Moment := ⟨fun n => 100 + n, Span.zero⟩
    let once := p.mergeBlock moment fetched
    let twice := once.mergeBlock moment fetched
    twice.store = once.store ∧ once.flaws moment fetched = p.flaws moment fetched ∧
      (∀ address : String, twice.state.pending[address]? = once.state.pending[address]?) ∧
      once.report.skippedRecords =
        p.report.skippedRecords + (p.flaws moment fetched).countP (·.isSome) ∧
      twice.report.skippedRecords =
        once.report.skippedRecords + (p.flaws moment fetched).countP (·.isSome) :=
  mergeBlock_twice FetchedBlock.coherent_sampleProgress (by decide +kernel) _ _

/-- Four records of the sample are skipped each time. -/
example : ((FetchedBlock.sampleProgress.mergeBlock ⟨fun n => 100 + n, Span.zero⟩
    FetchedBlock.sampleMixture).mergeBlock ⟨fun _ => 0, Span.zero⟩
      FetchedBlock.sampleMixture).report.skippedRecords = 4 + 4 := by
  decide +kernel

end Ingest.Progress

end ChainFeed
