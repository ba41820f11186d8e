import ChainFeed.Proofs.Ingest.Distinct

/-!
# Blocks in another order

A block **reorders** another one (`FetchedBlock.Reorders`) if it carries the same transactions and
the same events, listed in another order. The verdict on a record looks at the block's other records
as a whole, not at where they stand, so two such blocks are merged with the same records, and skip
the same. If the records are distinct, each one is merged as if it were the only one, and where it
stands makes no difference: both blocks leave the same resources, the same queue and the same count
of skipped records (`mergeBlock_reordered`).
-/

namespace ChainFeed

open Resource
open Ingest

namespace Ingest

/-! ### Verdicts in any order -/

namespace FetchedBlock

/-- The blocks are the same, and carry the same transactions and the same events in some order. -/
structure Reorders (a b : FetchedBlock) : Prop where
  /-- The blocks are the same. -/
  block_eq : a.block = b.block
  /-- The transactions are the same, in some order. -/
  transactions : a.contents.transactions.Perm b.contents.transactions
  /-- The events are the same, in some order. -/
  events : a.contents.events.Perm b.contents.events

/-- The block with its transactions and events in the opposite order. -/
def reversed (fetched : FetchedBlock) : FetchedBlock :=
  ⟨fetched.block, fetched.contents.transactions.reverse, fetched.contents.events.reverse⟩

theorem reorders_reversed (fetched : FetchedBlock) : fetched.Reorders fetched.reversed :=
  ⟨rfl, (List.reverse_perm _).symm, (List.reverse_perm _).symm⟩

namespace Reorders

variable {a b : FetchedBlock}

theorem acceptedTransactions (h : a.Reorders b) (store : Store) :
    (a.acceptedTransactions store).Perm (b.acceptedTransactions store) := by
  rw [FetchedBlock.acceptedTransactions, FetchedBlock.acceptedTransactions, h.block_eq]
  exact h.transactions.filter _

theorem acceptsEvent (h : a.Reorders b) (store : Store) (e : Event) :
    a.acceptsEvent store e = b.acceptsEvent store e := by
  rw [FetchedBlock.acceptsEvent, FetchedBlock.acceptsEvent,
    (h.acceptedTransactions store).any_eq]

theorem acceptedEvents (h : a.Reorders b) (store : Store) :
    (a.acceptedEvents store).Perm (b.acceptedEvents store) := by
  refine (a.acceptedEvents_perm store).trans (.trans ?_ (b.acceptedEvents_perm store).symm)
  rw [funext (h.acceptsEvent store)]
  exact h.events.filter _

theorem distinct (h : a.Reorders b) (ha : a.Distinct) : b.Distinct where
  transactions := (h.transactions.pairwise_iff fun hxy heq => heq ▸ hxy heq.symm).mp ha.transactions
  events := (h.events.pairwise_iff fun hxy heq => heq ▸ hxy heq.symm).mp ha.events

/-- Both blocks are seen to concern the same accounts. -/
theorem mem_observed_iff (h : a.Reorders b) (store : Store) (address : String) :
    address ∈ a.observed store ↔ address ∈ b.observed store := by
  simp only [observed, List.mem_filter, List.mem_append, List.mem_flatMap,
    (h.acceptedTransactions store).mem_iff, (h.acceptedEvents store).mem_iff]

end Reorders

/-! ### What is left under each id -/

variable {fetched : FetchedBlock} {p : Progress}

/-- What a block leaves of the transactions, stamps aside, depends on what was stored under the id
of each. -/
theorem Distinct.unstamped_transactions (h : fetched.Distinct) (moment : Moment)
    (hp : p.store.transactions.Coherent) :
    (∀ t ∈ fetched.acceptedTransactions p.store,
      ((p.mergeBlock moment fetched).store.transactions.get? t.id).map unstamped =
        some (Index.absorbed (p.store.transactions.get? t.id)
          (t.settledOver (p.store.transactions.get? t.id)))) ∧
    ∀ i, i ∉ (fetched.acceptedTransactions p.store).map (·.id) →
      (p.mergeBlock moment fetched).store.transactions.get? i = p.store.transactions.get? i := by
  refine h.transactions_mergeBlock moment hp
    (fun t before after => after.map unstamped =
      some (Index.absorbed before (t.settledOver before))) fun index now t hindex => ?_
  have hmerged := hindex.unstamped_get?_merge now (t.settledOver (index.get? t.id))
  rwa [Transaction.id_settledOver] at hmerged

/-- What a block leaves of the events, stamps aside, depends on what was stored under the id of
each. -/
theorem Distinct.unstamped_events (h : fetched.Distinct) (moment : Moment)
    (hp : p.store.Coherent) :
    (∀ e ∈ fetched.acceptedEvents p.store,
      ((p.mergeBlock moment fetched).store.events.get? e.id).map unstamped =
        some (Index.absorbed (p.store.events.get? e.id) (Progress.placed fetched.block e))) ∧
    ∀ i, i ∉ (fetched.acceptedEvents p.store).map (·.id) →
      (p.mergeBlock moment fetched).store.events.get? i = p.store.events.get? i := by
  refine h.events_mergeBlock moment hp
    (fun e before after => after.map unstamped =
      some (Index.absorbed before (Progress.placed fetched.block e))) fun index now e hindex => ?_
  have hmerged := hindex.unstamped_get?_merge now (Progress.placed fetched.block e)
  rwa [Progress.resource_id_placed] at hmerged

end FetchedBlock

namespace Progress

variable {p : Progress} {a b : FetchedBlock}

/-- The records of both blocks have the same flaws, in some order. -/
theorem flaws_perm (h : p.store.transactions.Coherent) (hab : a.Reorders b)
    (moment later : Moment) : (p.flaws moment a).Perm (p.flaws later b) := by
  have htransactions : a.transactionVerdict p.store = b.transactionVerdict p.store := by
    funext t
    rw [FetchedBlock.transactionVerdict, FetchedBlock.transactionVerdict, hab.block_eq]
  have hevents : a.eventVerdict p.store = b.eventVerdict p.store := by
    funext e
    rw [FetchedBlock.eventVerdict, FetchedBlock.eventVerdict, hab.acceptsEvent]
  rw [flaws_eq moment h, flaws_eq later h, htransactions, hevents]
  have horder : (eventOrder a.contents.events).Perm (eventOrder b.contents.events) :=
    (eventOrder_perm _).trans (hab.events.trans (eventOrder_perm _).symm)
  exact (hab.transactions.map _).append (horder.map _)

/-! ### Merging in any order -/

/-- The same is left by two ways of merging a block, whatever the order and the stamps of what is
stored. -/
structure SameOutcome (p q : Progress) : Prop where
  /-- The same blocks are stored. -/
  blocks : p.store.blocks.SameResources q.store.blocks
  /-- The same transactions are stored. -/
  transactions : p.store.transactions.SameResources q.store.transactions
  /-- The same events are stored. -/
  events : p.store.events.SameResources q.store.events
  /-- The same accounts wait, with the same blocks and counts. -/
  pending (address : String) : p.state.pending[address]? = q.state.pending[address]?
  /-- As many records were skipped. -/
  skipped_eq : p.report.skippedRecords = q.report.skippedRecords

/-- **The order in which a block lists its records makes no difference.** Whatever a follower has
stored and remembers, and whatever the wall clock shows: if no two transactions and no two events of
a block share an id that is not empty, merging the block leaves the same resources, the same queue
and the same count of skipped records as merging a block that lists the same in another order. -/
theorem mergeBlock_reordered (h : p.store.Coherent) (hab : a.Reorders b) (hdistinct : a.Distinct)
    (moment later : Moment) : (p.mergeBlock moment a).SameOutcome (p.mergeBlock later b) := by
  have hdistinct' := hab.distinct hdistinct
  have hleft : (p.mergeBlock moment a).store.Coherent := coherent_mergeBlock moment a h
  have hright : (p.mergeBlock later b).store.Coherent := coherent_mergeBlock later b h
  refine ⟨?_, ?_, ?_, fun address => ?_, ?_⟩
  · -- the same block is merged into the same blocks, at another time
    obtain ⟨first, hfirst⟩ := blocks_mergeBlock moment a p
    obtain ⟨second, hsecond⟩ := blocks_mergeBlock later b p
    rw [hfirst, hsecond, hab.block_eq]
    exact ((Index.SameContent.refl _).merge first second b.block).sameResources
  · refine (hleft .transaction).sameResources (hright .transaction) ?_
    exact seen_eq_of_perm (·.id) (p.store.transactions.get? ·)
      (fun t found => some (Index.absorbed found (t.settledOver found)))
      (hab.acceptedTransactions p.store)
      (hdistinct.unstamped_transactions moment (h .transaction))
      (hdistinct'.unstamped_transactions later (h .transaction))
  · refine (hleft .event).sameResources (hright .event) ?_
    exact seen_eq_of_perm (·.id) (p.store.events.get? ·)
      (fun e found => some (Index.absorbed found (placed b.block e)))
      (hab.acceptedEvents p.store)
      (hab.block_eq ▸ hdistinct.unstamped_events moment h) (hdistinct'.unstamped_events later h)
  · rw [getElem?_pending_mergeBlock moment (h .transaction),
      getElem?_pending_mergeBlock later (h .transaction), hab.block_eq]
    simp only [hab.mem_observed_iff]
  · rw [skippedRecords_mergeBlock, skippedRecords_mergeBlock,
      (flaws_perm (h .transaction) hab moment later).countP_eq]

theorem mergeBlock_reordered_of_sample :
    (FetchedBlock.sampleProgress.mergeBlock ⟨fun _ => 0, Span.zero⟩
      FetchedBlock.sampleMixture).SameOutcome
    (FetchedBlock.sampleProgress.mergeBlock ⟨fun n => 100 + n, Span.zero⟩
      FetchedBlock.sampleMixture.reversed) :=
  mergeBlock_reordered FetchedBlock.coherent_sampleProgress
    (FetchedBlock.reorders_reversed FetchedBlock.sampleMixture) (by decide +kernel) _ _

end Progress

end Ingest

end ChainFeed
