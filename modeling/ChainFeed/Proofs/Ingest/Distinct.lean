import ChainFeed.Proofs.Index.Unordered
import ChainFeed.Proofs.Ingest.Verdicts

/-!
# Blocks whose records are told apart

The records of a block are **distinct** (`FetchedBlock.Distinct`) if no two of its transactions and
no two of its events share an id, unless it is empty. As records without an id are never accepted,
the accepted ones are told apart by their ids.

So a block is merged with each of its accepted records as if it were the only one: what is stored
under the id of the record in the end is what merging it makes of what was stored under it in the
beginning (`Distinct.transactions_mergeBlock`, `Distinct.events_mergeBlock`).
-/

namespace ChainFeed

open Resource
open Ingest

namespace Transaction

/-- The transaction as it is merged where `found` is stored: its status does not fall behind. -/
def settledOver (found : Option Transaction) (t : Transaction) : Transaction :=
  match found with
  | some stored =>
    if t.status.advancesOver stored.status then t else { t with status := stored.status }
  | none => t

theorem id_settledOver (found : Option Transaction) (t : Transaction) :
    Resource.id (t.settledOver found) = t.id := by
  unfold settledOver
  split
  · split <;> rfl
  · rfl

end Transaction

namespace Ingest

/-! ### Distinct records -/

namespace FetchedBlock

/-- No two transactions and no two events of the block share an id that is not empty. -/
structure Distinct (fetched : FetchedBlock) : Prop where
  /-- No two transactions share an id that is not empty. -/
  transactions : fetched.contents.transactions.Pairwise fun s t => s.id = t.id → s.id = ""
  /-- No two events share an id that is not empty. -/
  events : fetched.contents.events.Pairwise fun d e => d.id = e.id → d.id = ""

instance (fetched : FetchedBlock) : Decidable fetched.Distinct :=
  decidable_of_iff
    ((fetched.contents.transactions.Pairwise fun s t => s.id = t.id → s.id = "") ∧
      fetched.contents.events.Pairwise fun d e => d.id = e.id → d.id = "")
    ⟨fun h => ⟨h.1, h.2⟩, fun h => ⟨h.transactions, h.events⟩⟩

/-- Records that share no id but the empty one, and have one, have different ids. -/
theorem nodup_map_filter {α : Type} {records : List α} {id : α → String} {keep : α → Bool}
    (h : records.Pairwise fun x y => id x = id y → id x = "")
    (hkeep : ∀ x, keep x → id x ≠ "") : ((records.filter keep).map id).Nodup := by
  rw [List.Nodup, List.pairwise_map]
  refine (h.filter keep).imp_of_mem fun hx _ hshared heq => ?_
  exact hkeep _ (List.mem_filter.mp hx).2 (hshared heq)

variable {fetched : FetchedBlock}

theorem Distinct.nodup_acceptedTransactions (h : fetched.Distinct) (store : Store) :
    ((fetched.acceptedTransactions store).map (·.id)).Nodup := by
  refine nodup_map_filter h.transactions fun t ht => ?_
  rw [Store.acceptsTransaction, Bool.and_eq_true, bne_iff_ne] at ht
  exact ht.1

theorem acceptedEvents_perm (fetched : FetchedBlock) (store : Store) :
    (fetched.acceptedEvents store).Perm
      (fetched.contents.events.filter (fetched.acceptsEvent store)) :=
  (Progress.eventOrder_perm _).filter _

theorem Distinct.nodup_acceptedEvents (h : fetched.Distinct) (store : Store) :
    ((fetched.acceptedEvents store).map (·.id)).Nodup := by
  rw [((fetched.acceptedEvents_perm store).map (·.id)).nodup_iff]
  refine nodup_map_filter h.events fun e he => ?_
  rw [acceptsEvent, Bool.and_eq_true, bne_iff_ne] at he
  exact he.1

end FetchedBlock

namespace Progress

variable {moment : Moment} {p : Progress} {fetched : FetchedBlock}

/-! ### What a block leaves of the indexes -/

theorem resource_id_placed (block : Block) (e : Event) :
    Resource.id (placed block e) = e.id :=
  id_placed block e

theorem settled_eq_settledOver (t : Transaction) (p : Progress) :
    p.settled t = t.settledOver (p.store.transactions.get? t.id) := rfl

/-- Merging transactions leaves the events alone. -/
theorem events_foldl_mergeTransaction (moment : Moment) (block : Block)
    (transactions : List Transaction) (p : Progress) :
    (transactions.foldl (fun p t => p.mergeTransaction moment block t) p).store.events =
      p.store.events := by
  induction transactions generalizing p with
  | nil => rfl
  | cons t rest ih => exact ih _

/-- A block leaves of the transactions what its accepted transactions leave. -/
theorem transactions_mergeBlock (moment : Moment) (h : p.store.transactions.Coherent)
    (fetched : FetchedBlock) :
    (p.mergeBlock moment fetched).store.transactions =
      (p.mergeAcceptedTransactions moment fetched).store.transactions := by
  obtain ⟨report, heq⟩ := mergeContents_eq moment h fetched
  rw [mergeBlock_eq, heq]
  exact transactions_foldl_mergeEvent moment fetched.block _ _

/-- A block leaves of the events what its accepted events leave. -/
theorem events_mergeBlock (moment : Moment) (h : p.store.transactions.Coherent)
    (fetched : FetchedBlock) :
    (p.mergeBlock moment fetched).store.events =
      (p.mergeAccepted moment fetched).store.events := by
  obtain ⟨report, heq⟩ := mergeContents_eq moment h fetched
  rw [mergeBlock_eq, heq]
  rfl

/-- A block is merged into the blocks that it found. -/
theorem blocks_mergeBlock (moment : Moment) (fetched : FetchedBlock) (p : Progress) :
    ∃ now, (p.mergeBlock moment fetched).store.blocks =
      (p.store.blocks.merge now fetched.block).2 := by
  have hblocks : (p.mergeContents moment fetched).store.index .block = p.store.index .block :=
    (mergeContents_follows moment fetched p).index_eq (by decide)
  rw [mergeBlock_eq, show p.store.blocks = _ from hblocks.symm]
  exact ⟨_, rfl⟩

theorem coherent_mergeBlock (moment : Moment) (fetched : FetchedBlock) (h : p.store.Coherent) :
    (p.mergeBlock moment fetched).store.Coherent := by
  obtain ⟨writes, hw⟩ := mergeHeight_wrote moment 0 fetched p
  have hstore : (p.mergeBlock moment fetched).store = _ := hw.store
  rw [hstore]
  exact h.replay _ _ _

end Progress

/-! ### Each record as if it were the only one -/

namespace FetchedBlock

open Progress

variable {p : Progress} {fetched : FetchedBlock}

/-- **A block with distinct records is merged with each accepted transaction as if it were the only
one.** Here `did` says what merging a transaction makes of what is stored under its id. -/
theorem Distinct.transactions_mergeBlock (h : fetched.Distinct) (moment : Moment)
    (hp : p.store.transactions.Coherent)
    (did : Transaction → Option Transaction → Option Transaction → Prop)
    (hdid : ∀ (index : Index Transaction) now t, index.Coherent →
      did t (index.get? t.id)
        ((index.merge now (t.settledOver (index.get? t.id))).2.get? t.id)) :
    (∀ t ∈ fetched.acceptedTransactions p.store,
      did t (p.store.transactions.get? t.id)
        ((p.mergeBlock moment fetched).store.transactions.get? t.id)) ∧
    ∀ i, i ∉ (fetched.acceptedTransactions p.store).map (·.id) →
      (p.mergeBlock moment fetched).store.transactions.get? i = p.store.transactions.get? i := by
  rw [Progress.transactions_mergeBlock moment hp]
  exact foldl_distinct (fun q : Progress => q.store.transactions.Coherent)
    (fun q t => q.mergeTransaction moment fetched.block t)
    (fun q i => q.store.transactions.get? i) (·.id)
    (fun _ _ hq => hq.step (Index.merge_step _ _ hq))
    (fun _ t _ hq hne => hq.get?_merge_of_ne _ ((id_settled t).trans_ne hne))
    (fun q t hq => hdid q.store.transactions _ t hq)
    (h.nodup_acceptedTransactions p.store) hp

/-- **A block with distinct records is merged with each accepted event as if it were the only
one.** -/
theorem Distinct.events_mergeBlock (h : fetched.Distinct) (moment : Moment)
    (hp : p.store.Coherent) (did : Event → Option Event → Option Event → Prop)
    (hdid : ∀ (index : Index Event) now e, index.Coherent →
      did e (index.get? e.id) ((index.merge now (placed fetched.block e)).2.get? e.id)) :
    (∀ e ∈ fetched.acceptedEvents p.store,
      did e (p.store.events.get? e.id) ((p.mergeBlock moment fetched).store.events.get? e.id)) ∧
    ∀ i, i ∉ (fetched.acceptedEvents p.store).map (·.id) →
      (p.mergeBlock moment fetched).store.events.get? i = p.store.events.get? i := by
  have hstart : (p.mergeAcceptedTransactions moment fetched).store.events = p.store.events :=
    events_foldl_mergeTransaction moment fetched.block _ _
  rw [Progress.events_mergeBlock moment (hp .transaction), ← hstart]
  exact foldl_distinct (fun q : Progress => q.store.events.Coherent)
    (fun q e => q.mergeEvent moment fetched.block e)
    (fun q i => q.store.events.get? i) (·.id)
    (fun _ _ hq => hq.step (Index.merge_step _ _ hq))
    (fun _ e _ hq hne => hq.get?_merge_of_ne _ ((resource_id_placed _ e).trans_ne hne))
    (fun q e hq => hdid q.store.events _ e hq)
    (h.nodup_acceptedEvents p.store) (hstart ▸ hp .event)

/-! ### A sample -/

/-- A block with a transaction that may be stored already, one of an earlier block, one of an
unknown block, two without an id, and an event for each of the first three. -/
def sampleMixture : FetchedBlock where
  block := Block.sample 2
  contents := {
    transactions := [
      { Transaction.sample "t1" (Block.sampleId 2) "0x1" with status := ⟨.finalized, .ok, ""⟩ },
      Transaction.sample "t2" (Block.sampleId 1) "0x2",
      Transaction.sample "t3" (Block.sampleId 9) "0x3",
      Transaction.sample "" (Block.sampleId 2) "0x4",
      Transaction.sample "" (Block.sampleId 2) "0x5"]
    events := [
      Event.sample "t1" 0 "A.0x01.Dummy.Event",
      { Event.sample "t2" 0 Event.accountCreatedType with
        data := .record [("address", .text "0x6")] },
      Event.sample "t3" 0 "A.0x01.Dummy.Event"] }

/-- A progress behind a block in which the first transaction is sealed. -/
def sampleProgress : Progress :=
  (Progress.start Store.empty State.initial).mergeBlock ⟨fun n => 7 * n, Span.zero⟩
    { block := Block.sample 1
      contents := {
        transactions := [{ Transaction.sample "t1" (Block.sampleId 1) "0x1" with
          status := ⟨.sealed, .ok, ""⟩ }]
        events := [] } }

theorem coherent_sampleProgress : sampleProgress.store.Coherent :=
  coherent_mergeBlock _ _ .empty

end FetchedBlock

end Ingest

end ChainFeed
