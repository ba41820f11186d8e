import ChainFeed.Proofs.Ingest.References

/-!
# The records that a block is merged with

A record of a block is **accepted** if nothing keeps it from being merged with the block. Which ones
are depends on the store that the merging of the block finds, and on nothing that happens since: a
transaction names the block itself or one that is stored (`FetchedBlock.acceptedTransactions`), and
the transaction of an event is stored or accepted itself (`FetchedBlock.acceptedEvents`).

Merging what a block carries is merging its accepted transactions in order, and then its accepted
events; beyond that, records are skipped and counted (`mergeContents_eq`). So what the follower does
with a block is a fold over two lists (`mergeAccepted`), after which each accepted record is stored
(`contains_mergeContents`).
-/

namespace ChainFeed

open Ingest

/-! ### Accepted records -/

/-- Whether a transaction can be merged with a block: it has an id, and its block is the one being
merged or a stored one. -/
def Store.acceptsTransaction (store : Store) (block : Block) (t : Transaction) : Bool :=
  t.id != "" && (t.blockId == block.id || store.blocks.contains t.blockId)

namespace Ingest.FetchedBlock

variable (fetched : FetchedBlock) (store : Store)

/-- The transactions that the block is merged with, in order. -/
def acceptedTransactions : List Transaction :=
  fetched.contents.transactions.filter (store.acceptsTransaction fetched.block)

/-- Whether an event can be merged with the block: it has an id, and its transaction is stored or
merged with the block. -/
def acceptsEvent (e : Event) : Bool :=
  e.id != "" &&
    (store.transactions.contains e.transactionId ||
      (fetched.acceptedTransactions store).any (·.id == e.transactionId))

/-- The events that the block is merged with, in the order in which they are merged. -/
def acceptedEvents : List Event :=
  (Progress.eventOrder fetched.contents.events).filter (fetched.acceptsEvent store)

end Ingest.FetchedBlock

namespace Ingest.Progress

variable {moment : Moment} {block : Block} {p : Progress}

/-- A transaction is accepted if and only if it has no flaw. -/
theorem acceptsTransaction_iff {store : Store} (h : p.store.blocks = store.blocks)
    {t : Transaction} :
    store.acceptsTransaction block t ↔ p.transactionFlaw? block t = none := by
  rw [transactionFlaw?_eq_none_iff, Store.Knows, h, Store.acceptsTransaction, Option.some_inj,
    eq_comm (a := block.id)]
  simp [or_comm]

/-! ### Folds over the accepted records -/

/-- Steps that do not look at the report carry it along. -/
theorem foldl_report {α : Type} (step : Progress → α → Progress)
    (hstep : ∀ (p : Progress) item report,
      step { p with report } item = { step p item with report }) (items : List α) (p : Progress)
    (report : Report) :
    items.foldl step { p with report } = { items.foldl step p with report } := by
  induction items generalizing p with
  | nil => rfl
  | cons item items ih => rw [List.foldl_cons, hstep, ih, List.foldl_cons]

/-- Merging the transactions of a block is merging the accepted ones in order. -/
theorem mergeTransactions_eq (moment : Moment) (block : Block) {store : Store}
    (merged : List String) (transactions : List Transaction) (p : Progress)
    (h : p.store.blocks = store.blocks) :
    ∃ report, p.mergeTransactions moment block merged transactions =
      let accepted := transactions.filter (store.acceptsTransaction block)
      ((accepted.map (·.id)).reverse ++ merged,
        { accepted.foldl (fun p t => p.mergeTransaction moment block t) p with report }) := by
  induction transactions generalizing merged p with
  | nil => exact ⟨p.report, rfl⟩
  | cons t rest ih =>
    rw [mergeTransactions]
    cases hflaw : p.transactionFlaw? block t with
    | some flaw =>
      have hnot : ¬store.acceptsTransaction block t := by
        rw [acceptsTransaction_iff h, hflaw]
        exact Option.some_ne_none flaw
      obtain ⟨report, heq⟩ := ih merged (p.skip flaw) h
      have hfold := foldl_report (fun p t => p.mergeTransaction moment block t)
        (fun _ _ _ => rfl) (rest.filter (store.acceptsTransaction block)) p p.report.skip
      refine ⟨report, heq.trans ?_⟩
      rw [List.filter_cons_of_neg hnot]
      dsimp only [skip]
      rw [hfold]
    | none =>
      obtain ⟨report, heq⟩ := ih (t.id :: merged) (p.mergeTransaction moment block t) h
      refine ⟨report, heq.trans ?_⟩
      rw [List.filter_cons_of_pos ((acceptsTransaction_iff h).mpr hflaw)]
      simp only [List.map_cons, List.reverse_cons, List.append_assoc, List.singleton_append,
        List.foldl_cons]

/-- Merging the events of a block is merging those without a flaw in order. -/
theorem mergeEvents_eq (moment : Moment) (block : Block) {merged : List String}
    {accepts : Event → Bool} (events : List Event) (p : Progress)
    (h : ∀ e, accepts e ↔ p.eventFlaw? merged e = none) :
    ∃ report, p.mergeEvents moment block merged events =
      { (events.filter accepts).foldl (fun p e => p.mergeEvent moment block e) p with report } := by
  induction events generalizing p with
  | nil => exact ⟨p.report, rfl⟩
  | cons e rest ih =>
    rw [mergeEvents]
    cases hflaw : p.eventFlaw? merged e with
    | some flaw =>
      have hnot : ¬accepts e := by
        rw [h, hflaw]
        exact Option.some_ne_none flaw
      obtain ⟨report, heq⟩ := ih (p.skip flaw) h
      have hfold := foldl_report (fun p e => p.mergeEvent moment block e)
        (fun _ _ _ => rfl) (rest.filter accepts) p p.report.skip
      refine ⟨report, heq.trans ?_⟩
      rw [List.filter_cons_of_neg hnot]
      dsimp only [skip]
      rw [hfold]
    | none =>
      -- merging an event does not change which events have a flaw
      obtain ⟨report, heq⟩ := ih (p.mergeEvent moment block e) h
      refine ⟨report, heq.trans ?_⟩
      rw [List.filter_cons_of_pos ((h e).mpr hflaw), List.foldl_cons]

theorem id_placed (block : Block) (e : Event) : (placed block e).id = e.id := by
  unfold placed
  split <;> rfl

/-- Merging transactions stores them, and no others. -/
theorem contains_foldl_mergeTransaction (moment : Moment) (block : Block)
    (transactions : List Transaction) {p : Progress} (h : p.store.transactions.Coherent)
    (i : String) :
    (transactions.foldl (fun p t => p.mergeTransaction moment block t)
        p).store.transactions.contains i ↔
      p.store.transactions.contains i ∨ ∃ t ∈ transactions, t.id = i := by
  induction transactions generalizing p with
  | nil => simp
  | cons t rest ih =>
    have hmerge : (p.mergeTransaction moment block t).store.transactions.contains i ↔
        p.store.transactions.contains i ∨ t.id = i := by
      have hiff := h.contains_merge_iff (moment.wall p.journal.size) (p.settled t) i
      rw [show Resource.id (p.settled t) = t.id from id_settled t] at hiff
      exact hiff
    rw [List.foldl_cons, ih (h.step (Index.merge_step _ _ h)), hmerge, or_assoc]
    simp only [List.exists_mem_cons_iff]

/-- Merging events stores them. -/
theorem contains_foldl_mergeEvent (moment : Moment) (block : Block) (events : List Event)
    {p : Progress} {i : String} (h : p.store.events.contains i ∨ ∃ e ∈ events, e.id = i) :
    (events.foldl (fun p e => p.mergeEvent moment block e) p).store.events.contains i := by
  induction events generalizing p with
  | nil => exact h.resolve_right (by simp)
  | cons e rest ih =>
    refine ih ?_
    rw [List.exists_mem_cons_iff, ← or_assoc, ← id_placed block e] at h
    exact h.imp_left Index.contains_merge

/-- Merging events leaves the transactions alone. -/
theorem transactions_foldl_mergeEvent (moment : Moment) (block : Block) (events : List Event)
    (p : Progress) :
    (events.foldl (fun p e => p.mergeEvent moment block e) p).store.transactions =
      p.store.transactions := by
  induction events generalizing p with
  | nil => rfl
  | cons e rest ih => exact ih _

/-! ### Blocks -/

/-- The progress after the transactions that a block is merged with. -/
def mergeAcceptedTransactions (moment : Moment) (fetched : FetchedBlock) (p : Progress) :
    Progress :=
  (fetched.acceptedTransactions p.store).foldl
    (fun p t => p.mergeTransaction moment fetched.block t) p

/-- The progress after all the records that a block is merged with. -/
def mergeAccepted (moment : Moment) (fetched : FetchedBlock) (p : Progress) : Progress :=
  (fetched.acceptedEvents p.store).foldl (fun p e => p.mergeEvent moment fetched.block e)
    (p.mergeAcceptedTransactions moment fetched)

/-- An event is accepted if and only if it has no flaw behind the accepted transactions. -/
theorem acceptsEvent_iff (moment : Moment) (h : p.store.transactions.Coherent)
    (fetched : FetchedBlock) {q : Progress}
    (hq : q.store.transactions = (p.mergeAcceptedTransactions moment fetched).store.transactions)
    (e : Event) :
    fetched.acceptsEvent p.store e ↔
      q.eventFlaw? ((fetched.acceptedTransactions p.store).map (·.id)).reverse e = none := by
  have hcontains := contains_foldl_mergeTransaction moment fetched.block
    (fetched.acceptedTransactions p.store) h e.transactionId
  rw [eventFlaw?_eq_none_iff, hq, mergeAcceptedTransactions, hcontains]
  simp only [FetchedBlock.acceptsEvent, Bool.and_eq_true, bne_iff_ne, Bool.or_eq_true,
    List.any_eq_true, beq_iff_eq, List.mem_reverse, List.mem_map]
  tauto

/-- **What a block carries is merged as its accepted records are, one by one.** -/
theorem mergeContents_eq (moment : Moment) (h : p.store.transactions.Coherent)
    (fetched : FetchedBlock) :
    ∃ report, p.mergeContents moment fetched =
      { p.mergeAccepted moment fetched with report } := by
  obtain ⟨report, htransactions⟩ :=
    mergeTransactions_eq moment fetched.block [] fetched.contents.transactions p rfl
  rw [mergeContents, htransactions]
  -- the ids of the merged transactions are those of the accepted ones
  obtain ⟨last, hevents⟩ := mergeEvents_eq moment fetched.block
    (eventOrder fetched.contents.events) { p.mergeAcceptedTransactions moment fetched with report }
    (acceptsEvent_iff moment h fetched rfl)
  refine ⟨last, ?_⟩
  simp only [List.append_nil]
  refine hevents.trans ?_
  rw [foldl_report _ fun _ _ _ => rfl]
  rfl

/-- Behind what it carries, the accepted records of a block are stored. -/
theorem contains_mergeContents (moment : Moment) (h : p.store.transactions.Coherent)
    (fetched : FetchedBlock) :
    (∀ t ∈ fetched.acceptedTransactions p.store,
      (p.mergeContents moment fetched).store.transactions.contains t.id) ∧
    ∀ e ∈ fetched.acceptedEvents p.store,
      (p.mergeContents moment fetched).store.events.contains e.id := by
  obtain ⟨report, heq⟩ := mergeContents_eq moment h fetched
  rw [heq, mergeAccepted]
  constructor
  · intro t ht
    dsimp only
    rw [transactions_foldl_mergeEvent, mergeAcceptedTransactions,
      contains_foldl_mergeTransaction moment fetched.block _ h]
    exact .inr ⟨t, ht, rfl⟩
  · exact fun e he => contains_foldl_mergeEvent moment fetched.block _ (.inr ⟨e, he, rfl⟩)

theorem eventOrder_perm (events : List Event) : (eventOrder events).Perm events :=
  List.filter_append_perm _ _

theorem mem_eventOrder {events : List Event} {e : Event} : e ∈ eventOrder events ↔ e ∈ events :=
  (eventOrder_perm events).mem_iff

/-- Some events move to the front, but the block is merged with each one that can be merged. -/
theorem mem_acceptedEvents_iff {fetched : FetchedBlock} {store : Store} {e : Event} :
    e ∈ fetched.acceptedEvents store ↔
      e ∈ fetched.contents.events ∧ fetched.acceptsEvent store e := by
  rw [FetchedBlock.acceptedEvents, List.mem_filter, mem_eventOrder]

end Ingest.Progress

end ChainFeed
