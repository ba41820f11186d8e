import ChainFeed.Proofs.Ingest.Queue

/-!
# Verdicts on the records of a block

The records of a block are checked one by one, each against a store that the records in front of it
have changed already; what is found then are the **flaws** of the block (`Progress.flaws`), and as
many records are skipped and counted as have one (`skippedRecords_mergeBlock`).

The store that the block finds decides all of them in advance: the **verdict** on a record is
whether the block is merged with it, and if not, why (`FetchedBlock.transactionVerdict`,
`FetchedBlock.eventVerdict`). The flaws of a block are the verdicts on its records (`flaws_eq`).
-/

namespace ChainFeed

open Ingest

namespace Ingest.FetchedBlock

variable (fetched : FetchedBlock) (store : Store)

/-- What keeps the block from being merged with a transaction. -/
def transactionVerdict (t : Transaction) : Option Flaw :=
  if store.acceptsTransaction fetched.block t then none
  else some (if t.id = "" then .noId else .unknownBlock t.blockId)

/-- What keeps the block from being merged with an event. -/
def eventVerdict (e : Event) : Option Flaw :=
  if fetched.acceptsEvent store e then none
  else some (if e.id = "" then .noId else .unknownTransaction e.transactionId)

end Ingest.FetchedBlock

namespace Ingest.Progress

/-! ### Flaws -/

/-- The flaws of some transactions of a block, each of them as it is found when those in front of it
are merged or skipped. -/
def transactionFlaws (moment : Moment) (block : Block) :
    List Transaction → Progress → List (Option Flaw)
  | [], _ => []
  | t :: rest, p =>
    p.transactionFlaw? block t ::
      transactionFlaws moment block rest (p.mergeTransactions moment block [] [t]).2

/-- The flaws of some events of a block, each of them as it is found when those in front of it are
merged or skipped. -/
def eventFlaws (moment : Moment) (block : Block) (merged : List String) :
    List Event → Progress → List (Option Flaw)
  | [], _ => []
  | e :: rest, p =>
    p.eventFlaw? merged e ::
      eventFlaws moment block merged rest (p.mergeEvents moment block merged [e])

/-- The flaws of a block's records, in the order in which the records are checked. -/
def flaws (moment : Moment) (fetched : FetchedBlock) (p : Progress) : List (Option Flaw) :=
  let transactions := p.mergeTransactions moment fetched.block [] fetched.contents.transactions
  p.transactionFlaws moment fetched.block fetched.contents.transactions ++
    transactions.2.eventFlaws moment fetched.block transactions.1
      (eventOrder fetched.contents.events)

variable {moment : Moment} {block : Block} {p q : Progress}

/-! ### Counting -/

/-- A flaw of a transaction is counted. -/
theorem skippedRecords_mergeTransactions (moment : Moment) (block : Block) (merged : List String)
    (transactions : List Transaction) (p : Progress) :
    (p.mergeTransactions moment block merged transactions).2.report.skippedRecords =
      p.report.skippedRecords +
        (p.transactionFlaws moment block transactions).countP (·.isSome) := by
  induction transactions generalizing merged p with
  | nil => rfl
  | cons t rest ih =>
    rw [mergeTransactions, transactionFlaws, mergeTransactions]
    cases p.transactionFlaw? block t with
    | some flaw =>
      refine (ih merged (p.skip flaw)).trans ?_
      rw [List.countP_cons_of_pos rfl, Nat.add_comm _ 1, ← Nat.add_assoc]
      rfl
    | none =>
      refine (ih (t.id :: merged) (p.mergeTransaction moment block t)).trans ?_
      rw [List.countP_cons_of_neg (by simp)]
      rfl

/-- A flaw of an event is counted. -/
theorem skippedRecords_mergeEvents (moment : Moment) (block : Block) (merged : List String)
    (events : List Event) (p : Progress) :
    (p.mergeEvents moment block merged events).report.skippedRecords =
      p.report.skippedRecords + (p.eventFlaws moment block merged events).countP (·.isSome) := by
  induction events generalizing p with
  | nil => rfl
  | cons e rest ih =>
    rw [mergeEvents, eventFlaws, mergeEvents]
    cases p.eventFlaw? merged e with
    | some flaw =>
      refine (ih (p.skip flaw)).trans ?_
      rw [List.countP_cons_of_pos rfl, Nat.add_comm _ 1, ← Nat.add_assoc]
      rfl
    | none =>
      refine (ih (p.mergeEvent moment block e)).trans ?_
      rw [List.countP_cons_of_neg (by simp)]
      rfl

/-- **As many records of a block are skipped as have a flaw.** -/
theorem skippedRecords_mergeBlock (moment : Moment) (fetched : FetchedBlock) (p : Progress) :
    (p.mergeBlock moment fetched).report.skippedRecords =
      p.report.skippedRecords + (p.flaws moment fetched).countP (·.isSome) := by
  rw [flaws, List.countP_append, ← Nat.add_assoc,
    ← skippedRecords_mergeTransactions moment fetched.block []]
  exact skippedRecords_mergeEvents moment fetched.block _ _ _

/-! ### Verdicts -/

/-- The flaw of a transaction is the verdict of a store with the same blocks. -/
theorem transactionFlaw?_eq_verdict (fetched : FetchedBlock) {store : Store}
    (h : p.store.blocks = store.blocks) (t : Transaction) :
    p.transactionFlaw? fetched.block t = fetched.transactionVerdict store t := by
  rw [FetchedBlock.transactionVerdict]
  by_cases haccepts : store.acceptsTransaction fetched.block t = true
  · rw [if_pos haccepts]
    exact (acceptsTransaction_iff h).mp haccepts
  · rw [if_neg haccepts]
    rw [acceptsTransaction_iff h] at haccepts
    unfold transactionFlaw? at haccepts ⊢
    split_ifs at haccepts ⊢ <;> trivial

theorem transactionFlaws_eq (moment : Moment) (fetched : FetchedBlock) {store : Store}
    (transactions : List Transaction) (h : p.store.blocks = store.blocks) :
    p.transactionFlaws moment fetched.block transactions =
      transactions.map (fetched.transactionVerdict store) := by
  induction transactions generalizing p with
  | nil => rfl
  | cons t rest ih =>
    rw [transactionFlaws, List.map_cons, transactionFlaw?_eq_verdict fetched h]
    refine congrArg _ (ih ?_)
    -- no transaction changes which blocks are known
    rw [mergeTransactions]
    split <;> exact h

/-- The flaw of an event is the verdict of the store that the block found. -/
theorem eventFlaw?_eq_verdict (moment : Moment) (h : p.store.transactions.Coherent)
    (fetched : FetchedBlock)
    (hq : q.store.transactions = (p.mergeAcceptedTransactions moment fetched).store.transactions)
    (e : Event) :
    q.eventFlaw? ((fetched.acceptedTransactions p.store).map (·.id)).reverse e =
      fetched.eventVerdict p.store e := by
  rw [FetchedBlock.eventVerdict]
  by_cases haccepts : fetched.acceptsEvent p.store e = true
  · rw [if_pos haccepts]
    exact (acceptsEvent_iff moment h fetched hq e).mp haccepts
  · rw [if_neg haccepts]
    rw [acceptsEvent_iff moment h fetched hq e] at haccepts
    unfold eventFlaw? at haccepts ⊢
    split_ifs at haccepts ⊢ <;> trivial

theorem eventFlaws_eq (moment : Moment) (h : p.store.transactions.Coherent)
    (fetched : FetchedBlock) (events : List Event)
    (hq : q.store.transactions = (p.mergeAcceptedTransactions moment fetched).store.transactions) :
    q.eventFlaws moment fetched.block ((fetched.acceptedTransactions p.store).map (·.id)).reverse
        events =
      events.map (fetched.eventVerdict p.store) := by
  induction events generalizing q with
  | nil => rfl
  | cons e rest ih =>
    rw [eventFlaws, List.map_cons, eventFlaw?_eq_verdict moment h fetched hq]
    refine congrArg _ (ih ?_)
    -- no event changes which transactions are known
    rw [mergeEvents]
    split <;> exact hq

/-- **The flaws of a block's records are decided by the store that the block finds.** -/
theorem flaws_eq (moment : Moment) (h : p.store.transactions.Coherent) (fetched : FetchedBlock) :
    p.flaws moment fetched =
      fetched.contents.transactions.map (fetched.transactionVerdict p.store) ++
        (eventOrder fetched.contents.events).map (fetched.eventVerdict p.store) := by
  obtain ⟨report, htransactions⟩ :=
    mergeTransactions_eq moment fetched.block [] fetched.contents.transactions p rfl
  rw [flaws, transactionFlaws_eq moment fetched fetched.contents.transactions rfl, htransactions]
  simp only [List.append_nil]
  exact congrArg _ (eventFlaws_eq moment h fetched _ rfl)

end Ingest.Progress

end ChainFeed
