import ChainFeed.Proofs.Index.Content
import ChainFeed.Proofs.Ingest.Merging

/-!
# The ledger of a store

The **ledger** of a store is its blocks, transactions and events. Two stores have the same ledger
(`Store.SameLedger`) if these three indexes have the same content.

Whether a record of a block is merged, and with which status, depends on the ledger and not on
stamps. So merging the same blocks one by one keeps two ledgers the same, whenever that happens
(`mergeEach_sameLedger`).
-/

namespace ChainFeed

open Resource

/-- The kinds of the resources in a ledger. -/
def Kind.ledger : List Kind := [.block, .transaction, .event]

/-- The stores hold the same blocks, transactions and events, stamps aside. -/
structure Store.SameLedger (a b : Store) : Prop where
  /-- The blocks are the same. -/
  blocks : a.blocks.SameContent b.blocks
  /-- The transactions are the same. -/
  transactions : a.transactions.SameContent b.transactions
  /-- The events are the same. -/
  events : a.events.SameContent b.events

namespace Store.SameLedger

variable {a b c : Store}

theorem symm (h : a.SameLedger b) : b.SameLedger a :=
  ⟨h.blocks.symm, h.transactions.symm, h.events.symm⟩

theorem trans (hab : a.SameLedger b) (hbc : b.SameLedger c) : a.SameLedger c :=
  ⟨hab.blocks.trans hbc.blocks, hab.transactions.trans hbc.transactions,
    hab.events.trans hbc.events⟩

/-- Stores with the same blocks, transactions and events have the same ledger. -/
theorem of_index_eq (h : ∀ kind ∈ Kind.ledger, a.index kind = b.index kind) : a.SameLedger b where
  blocks := .of_eq (h .block (by decide))
  transactions := .of_eq (h .transaction (by decide))
  events := .of_eq (h .event (by decide))

/-- Two stores that hold nothing have the same ledger. -/
theorem clear (a b : Store) : a.clear.SameLedger b.clear :=
  ⟨.clear _ _, .clear _ _, .clear _ _⟩

end Store.SameLedger

namespace Ingest

namespace Progress

variable {moment later : Moment} {p q : Progress}

/-! ### Transactions -/

theorem transactionFlaw?_eq (h : p.store.SameLedger q.store) (block : Block)
    (transaction : Transaction) :
    p.transactionFlaw? block transaction = q.transactionFlaw? block transaction := by
  rw [transactionFlaw?, transactionFlaw?, h.blocks.contains_eq]

/-- A transaction is merged with the same status. -/
theorem settled_eq (h : p.store.SameLedger q.store) (transaction : Transaction) :
    p.settled transaction = q.settled transaction := by
  unfold settled
  rcases h.transactions.get?_cases transaction.id with ⟨hp, hq⟩ | ⟨r, s, hp, hq, heq⟩
  · rw [hp, hq]
  · have hstatus : (unstamped r).status = (unstamped s).status := by rw [heq]
    replace hstatus : r.status = s.status := hstatus
    rw [hp, hq]
    dsimp only
    rw [hstatus]

theorem mergeTransaction_sameLedger (h : p.store.SameLedger q.store) (block : Block)
    (transaction : Transaction) :
    (p.mergeTransaction moment block transaction).store.SameLedger
      (q.mergeTransaction later block transaction).store := by
  refine ⟨h.blocks, ?_, h.events⟩
  unfold mergeTransaction
  rw [settled_eq h]
  exact h.transactions.merge _ _ _

/-- The same transactions of a block are merged, and the ledgers stay the same. -/
theorem mergeTransactions_sameLedger (h : p.store.SameLedger q.store) (block : Block)
    (merged : List String) (transactions : List Transaction) :
    (p.mergeTransactions moment block merged transactions).1 =
        (q.mergeTransactions later block merged transactions).1 ∧
      (p.mergeTransactions moment block merged transactions).2.store.SameLedger
        (q.mergeTransactions later block merged transactions).2.store := by
  induction transactions generalizing merged p q with
  | nil => exact ⟨rfl, h⟩
  | cons transaction rest ih =>
    rw [mergeTransactions, mergeTransactions, transactionFlaw?_eq h]
    cases q.transactionFlaw? block transaction with
    | some flaw => exact ih (p := p.skip flaw) (q := q.skip flaw) h _
    | none => exact ih (mergeTransaction_sameLedger h block transaction) _

/-! ### Events -/

theorem eventFlaw?_eq (h : p.store.SameLedger q.store) (merged : List String) (event : Event) :
    p.eventFlaw? merged event = q.eventFlaw? merged event := by
  rw [eventFlaw?, eventFlaw?, h.transactions.contains_eq]

theorem mergeEvent_sameLedger (h : p.store.SameLedger q.store) (block : Block) (event : Event) :
    (p.mergeEvent moment block event).store.SameLedger
      (q.mergeEvent later block event).store :=
  ⟨h.blocks, h.transactions, h.events.merge _ _ _⟩

/-- The same events of a block are merged, and the ledgers stay the same. -/
theorem mergeEvents_sameLedger (h : p.store.SameLedger q.store) (block : Block)
    (merged : List String) (events : List Event) :
    (p.mergeEvents moment block merged events).store.SameLedger
      (q.mergeEvents later block merged events).store := by
  induction events generalizing p q with
  | nil => exact h
  | cons event rest ih =>
    rw [mergeEvents, mergeEvents, eventFlaw?_eq h]
    cases q.eventFlaw? merged event with
    | some flaw => exact ih (p := p.skip flaw) (q := q.skip flaw) h
    | none => exact ih (mergeEvent_sameLedger h block event)

/-! ### Blocks -/

theorem mergeContents_sameLedger (h : p.store.SameLedger q.store) (fetched : FetchedBlock) :
    (p.mergeContents moment fetched).store.SameLedger (q.mergeContents later fetched).store := by
  obtain ⟨hids, htransactions⟩ :=
    mergeTransactions_sameLedger h fetched.block [] fetched.contents.transactions
  unfold mergeContents
  dsimp only
  rw [hids]
  exact mergeEvents_sameLedger htransactions _ _ _

theorem mergeBlock_sameLedger (h : p.store.SameLedger q.store) (fetched : FetchedBlock) :
    (p.mergeBlock moment fetched).store.SameLedger (q.mergeBlock later fetched).store := by
  have hcontents : (p.mergeContents moment fetched).store.SameLedger
    (q.mergeContents later fetched).store := mergeContents_sameLedger h fetched
  exact ⟨hcontents.blocks.merge _ _ _, hcontents.transactions, hcontents.events⟩

/-- **Merging the same blocks one by one keeps the ledgers the same.** -/
theorem mergeEach_sameLedger (h : p.store.SameLedger q.store)
    (blocks : List (Nat × FetchedBlock)) :
    (p.mergeEach moment blocks).store.SameLedger (q.mergeEach later blocks).store := by
  induction blocks generalizing p q with
  | nil => exact h
  | cons m blocks ih => exact ih (mergeBlock_sameLedger h m.2)

end Progress

end Ingest

end ChainFeed
