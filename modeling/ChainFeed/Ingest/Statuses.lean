import ChainFeed.Gateway.Basic
import ChainFeed.Ingest.Progress

/-!
# Following the execution of transactions

The third stage of a tick asks for the status of every stored transaction whose execution goes on. A
stored status changes only to one that advances over it.
-/

namespace ChainFeed.Ingest

namespace Progress

/-- Stores a status for a transaction. -/
def advance (moment : Moment) (id : String) (status : TransactionStatus) (progress : Progress) :
    Progress :=
  let outcome := progress.store.transactions.find id
  let progress := progress.write moment (.status id status)
  match outcome with
  | .ok _ =>
    { progress with
      report :=
        { progress.report with statusesRefreshed := progress.report.statusesRefreshed + 1 } }
  | .error e => progress.fail .statuses id (.index e)

/-- Takes what the gateway says about the status of a stored transaction. That it does not know the
transaction is no failure. -/
def takeStatus (moment : Moment) (stored : Transaction) (progress : Progress) :
    Except GatewayError TransactionStatus → Progress
  | .ok status =>
    if status.advancesOver stored.status then progress.advance moment stored.id status
    else progress
  | .error e =>
    if e.isNotFound then progress else progress.fail .statuses stored.id (.gateway e)

/-- Takes what the gateway says about stored transactions, in order. -/
def takeStatuses (moment : Moment)
    (answers : List (Transaction × Except GatewayError TransactionStatus)) (progress : Progress) :
    Progress :=
  answers.foldl (fun progress answer => progress.takeStatus moment answer.1 answer.2) progress

end Progress

/-- The stored transactions whose execution goes on, in order. -/
def unsettled (store : Store) : List Transaction :=
  store.transactions.filter fun transaction => !transaction.status.execution.isFinal

variable {σ : Type}

/-- The stage that asks for the status of transactions. -/
def refreshStatuses (gateway : Gateway σ) (moment : Moment) (chain : σ) (progress : Progress) :
    Progress × σ :=
  let (answers, chain) := askEach (fun transaction => gateway.ask (.status transaction.id))
    (unsettled progress.store) chain
  (progress.takeStatuses moment answers, chain)

end ChainFeed.Ingest
