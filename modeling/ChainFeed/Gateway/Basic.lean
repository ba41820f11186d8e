import ChainFeed.Gateway.Error
import ChainFeed.Resource.Account
import ChainFeed.Resource.Block
import ChainFeed.Resource.Contract
import ChainFeed.Resource.Event
import ChainFeed.Resource.Transaction

/-!
# Gateways

A **gateway** answers **calls** about the chain. Each call has its own type of answers, and any call
may end in an error instead. What a gateway answers may depend on what it was asked before, so
asking takes the gateway's state and returns the next one.
-/

namespace ChainFeed

/-- What a block carries. -/
structure BlockContents where
  /-- The transactions of the block. -/
  transactions : List Transaction
  /-- The events of the block's transactions. -/
  events : List Event
  deriving Repr

/-- A question about the chain. -/
inductive Call where
  /-- Which height has the latest sealed block? -/
  | latestHeight
  /-- Which block is at the height? -/
  | block (height : Nat)
  /-- Which transactions are in the block? -/
  | transactions (blockId : String)
  /-- Which events are in the block? -/
  | events (blockId : String)
  /-- What does the block carry? -/
  | contents (blockId : String)
  /-- How far is the execution of the transaction? -/
  | status (transactionId : String)
  /-- What is known about the account? -/
  | account (address : String)
  /-- Which contracts does the account hold? -/
  | contracts (address : String)
  /-- What does the account store? -/
  | storage (address : String)
  deriving DecidableEq, Repr

/-- The type of a call's answers. -/
abbrev Call.Answer : Call → Type
  | latestHeight => Nat
  | block _ => Block
  | transactions _ => List Transaction
  | events _ => List Event
  | contents _ => BlockContents
  | status _ => TransactionStatus
  | account _ => Account
  | contracts _ => List Contract
  | storage _ => List StorageItem

/-- A gateway with states in `σ`. -/
structure Gateway (σ : Type) where
  /-- The answer to a call, and the state that the gateway is in afterwards. -/
  ask : (call : Call) → σ → Except GatewayError call.Answer × σ

/-- The answers to one question about each item, asked in order.

Several calls may be under way at once, and a gateway may get to them in another order. The answers
are put into the order of the items in any case, and some gateway gives the same ones if it is asked
about one item after the other. So what is said of all gateways does not depend on how many calls
are under way. -/
def askEach {α β σ : Type} (ask : α → σ → β × σ) : List α → σ → List (α × β) × σ
  | [], chain => ([], chain)
  | item :: rest, chain =>
    let (answer, chain) := ask item chain
    let (answers, chain) := askEach ask rest chain
    ((item, answer) :: answers, chain)

end ChainFeed
