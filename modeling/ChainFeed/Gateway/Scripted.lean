import Std.Data.TreeMap
import Std.Data.TreeSet
import ChainFeed.Gateway.Basic

/-!
# A chain in memory

A **scripted chain** is a gateway whose answers, and whose failures, are laid down beforehand:
blocks with what they carry, accounts with their contracts and storage, the status of each
transaction, and which calls fail as if the chain were unavailable.
-/

namespace ChainFeed

/-- A chain in memory. -/
structure ScriptedChain where
  /-- The blocks by height. -/
  blocks : Std.TreeMap Nat Block
  /-- The transactions of each block, by the block's id. -/
  transactions : Std.TreeMap String (List Transaction)
  /-- The events of each block, by the block's id. -/
  events : Std.TreeMap String (List Event)
  /-- The status of each transaction. -/
  statuses : Std.TreeMap String TransactionStatus
  /-- The accounts by address. -/
  accounts : Std.TreeMap String Account
  /-- The contracts of each account. -/
  contracts : Std.TreeMap String (List Contract)
  /-- The storage of each account. -/
  storage : Std.TreeMap String (List StorageItem)
  /-- How many calls for a block's transactions are still going to fail. -/
  blockFailures : Std.TreeMap String Nat
  /-- The accounts for which calls fail. -/
  failingAccounts : Std.TreeSet String
  /-- The accounts for whose storage calls fail. -/
  failingStorage : Std.TreeSet String
  /-- How many calls for an account's storage there were. -/
  storageRequests : Nat

namespace ScriptedChain

/-- A chain without blocks. -/
def empty : ScriptedChain := ⟨∅, ∅, ∅, ∅, ∅, ∅, ∅, ∅, ∅, ∅, 0⟩

/-! ### Laying down answers -/

/-- The chain with the statuses of the transactions. -/
def withStatuses (transactions : List Transaction) (chain : ScriptedChain) : ScriptedChain :=
  { chain with
    statuses :=
      transactions.foldl (fun statuses t => statuses.insert t.id t.status) chain.statuses }

/-- The chain with a block and what it carries. -/
def push (block : Block) (contents : BlockContents) (chain : ScriptedChain) : ScriptedChain :=
  { chain.withStatuses contents.transactions with
    transactions := chain.transactions.insert block.id contents.transactions
    events := chain.events.insert block.id contents.events
    blocks := chain.blocks.insert block.height block }

/-- The chain with another status of a transaction. -/
def setStatus (transactionId : String) (status : TransactionStatus) (chain : ScriptedChain) :
    ScriptedChain :=
  { chain with statuses := chain.statuses.insert transactionId status }

/-- The chain with an account and its contracts. -/
def setAccount (account : Account) (contracts : List Contract) (chain : ScriptedChain) :
    ScriptedChain :=
  { chain with
    accounts := chain.accounts.insert account.address account
    contracts := chain.contracts.insert account.address contracts }

/-- The chain with another storage of an account. -/
def setStorage (address : String) (items : List StorageItem) (chain : ScriptedChain) :
    ScriptedChain :=
  { chain with storage := chain.storage.insert address items }

/-- The chain whose next calls for the transactions of the block at a height fail; nothing changes
if there is no such block. -/
def failBlock (height times : Nat) (chain : ScriptedChain) : ScriptedChain :=
  match chain.blocks[height]? with
  | some block => { chain with blockFailures := chain.blockFailures.insert block.id times }
  | none => chain

/-- The chain where calls for an account fail. -/
def failAccount (address : String) (chain : ScriptedChain) : ScriptedChain :=
  { chain with failingAccounts := chain.failingAccounts.insert address }

/-- The chain where calls for an account do not fail any more. -/
def recoverAccount (address : String) (chain : ScriptedChain) : ScriptedChain :=
  { chain with failingAccounts := chain.failingAccounts.erase address }

/-- The chain where calls for the storage of an account fail. -/
def failStorage (address : String) (chain : ScriptedChain) : ScriptedChain :=
  { chain with failingStorage := chain.failingStorage.insert address }

/-- The chain where calls for the storage of an account do not fail any more. -/
def recoverStorage (address : String) (chain : ScriptedChain) : ScriptedChain :=
  { chain with failingStorage := chain.failingStorage.erase address }

/-! ### Answering -/

/-- The error of a call that is laid down to fail. -/
def unavailable : GatewayError := .unexpectedStatus 503 "mock gateway unavailable"

/-- The answer, or the error that there is none. -/
def found {α : Type} (what : String) : Option α → Except GatewayError α
  | some answer => .ok answer
  | none => .error (.notFound what)

/-- A transaction with the status that the chain holds for it. -/
def current (chain : ScriptedChain) (transaction : Transaction) : Transaction :=
  { transaction with status := (chain.statuses[transaction.id]?).getD transaction.status }

/-- The answer to a call for a block's transactions. -/
def askTransactions (blockId : String) (chain : ScriptedChain) :
    Except GatewayError (List Transaction) × ScriptedChain :=
  match chain.blockFailures[blockId]? with
  | some (times + 1) =>
    (.error unavailable, { chain with blockFailures := chain.blockFailures.insert blockId times })
  | _ =>
    (found ("block " ++ blockId)
      ((chain.transactions[blockId]?).map fun ts => ts.map chain.current), chain)

/-- The answer to a call for a block's events. -/
def events? (blockId : String) (chain : ScriptedChain) : Except GatewayError (List Event) :=
  found ("block " ++ blockId) chain.events[blockId]?

/-- The answer to a call for what a block carries: its transactions, then its events. -/
def askContents (blockId : String) (chain : ScriptedChain) :
    Except GatewayError BlockContents × ScriptedChain :=
  match chain.askTransactions blockId with
  | (.error e, chain) => (.error e, chain)
  | (.ok transactions, chain) =>
    ((chain.events? blockId).map fun events => ⟨transactions, events⟩, chain)

/-- The answer about an account, unless calls for it fail. -/
def ofAccount {α : Type} (address : String) (answer : Option α) (chain : ScriptedChain) :
    Except GatewayError α :=
  if chain.failingAccounts.contains address then .error unavailable
  else found ("account " ++ address) answer

/-- The answer to a call for an account's storage, which is empty unless laid down otherwise. -/
def askStorage (address : String) (chain : ScriptedChain) :
    Except GatewayError (List StorageItem) × ScriptedChain :=
  (if chain.failingStorage.contains address then .error unavailable
    else .ok ((chain.storage[address]?).getD []),
    { chain with storageRequests := chain.storageRequests + 1 })

/-- The gateway that answers from a chain in memory. -/
def gateway : Gateway ScriptedChain where
  ask
    | .latestHeight, chain => (found "sealed block" chain.blocks.maxKey?, chain)
    | .block height, chain =>
      (found ("block at height " ++ toString height) chain.blocks[height]?, chain)
    | .transactions blockId, chain => chain.askTransactions blockId
    | .events blockId, chain => (chain.events? blockId, chain)
    | .contents blockId, chain => chain.askContents blockId
    | .status id, chain => (found ("transaction " ++ id) chain.statuses[id]?, chain)
    | .account address, chain => (chain.ofAccount address chain.accounts[address]?, chain)
    | .contracts address, chain => (chain.ofAccount address chain.contracts[address]?, chain)
    | .storage address, chain => chain.askStorage address

end ScriptedChain

end ChainFeed
