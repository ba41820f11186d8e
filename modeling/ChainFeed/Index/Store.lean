import ChainFeed.Index.Slice
import ChainFeed.Resource.Account
import ChainFeed.Resource.Block
import ChainFeed.Resource.Contract
import ChainFeed.Resource.Event
import ChainFeed.Resource.Transaction

/-!
# The store

One index for each kind of resource. Everything that happens to a store is a sequence of **writes**,
each of which concerns one resource of one index, so what a reader can see in between is the store
after a first part of the sequence.
-/

namespace ChainFeed

/-- One index for each kind of resource. -/
structure Store where
  /-- The accounts. -/
  accounts : Index Account
  /-- The blocks. -/
  blocks : Index Block
  /-- The transactions. -/
  transactions : Index Transaction
  /-- The events. -/
  events : Index Event
  /-- The contracts. -/
  contracts : Index Contract
  /-- The items of the accounts' storage. -/
  storage : Index StorageItem

/-- A single write to a store. -/
inductive Write where
  /-- Adds or merges an account. -/
  | account (account : Account)
  /-- Adds or merges a block. -/
  | block (block : Block)
  /-- Adds or merges a transaction. -/
  | transaction (transaction : Transaction)
  /-- Changes a transaction's status. -/
  | status (id : String) (status : TransactionStatus)
  /-- Adds or merges an event. -/
  | event (event : Event)
  /-- Adds or merges a contract. -/
  | contract (contract : Contract)
  /-- Adds or merges a storage item. -/
  | item (item : StorageItem)
  /-- Removes a storage item. -/
  | noItem (id : String)

namespace Store

/-- A store that holds nothing and has stamped nothing. -/
def empty : Store :=
  ⟨Index.empty, Index.empty, Index.empty, Index.empty, Index.empty, Index.empty⟩

/-- The store without its resources. -/
def clear (store : Store) : Store where
  accounts := store.accounts.clear
  blocks := store.blocks.clear
  transactions := store.transactions.clear
  events := store.events.clear
  contracts := store.contracts.clear
  storage := store.storage.clear

/-- The store after a write while the wall clock shows `now`. -/
def write (now : Nat) (store : Store) : Write → Store
  | .account account => { store with accounts := (store.accounts.merge now account).2 }
  | .block block => { store with blocks := (store.blocks.merge now block).2 }
  | .transaction transaction =>
    { store with transactions := (store.transactions.merge now transaction).2 }
  | .status id status =>
    { store with
      transactions :=
        (store.transactions.update now id ({ status := some status } : TransactionPatch)).2 }
  | .event event => { store with events := (store.events.merge now event).2 }
  | .contract contract => { store with contracts := (store.contracts.merge now contract).2 }
  | .item item => { store with storage := (store.storage.merge now item).2 }
  | .noItem id => { store with storage := (store.storage.delete id).2 }

end Store

end ChainFeed
