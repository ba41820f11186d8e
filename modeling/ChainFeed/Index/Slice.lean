import ChainFeed.Address
import ChainFeed.Index.Basic
import ChainFeed.Resource.StorageItem

/-!
# The storage of one account

The items of one account are a **slice** of the storage index. Reconciling makes the slice equal to
a listing of the account's storage: listed items are merged, and stored items that are no longer
listed are removed. Listed items of other accounts are passed over.
-/

namespace ChainFeed

/-- How many items a reconciliation added, changed and removed. -/
structure SliceChange where
  /-- How many items were new. -/
  added : Nat
  /-- How many items brought new content. -/
  updated : Nat
  /-- How many items were no longer listed. -/
  removed : Nat
  deriving DecidableEq, Repr

namespace SliceChange

/-- No change. -/
def zero : SliceChange := ⟨0, 0, 0⟩

/-- The changes of two reconciliations together. -/
def plus (a b : SliceChange) : SliceChange :=
  ⟨a.added + b.added, a.updated + b.updated, a.removed + b.removed⟩

/-- The change with one more merged item. -/
def count (change : SliceChange) : MergeOutcome → SliceChange
  | .added => { change with added := change.added + 1 }
  | .updated => { change with updated := change.updated + 1 }
  | .unchanged => change

end SliceChange

namespace Index

/-- The items of a listing that belong to the account with a canonical address. -/
def listedFor (address : String) (listing : List StorageItem) : List StorageItem :=
  listing.filter (·.address == address)

/-- The ids of the account's stored items that a listing no longer holds. -/
def staleFor (address : String) (listing : List StorageItem) (index : Index StorageItem) :
    List String :=
  let listed := (listedFor address listing).map (·.id)
  (index.filter fun item => item.address == address && !listed.contains item.id).map (·.id)

/-- Merges items one after the other, the first while the wall clock shows `clock 0`. -/
def mergeAll (clock : Nat → Nat) (index : Index StorageItem) :
    List StorageItem → SliceChange × Index StorageItem
  | [] => (SliceChange.zero, index)
  | item :: rest =>
    let (outcome, index) := index.merge (clock 0) item
    let (change, index) := mergeAll (fun n => clock (n + 1)) index rest
    (change.count outcome, index)

/-- Removes the stored items with the ids and says how many there were. -/
def deleteAll (index : Index StorageItem) : List String → Nat × Index StorageItem
  | [] => (0, index)
  | id :: rest =>
    let (result, index) := index.delete id
    let (count, index) := deleteAll index rest
    (if result.isOk then count + 1 else count, index)

/-- Makes the slice of the account with a canonical address equal to a listing of its storage. The
wall clock shows `clock n` at the write number `n`. -/
def reconcile (clock : Nat → Nat) (address : String) (listing : List StorageItem)
    (index : Index StorageItem) : SliceChange × Index StorageItem :=
  let (change, index) := mergeAll clock index (listedFor address listing)
  let (removed, index) := deleteAll index (staleFor address listing index)
  ({ change with removed := removed }, index)

/-- Makes the slice of an account equal to a listing of its storage, whatever the spelling of the
account's address. -/
def reconcileAccount (clock : Nat → Nat) (address : String) (listing : List StorageItem)
    (index : Index StorageItem) : SliceChange × Index StorageItem :=
  index.reconcile clock (Address.canonical address) listing

end Index

end ChainFeed
