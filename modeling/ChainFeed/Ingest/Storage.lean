import ChainFeed.Gateway.Basic
import ChainFeed.Ingest.Progress

/-!
# Listing the storage of accounts

The last stage of a tick lists the storage of every stored account if the previous listings do not
hold any more, and otherwise that of the accounts whose listing failed before. Each listing is
reconciled with the stored items of its account; an account whose listing fails keeps its items.
-/

namespace ChainFeed.Ingest

/-- Whether the listings of all accounts' storage are to be made again. -/
def State.resyncDue (settings : Settings) (time : Span) (state : State) : Bool :=
  match state.lastResync with
  | none => true
  | some last => settings.storageResyncInterval.nanoseconds ≤ time.nanoseconds - last.nanoseconds

namespace Progress

/-- The writes that make the stored items of an account equal to a listing. -/
def reconcileWrites (moment : Moment) (address : String) (listing : List StorageItem)
    (progress : Progress) : List Write :=
  let wall (n : Nat) : Nat := moment.wall (progress.journal.size + n)
  let listed := Index.listedFor address listing
  let merged := (Index.mergeAll wall progress.store.storage listed).2
  listed.map .item ++ (Index.staleFor address listing merged).map .noItem

/-- Makes the stored items of an account equal to a listing, and counts what changes. -/
def reconcile (moment : Moment) (address : String) (listing : List StorageItem)
    (progress : Progress) : SliceChange × Progress :=
  let address := Address.canonical address
  let wall (n : Nat) : Nat := moment.wall (progress.journal.size + n)
  let (change, storage) := progress.store.storage.reconcile wall address listing
  (change, { progress with
    store := { progress.store with storage }
    journal := progress.journal ++ progress.reconcileWrites moment address listing })

/-- Takes the listing of an account's storage, behind others that changed `total`. -/
def takeListing (moment : Moment) (address : String) (total : SliceChange) (progress : Progress) :
    Except GatewayError (List StorageItem) → SliceChange × Progress
  | .ok listing =>
    let (change, progress) := progress.reconcile moment address listing
    (total.plus change, progress)
  | .error e =>
    (total, (progress.fail .storage address (.gateway e)).remember fun state =>
      { state with failedStorage := state.failedStorage.insert address })

/-- Takes listings in order, behind others that changed `total`. -/
def takeListings (moment : Moment) :
    List (String × Except GatewayError (List StorageItem)) → SliceChange → Progress →
      SliceChange × Progress
  | [], total, progress => (total, progress)
  | (address, listing) :: rest, total, progress =>
    let (total, progress) := progress.takeListing moment address total listing
    takeListings moment rest total progress

end Progress

variable {σ : Type}

/-- Lists the storage of accounts in order. -/
def listStorage (gateway : Gateway σ) (moment : Moment) (addresses : List String) (chain : σ)
    (progress : Progress) : Progress × σ :=
  let (listings, chain) := askEach (fun address => gateway.ask (.storage address)) addresses chain
  let (total, progress) := progress.takeListings moment listings SliceChange.zero
  ({ progress with report := { progress.report with storage := some total } }, chain)

/-- The stage that lists the storage of accounts. -/
def resyncStorage (gateway : Gateway σ) (settings : Settings) (moment : Moment) (chain : σ)
    (progress : Progress) : Progress × σ :=
  let failed := progress.state.failedStorage
  if progress.state.resyncDue settings moment.time then
    listStorage gateway moment (progress.store.accounts.toList.map (·.address)) chain
      (progress.remember fun state =>
        { state with lastResync := some moment.time, failedStorage := ∅ })
  else if failed.isEmpty then (progress, chain)
  else
    listStorage gateway moment failed.toList chain
      (progress.remember fun state => { state with failedStorage := ∅ })

end ChainFeed.Ingest
