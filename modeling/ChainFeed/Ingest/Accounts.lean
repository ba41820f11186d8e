import ChainFeed.Gateway.Basic
import ChainFeed.Ingest.Progress

/-!
# Looking up accounts

The second stage of a tick looks up every account that waits for it, and every account followed by
default that is not stored. An account waits on after a failure, and after a lookup in vain unless
it was the last one.
-/

namespace ChainFeed.Ingest

/-- What a lookup of an account finds. -/
structure FetchedAccount where
  /-- The account. -/
  account : Account
  /-- The contracts that the account holds. -/
  contracts : List Contract
  deriving Repr

/-- The memory with every account queued that is followed by default and not stored. -/
def State.queueTracked (settings : Settings) (store : Store) (state : State) : State :=
  (settings.trackedAddresses.filter fun address => !store.accounts.contains address).foldl
    (fun state address => state.queueUnseen address) state

namespace Progress

/-- The id of the block that a looked-up account was last seen in: the one that queued it, or else
the one that is stored with the account. -/
def lastSeenIn (pending : Pending) (account : Account) (progress : Progress) : String :=
  if pending.blockId = "" then
    ((progress.store.accounts.get? account.id).map (·.blockId)).getD ""
  else pending.blockId

/-- Merges contracts in order. -/
def mergeContracts (moment : Moment) (contracts : List Contract) (progress : Progress) : Progress :=
  contracts.foldl (fun progress contract => progress.write moment (.contract contract)) progress

/-- Merges an account and the contracts that it holds. -/
def mergeAccount (settings : Settings) (moment : Moment) (pending : Pending)
    (fetched : FetchedAccount) (progress : Progress) : Progress :=
  let blockId := progress.lastSeenIn pending fetched.account
  let account := { fetched.account with
    isDefaultAccount := settings.trackedAddresses.contains fetched.account.address
    blockId }
  (progress.write moment (.account account)).mergeContracts moment
    (fetched.contracts.map fun contract => { contract with blockId })

/-- The progress with an account that waits on. -/
def keepWaiting (address : String) (pending : Pending) (progress : Progress) : Progress :=
  progress.remember fun state => { state with pending := state.pending.insert address pending }

/-- Takes the outcome of the lookup of an account. -/
def takeLookup (settings : Settings) (moment : Moment) (address : String) (pending : Pending)
    (progress : Progress) : Except GatewayError FetchedAccount → Progress
  | .ok fetched =>
    let progress := progress.mergeAccount settings moment pending fetched
    { progress with
      report := { progress.report with accountsIndexed := progress.report.accountsIndexed + 1 } }
  | .error e =>
    if e.isNotFound then
      match pending.afterMiss with
      | some pending => progress.keepWaiting address pending
      | none => progress
    else (progress.fail .accounts address (.gateway e)).keepWaiting address pending

/-- Takes the outcomes of lookups in order. -/
def takeLookups (settings : Settings) (moment : Moment)
    (lookups : List ((String × Pending) × Except GatewayError FetchedAccount))
    (progress : Progress) : Progress :=
  lookups.foldl (fun progress lookup =>
    progress.takeLookup settings moment lookup.1.1 lookup.1.2 lookup.2) progress

end Progress

variable {σ : Type}

/-- The account with an address and its contracts; if there is no account, the contracts are not
asked for.

A follower that makes both calls at once fails with the error that comes first, and the gateway may
have seen the call for the contracts then. That is the lookup of another gateway here, one that
answers the call for the account with that error and goes into the state that both calls lead to.
What is said of all gateways is said of it, too. -/
def fetchAccount (gateway : Gateway σ) (address : String) (chain : σ) :
    Except GatewayError FetchedAccount × σ :=
  match gateway.ask (.account address) chain with
  | (.error e, chain) => (.error e, chain)
  | (.ok account, chain) =>
    let (contracts, chain) := gateway.ask (.contracts address) chain
    (contracts.map (FetchedAccount.mk account), chain)

/-- The stage that looks up accounts. -/
def indexAccounts (gateway : Gateway σ) (settings : Settings) (moment : Moment) (chain : σ)
    (progress : Progress) : Progress × σ :=
  let state := progress.state.queueTracked settings progress.store
  let (lookups, chain) := askEach (fun waiting => fetchAccount gateway waiting.1)
    state.pending.toList chain
  let progress := { progress with state := { state with pending := ∅ } }
  (progress.takeLookups settings moment lookups, chain)

end ChainFeed.Ingest
