import Std.Data.TreeMap
import Std.Data.TreeSet
import ChainFeed.Time.Span

/-!
# What a follower remembers

A follower brings a store up to date with a chain in **ticks**. From one tick to the next it
remembers its **watermark**, which is the greatest height whose block is merged, the accounts that
wait for a lookup, and the accounts whose storage could not be listed.
-/

namespace ChainFeed.Ingest

/-- How a follower goes about its ticks. -/
structure Settings where
  /-- The first height to merge; the latest height of the chain if none is given. -/
  startHeight : Option Nat
  /-- How many heights a tick may merge; a tick goes for one height in any case. -/
  maxBlocksPerTick : Nat
  /-- How many calls may be under way at once, at least one. Ticks do not depend on it, because they
  take answers in the order of the calls, whenever the answers come (`askEach`). -/
  maxConcurrentRequests : Nat
  /-- How long the listings of all accounts' storage hold. -/
  storageResyncInterval : Span
  /-- The addresses of the accounts that are followed by default. -/
  trackedAddresses : List String
  deriving Repr

/-- An account that waits for a lookup. -/
structure Pending where
  /-- The id of the block that the account was last seen in, empty if it was seen in none. -/
  blockId : String
  /-- How often the account was looked up in vain. -/
  notFound : Nat
  deriving DecidableEq, Repr

namespace Pending

/-- How many lookups of an account that the chain does not know are made before it is dropped. -/
def lookupLimit : Nat := 5

/-- An account that no block mentioned. -/
def unseen : Pending := ⟨"", 0⟩

/-- An account that a block mentioned. -/
def seenIn (blockId : String) : Pending := ⟨blockId, 0⟩

/-- The account after one more lookup in vain, unless that was the last one. -/
def afterMiss (pending : Pending) : Option Pending :=
  if pending.notFound + 1 < lookupLimit then
    some { pending with notFound := pending.notFound + 1 }
  else none

end Pending

/-- What a follower remembers between ticks. -/
structure State where
  /-- The greatest height whose block is merged. -/
  watermark : Option Nat
  /-- The first height to merge, fixed by the first tick that learns the chain's latest height. -/
  firstHeight : Option Nat
  /-- The accounts that wait for a lookup, by address. -/
  pending : Std.TreeMap String Pending
  /-- When the storage of all accounts was last listed. -/
  lastResync : Option Span
  /-- The accounts whose storage could not be listed. -/
  failedStorage : Std.TreeSet String

namespace State

/-- What a follower remembers in the beginning: nothing. -/
def initial : State := ⟨none, none, ∅, none, ∅⟩

/-- Queues an account that a block mentioned, in place of what was queued for it. An empty address
names no account. -/
def queue (address blockId : String) (state : State) : State :=
  if address = "" then state
  else { state with pending := state.pending.insert address (Pending.seenIn blockId) }

/-- Queues every account of a list that a block mentioned. -/
def queueAll (addresses : List String) (blockId : String) (state : State) : State :=
  addresses.foldl (fun state address => state.queue address blockId) state

/-- Queues an account that no block mentioned, unless it is queued already. -/
def queueUnseen (address : String) (state : State) : State :=
  if state.pending.contains address then state
  else { state with pending := state.pending.insert address Pending.unseen }

end State

end ChainFeed.Ingest
