import ChainFeed.Ingest.Accounts
import ChainFeed.Ingest.Blocks
import ChainFeed.Ingest.Statuses
import ChainFeed.Ingest.Storage

/-!
# Followers

A **follower** keeps a store in step with the chain behind a gateway. Each tick goes through all
four stages whatever fails in them, and what fails is tried again on the next tick. A reset forgets
everything but the stamps that were given out, so the next tick starts over.
-/

namespace ChainFeed

open Ingest

/-- A follower of a chain. -/
structure Follower where
  /-- The store that the follower keeps. -/
  store : Store
  /-- What the follower remembers. -/
  state : Ingest.State

namespace Follower

variable {σ : Type}

/-- A follower that has seen nothing of its chain. -/
def initial : Follower := ⟨Store.empty, Ingest.State.initial⟩

/-- The greatest height whose block is merged. -/
def watermark (follower : Follower) : Option Nat := follower.state.watermark

/-- The follower without anything that it merged or remembers. -/
def reset (follower : Follower) : Follower := ⟨follower.store.clear, Ingest.State.initial⟩

/-- How a tick goes through its stages. -/
def run (gateway : Gateway σ) (settings : Settings) (moment : Moment) (chain : σ)
    (follower : Follower) : Progress × σ :=
  let progress := Progress.start follower.store follower.state
  let (progress, chain) := ingestBlocks gateway settings moment chain progress
  let (progress, chain) := indexAccounts gateway settings moment chain progress
  let (progress, chain) := refreshStatuses gateway moment chain progress
  resyncStorage gateway settings moment chain progress

/-- The report of a tick, the follower after it and the state of the gateway. -/
def tick (gateway : Gateway σ) (settings : Settings) (moment : Moment) (chain : σ)
    (follower : Follower) : Report × Follower × σ :=
  let (progress, chain) := follower.run gateway settings moment chain
  ({ progress.report with watermark := progress.state.watermark },
    ⟨progress.store, progress.state⟩, chain)

end Follower

end ChainFeed
