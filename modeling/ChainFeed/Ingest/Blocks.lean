import ChainFeed.Gateway.Basic
import ChainFeed.Ingest.Progress

/-!
# Merging blocks

The first stage of a tick takes the heights behind the watermark in order, at most as many as the
settings allow and none beyond the chain's latest height. All blocks are fetched before the first
one is merged, and the first height that cannot be fetched ends the merging.

A block is merged behind its transactions and events, so a reader who sees a block also sees what it
carries. A record without an id, or one that belongs to nothing that is known, is skipped.
-/

namespace ChainFeed.Ingest

/-- A block with what it carries. -/
structure FetchedBlock where
  /-- The block. -/
  block : Block
  /-- What the block carries. -/
  contents : BlockContents
  deriving Repr

namespace Progress

/-! ### Records of a block -/

/-- What keeps a transaction from being merged with a block. -/
def transactionFlaw? (block : Block) (transaction : Transaction) (progress : Progress) :
    Option Flaw :=
  if transaction.id = "" then some .noId
  else if transaction.blockId = block.id then none
  else if progress.store.blocks.contains transaction.blockId then none
  else some (.unknownBlock transaction.blockId)

/-- What keeps an event from being merged with a block whose transactions with the ids `merged` are
merged already. -/
def eventFlaw? (merged : List String) (event : Event) (progress : Progress) : Option Flaw :=
  if event.id = "" then some .noId
  else if merged.contains event.transactionId then none
  else if progress.store.transactions.contains event.transactionId then none
  else some (.unknownTransaction event.transactionId)

/-- The transaction as it is merged: its status never falls behind the stored one. -/
def settled (transaction : Transaction) (progress : Progress) : Transaction :=
  match progress.store.transactions.get? transaction.id with
  | some stored =>
    if transaction.status.advancesOver stored.status then transaction
    else { transaction with status := stored.status }
  | none => transaction

/-- Merges a transaction with a block and queues the accounts that take part in it. -/
def mergeTransaction (moment : Moment) (block : Block) (transaction : Transaction)
    (progress : Progress) : Progress :=
  (progress.remember (·.queueAll transaction.participants block.id)).write moment
    (.transaction (progress.settled transaction))

/-- Merges the transactions of a block in order, behind those with the ids `merged`, and returns the
ids of all of them. -/
def mergeTransactions (moment : Moment) (block : Block) (merged : List String) :
    List Transaction → Progress → List String × Progress
  | [], progress => (merged, progress)
  | transaction :: rest, progress =>
    match progress.transactionFlaw? block transaction with
    | some flaw => mergeTransactions moment block merged rest (progress.skip flaw)
    | none =>
      mergeTransactions moment block (transaction.id :: merged) rest
        (progress.mergeTransaction moment block transaction)

/-- The event as it is merged: an event that names no block belongs to the one being merged. -/
def placed (block : Block) (event : Event) : Event :=
  if event.blockId = "" then { event with blockId := block.id } else event

/-- Merges an event with a block and queues the account that it refers to. -/
def mergeEvent (moment : Moment) (block : Block) (event : Event) (progress : Progress) : Progress :=
  (progress.remember (·.queueAll event.reference?.toList block.id)).write moment
    (.event (placed block event))

/-- Merges the events of a block in order. -/
def mergeEvents (moment : Moment) (block : Block) (merged : List String) :
    List Event → Progress → Progress
  | [], progress => progress
  | event :: rest, progress =>
    match progress.eventFlaw? merged event with
    | some flaw => mergeEvents moment block merged rest (progress.skip flaw)
    | none => mergeEvents moment block merged rest (progress.mergeEvent moment block event)

/-- The events of a block in the order in which they are merged: those of new accounts come first.
-/
def eventOrder (events : List Event) : List Event :=
  events.filter (·.isAccountCreated) ++ events.filter (!·.isAccountCreated)

/-- Merges a block behind what it carries. -/
def mergeBlock (moment : Moment) (fetched : FetchedBlock) (progress : Progress) : Progress :=
  let block := fetched.block
  let (merged, progress) :=
    progress.mergeTransactions moment block [] fetched.contents.transactions
  (progress.mergeEvents moment block merged (eventOrder fetched.contents.events)).write moment
    (.block block)

/-! ### Heights -/

/-- Merges the block that was fetched for a height and moves the watermark there. -/
def mergeHeight (moment : Moment) (height : Nat) (fetched : FetchedBlock) (progress : Progress) :
    Progress :=
  let progress := progress.mergeBlock moment fetched
  { progress with
    state := { progress.state with watermark := some height }
    report := { progress.report with blocksIngested := progress.report.blocksIngested + 1 } }

/-- Merges the blocks that were fetched for heights, up to the first height without one. That a
block does not exist yet is no failure. -/
def mergeHeights (moment : Moment) :
    List (Nat × Except GatewayError FetchedBlock) → Progress → Progress
  | [], progress => progress
  | (height, .ok fetched) :: rest, progress =>
    mergeHeights moment rest (progress.mergeHeight moment height fetched)
  | (height, .error e) :: _, progress =>
    if e.isNotFound then progress
    else progress.fail .blocks ("height " ++ toString height) (.gateway e)

end Progress

/-- The height that comes next while the chain's latest height is `latest`, and the memory that
holds on to it. There is a next height behind each watermark: heights have no bound here, and no
chain comes near the greatest one that fits in 64 bits. -/
def State.nextHeight (settings : Settings) (latest : Nat) (state : State) : Nat × State :=
  match state.watermark, state.firstHeight with
  | some watermark, _ => (watermark + 1, state)
  | none, some height => (height, state)
  | none, none =>
    let height := settings.startHeight.getD latest
    (height, { state with firstHeight := some height })

/-- The heights from `next` on that a tick goes for while the chain's latest height is `latest`. -/
def batch (settings : Settings) (latest next : Nat) : List Nat :=
  let last := min latest (next + (settings.maxBlocksPerTick - 1))
  List.range' next (last + 1 - next)

variable {σ : Type}

/-- The block at a height with what it carries. -/
def fetchBlock (gateway : Gateway σ) (height : Nat) (chain : σ) :
    Except GatewayError FetchedBlock × σ :=
  match gateway.ask (.block height) chain with
  | (.error e, chain) => (.error e, chain)
  | (.ok block, chain) =>
    let (contents, chain) := gateway.ask (.contents block.id) chain
    (contents.map (FetchedBlock.mk block), chain)

/-- The stage that merges blocks. -/
def ingestBlocks (gateway : Gateway σ) (settings : Settings) (moment : Moment) (chain : σ)
    (progress : Progress) : Progress × σ :=
  match gateway.ask .latestHeight chain with
  | (.error e, chain) => (progress.fail .blocks "latest height" (.gateway e), chain)
  | (.ok latest, chain) =>
    let (next, state) := progress.state.nextHeight settings latest
    let (fetched, chain) := askEach (fetchBlock gateway) (batch settings latest next) chain
    (Progress.mergeHeights moment fetched { progress with state }, chain)

end ChainFeed.Ingest
