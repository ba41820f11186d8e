import ChainFeed.Gateway.Basic
import ChainFeed.Gateway.Request
import ChainFeed.Payload.Account
import ChainFeed.Payload.Block
import ChainFeed.Payload.Storage
import ChainFeed.Payload.Transaction

/-!
# Calls to an access node

An access node is a gateway: each call comes down to one request or several. What a block carries
takes a request for the block, one for each collection that it guarantees, and one for the result of
each transaction; if one of them fails in the end, the call fails.
-/

namespace ChainFeed.AccessNode

variable {σ : Type}

/-- An answer that needs no request any more. -/
def settled (result : Except GatewayError α) : Asking σ α := fun server => (result, server)

/-- The first block that an endpoint lists. -/
def firstBlock (node : AccessNode) (wire : Wire σ) (endpoint : String)
    (query : List (String × String)) (what : String) : Asking σ Payload.WrittenBlock := do
  let blocks ← node.get wire endpoint query (Doc.readList Payload.WrittenBlock.read)
  existing what blocks.head?

/-- The latest height of the chain. -/
def latestHeight (node : AccessNode) (wire : Wire σ) : Asking σ Nat := do
  let block ← node.firstBlock wire "v1/blocks" [("height", "sealed")] "sealed block"
  return block.header.height

/-- The block at a height. -/
def blockAt (node : AccessNode) (wire : Wire σ) (height : Nat) : Asking σ Block := do
  let block ← node.firstBlock wire "v1/blocks"
    [("height", toString height), ("expand", "payload")] ("block at height " ++ toString height)
  settled block.toBlock

/-- The transactions of a collection. -/
def collection (node : AccessNode) (wire : Wire σ) (id : String) :
    Asking σ (List Payload.WrittenTransaction) :=
  node.get wire ("v1/collections/" ++ id) [("expand", "transactions")] Payload.readCollection

/-- The result of a transaction. -/
def result (node : AccessNode) (wire : Wire σ) (id : String) : Asking σ Payload.WrittenResult :=
  node.get wire ("v1/transaction_results/" ++ id) [] Payload.WrittenResult.read

/-- The transactions of a block with their results, in the order of execution. -/
def executed (node : AccessNode) (wire : Wire σ) (blockId : String) :
    Asking σ (List (Payload.WrittenTransaction × Payload.WrittenResult)) := do
  let block ← node.firstBlock wire ("v1/blocks/" ++ blockId) [("expand", "payload")]
    ("block " ++ blockId)
  let collections ← block.body.guarantees.mapM fun g => node.collection wire g.collectionId
  collections.flatten.mapM fun transaction => do
    return (transaction, ← node.result wire transaction.id)

/-- What a transaction and its result add to what a block carries. -/
def carried (blockId : String) (entry : Payload.WrittenTransaction × Payload.WrittenResult) :
    Except GatewayError (Transaction × List Event) := do
  let status ← entry.2.toStatus
  let events ← entry.2.events.mapM (·.toEvent blockId)
  let transaction ← entry.1.toTransaction blockId status
  return (transaction, events)

/-- What a block carries that executed the transactions with their results. -/
def contentsOf (blockId : String)
    (entries : List (Payload.WrittenTransaction × Payload.WrittenResult)) :
    Except GatewayError BlockContents := do
  let parts ← entries.mapM (carried blockId)
  return ⟨parts.map (·.1), parts.flatMap (·.2)⟩

/-- What a block carries. -/
def contents (node : AccessNode) (wire : Wire σ) (blockId : String) : Asking σ BlockContents := do
  settled (contentsOf blockId (← node.executed wire blockId))

/-- The account with an address, together with its keys or its contracts. -/
def account (node : AccessNode) (wire : Wire σ) (address expand : String) :
    Asking σ Payload.WrittenAccount :=
  node.get wire ("v1/accounts/" ++ Address.bare address) [("expand", expand)]
    Payload.WrittenAccount.read

/-- What an account stores. -/
def storage (node : AccessNode) (wire : Wire σ) (address : String) :
    Asking σ (List StorageItem) := do
  let body := Payload.scriptRequest Payload.storageScript [Cadence.addressArgument address]
  let text ← node.request wire "v1/scripts" [("block_height", "sealed")] (some body) Doc.readText
  let document ← settled (Payload.encoded (Cadence.document? text))
  settled (Payload.storageItems address (Cadence.decode document))

/-- Asks a call of a node. -/
def ask (node : AccessNode) (wire : Wire σ) : (call : Call) → Asking σ call.Answer
  | .latestHeight => node.latestHeight wire
  | .block height => node.blockAt wire height
  | .transactions blockId => BlockContents.transactions <$> node.contents wire blockId
  | .events blockId => BlockContents.events <$> node.contents wire blockId
  | .contents blockId => node.contents wire blockId
  | .status id => do settled (← node.result wire id).toStatus
  | .account address => Payload.WrittenAccount.toAccount <$> node.account wire address "keys"
  | .contracts address => do settled (← node.account wire address "contracts").toContracts
  | .storage address => node.storage wire address

/-- The gateway that asks an access node over a wire. -/
def gateway (node : AccessNode) (wire : Wire σ) : Gateway σ := ⟨node.ask wire⟩

end ChainFeed.AccessNode
