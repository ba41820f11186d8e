import ChainFeed.Address
import ChainFeed.Resource.Basic

/-!
# Events

A transaction emits events, numbered from zero; an event's id is the transaction's id and the
number. Some events of the chain itself and of its token say that an account changed: they **refer
to** the address that their data hold under a name which depends on the event's type.
-/

namespace ChainFeed

/-- An event of the chain. -/
structure Event where
  /-- The event's id. -/
  id : String
  /-- The id of the transaction that emitted the event. -/
  transactionId : String
  /-- The id of the block that the transaction is in. -/
  blockId : String
  /-- The event's number within its transaction. -/
  eventIndex : Nat
  /-- The transaction's number within its block. -/
  transactionIndex : Nat
  /-- The event's type. -/
  type : String
  /-- What the event says. -/
  data : Json
  /-- When the event was added and last changed. -/
  stamps : Stamps
  deriving BEq, Repr

/-- New values for some fields of an event. -/
structure EventPatch where
  /-- Another block. -/
  blockId : Option String
  /-- Another number of the transaction. -/
  transactionIndex : Option Nat
  /-- Another type. -/
  type : Option String
  /-- Other data. -/
  data : Option Json
  deriving Repr

namespace Event

/-- The id of a transaction's event with a number. -/
def idOf (transactionId : String) (eventIndex : Nat) : String :=
  transactionId ++ "." ++ toString eventIndex

/-- The text that the event's data hold under a name. -/
def dataText? (event : Event) (name : String) : Option String := do
  (← event.data.field? name).text?

/-! ### References to accounts -/

/-- The type of the event that a new account emits. -/
def accountCreatedType : String := "flow.AccountCreated"

/-- The types of the events that say that an account changed. -/
def accountTypes : List String :=
  [accountCreatedType, "flow.AccountKeyAdded", "flow.AccountKeyRemoved",
   "flow.AccountContractAdded", "flow.AccountContractUpdated", "flow.AccountContractRemoved"]

/-- The end of the type of an event that takes tokens out of an account. -/
def withdrawnEnding : String := ".FlowToken.TokensWithdrawn"

/-- The end of the type of an event that puts tokens into an account. -/
def depositedEnding : String := ".FlowToken.TokensDeposited"

/-- Whether a new account emitted the event. -/
def isAccountCreated (event : Event) : Bool :=
  event.type == accountCreatedType

/-- The name under which events of a type hold the address that they refer to. -/
def referenceField? (type : String) : Option String :=
  if accountTypes.contains type then some "address"
  else if withdrawnEnding.toList.isSuffixOf type.toList then some "from"
  else if depositedEnding.toList.isSuffixOf type.toList then some "to"
  else none

/-- The canonical address of the account that the event says has changed. -/
def reference? (event : Event) : Option String := do
  let address ← event.dataText? (← referenceField? event.type)
  some (Address.canonical address)

/-! ### Patches -/

/-- The event with the new values of a patch. -/
def apply (patch : EventPatch) (event : Event) : Event :=
  { event with
    blockId := patch.blockId.getD event.blockId
    transactionIndex := patch.transactionIndex.getD event.transactionIndex
    type := patch.type.getD event.type
    data := patch.data.getD event.data }

/-- The patch with all the event's values. -/
def toPatch (event : Event) : EventPatch where
  blockId := some event.blockId
  transactionIndex := some event.transactionIndex
  type := some event.type
  data := some event.data

/-! ### Written form -/

/-- The names of an event's own fields. -/
def fieldNames : List String :=
  ["id", "transactionId", "blockId", "eventIndex", "transactionIndex", "type", "data"]

/-- The written form of an event. -/
def toJson (event : Event) : Json :=
  .record ([
    ("id", .text event.id),
    ("transactionId", .text event.transactionId),
    ("blockId", .text event.blockId),
    ("eventIndex", .nat event.eventIndex),
    ("transactionIndex", .nat event.transactionIndex),
    ("type", .text event.type),
    ("data", event.data)] ++ event.stamps.fields)

/-- Reads an event. -/
def read : Reader Event := fun d => do
  let slot ← d.slotsOfWhole (fieldNames ++ Stamps.fieldNames)
  some {
    id := ← (slot "id").required Doc.readText
    transactionId := ← (slot "transactionId").required Doc.readText
    blockId := ← (slot "blockId").required Doc.readText
    eventIndex := ← (slot "eventIndex").required (Doc.readNat Text.word32)
    transactionIndex := ← (slot "transactionIndex").required (Doc.readNat Text.word32)
    type := ← (slot "type").required Doc.readText
    data := ← (slot "data").required Doc.readValue
    stamps := ← Stamps.ofSlots slot }

end Event

instance : Resource Event where
  kind := .event
  Patch := EventPatch
  id := Event.id
  stamps := Event.stamps
  withStamps stamps event := { event with stamps }
  apply := Event.apply
  toPatch := Event.toPatch
  same a b := a == b
  toJson := Event.toJson
  read := Event.read

end ChainFeed
