import ChainFeed.Address
import ChainFeed.Cadence
import ChainFeed.Gateway.Error
import ChainFeed.Resource.Event
import ChainFeed.Resource.Transaction

/-!
# Transactions in the answers of an access node

A transaction is written in a collection, and its result, with the events that it emitted, by
itself. Scripts, arguments and what events say are written in Base64, numbers as texts, and
addresses in any spelling; converted transactions hold canonical addresses only.
-/

namespace ChainFeed

/-- The proposal key with its address in the canonical spelling. -/
def ProposalKey.canonical (key : ProposalKey) : ProposalKey :=
  { key with address := Address.canonical key.address }

/-- The signature with its address in the canonical spelling. -/
def Signature.canonical (s : Signature) : Signature :=
  { s with address := Address.canonical s.address }

namespace Payload

/-- The value, or the error that it is not written in the encoding that it should be in. -/
def encoded {α : Type} : Option α → Except GatewayError α
  | some value => .ok value
  | none => .error (.decode .encoding)

/-! ### Transactions -/

/-- Reads the key that a transaction was proposed with. -/
def readProposalKey : Reader ProposalKey := fun d => do
  let slot ← d.slots ["address", "key_index", "sequence_number"]
  some {
    address := ← (slot "address").required Doc.readText
    keyId := ← (slot "key_index").required (Doc.readNumeral Text.word32)
    sequenceNumber := ← (slot "sequence_number").required (Doc.readNumeral Text.word64) }

/-- Reads a signature. -/
def readSignature : Reader Signature := fun d => do
  let slot ← d.slots ["address", "key_index", "signature"]
  some {
    address := ← (slot "address").required Doc.readText
    keyId := ← (slot "key_index").required (Doc.readNumeral Text.word32)
    signature := ← (slot "signature").required Doc.readText }

/-- A transaction as an access node writes it. -/
structure WrittenTransaction where
  /-- The transaction's id. -/
  id : String
  /-- The script in Base64. -/
  script : String
  /-- The arguments in Base64. -/
  arguments : List String
  /-- The id of the block that the transaction refers to. -/
  referenceBlockId : String
  /-- How much computation the transaction may use. -/
  gasLimit : Nat
  /-- The address of the account that pays, in any spelling. -/
  payer : String
  /-- The key that the transaction was proposed with, its address in any spelling. -/
  proposalKey : ProposalKey
  /-- The addresses of the accounts that the script acts for, in any spelling. -/
  authorizers : List String
  /-- The signatures on the transaction, their addresses in any spelling. -/
  payloadSignatures : List Signature
  /-- The signatures on the transaction and its signatures, their addresses in any spelling. -/
  envelopeSignatures : List Signature
  deriving DecidableEq, Repr

namespace WrittenTransaction

/-- Reads a transaction. -/
def read : Reader WrittenTransaction := fun d => do
  let slot ← d.slots ["id", "script", "arguments", "reference_block_id", "gas_limit", "payer",
    "proposal_key", "authorizers", "payload_signatures", "envelope_signatures"]
  some {
    id := ← (slot "id").required Doc.readText
    script := ← (slot "script").required Doc.readText
    arguments := ← (slot "arguments").orElse (Doc.readList Doc.readText) []
    referenceBlockId := ← (slot "reference_block_id").required Doc.readText
    gasLimit := ← (slot "gas_limit").required (Doc.readNumeral Text.word64)
    payer := ← (slot "payer").required Doc.readText
    proposalKey := ← (slot "proposal_key").required readProposalKey
    authorizers := ← (slot "authorizers").orElse (Doc.readList Doc.readText) []
    payloadSignatures := ← (slot "payload_signatures").orElse (Doc.readList readSignature) []
    envelopeSignatures := ← (slot "envelope_signatures").orElse (Doc.readList readSignature) [] }

/-- The transaction that is written, in a block and with a status. -/
def toTransaction (blockId : String) (status : TransactionStatus) (written : WrittenTransaction) :
    Except GatewayError Transaction := do
  let arguments ← encoded (written.arguments.mapM Cadence.document?)
  let script ← encoded (Text.Base64.decodeText? written.script)
  return {
    id := written.id
    blockId
    referenceBlockId := written.referenceBlockId
    script
    arguments
    gasLimit := written.gasLimit
    payer := Address.canonical written.payer
    proposalKey := written.proposalKey.canonical
    authorizers := written.authorizers.map Address.canonical
    payloadSignatures := written.payloadSignatures.map Signature.canonical
    envelopeSignatures := written.envelopeSignatures.map Signature.canonical
    status
    stamps := Stamps.unset }

end WrittenTransaction

/-- Reads the transactions of a collection. -/
def readCollection : Reader (List WrittenTransaction) := fun d => do
  let slot ← d.slots ["transactions"]
  (slot "transactions").orElse (Doc.readList WrittenTransaction.read) []

/-! ### Results -/

/-- An event as an access node writes it. -/
structure WrittenEvent where
  /-- The event's type. -/
  type : String
  /-- The id of the transaction that emitted the event. -/
  transactionId : String
  /-- The transaction's number within its block. -/
  transactionIndex : Nat
  /-- The event's number within its transaction. -/
  eventIndex : Nat
  /-- What the event says, in Base64. -/
  payload : String
  deriving DecidableEq, Repr

namespace WrittenEvent

/-- Reads an event. -/
def read : Reader WrittenEvent := fun d => do
  let slot ← d.slots ["type", "transaction_id", "transaction_index", "event_index", "payload"]
  some {
    type := ← (slot "type").required Doc.readText
    transactionId := ← (slot "transaction_id").required Doc.readText
    transactionIndex := ← (slot "transaction_index").required (Doc.readNumeral Text.word32)
    eventIndex := ← (slot "event_index").required (Doc.readNumeral Text.word32)
    payload := ← (slot "payload").required Doc.readText }

/-- The event that is written, in a block. -/
def toEvent (blockId : String) (written : WrittenEvent) : Except GatewayError Event := do
  let payload ← encoded (Cadence.document? written.payload)
  return {
    id := Event.idOf written.transactionId written.eventIndex
    transactionId := written.transactionId
    blockId
    eventIndex := written.eventIndex
    transactionIndex := written.transactionIndex
    type := written.type
    data := Cadence.decode payload
    stamps := Stamps.unset }

end WrittenEvent

/-- The result of a transaction as an access node writes it. -/
structure WrittenResult where
  /-- The id of the block that the transaction is in. -/
  blockId : String
  /-- The name of the stage that the execution has reached. -/
  status : String
  /-- The code that says whether the execution went well. -/
  statusCode : Nat
  /-- What went wrong. -/
  errorMessage : String
  /-- The events that the transaction emitted. -/
  events : List WrittenEvent
  deriving DecidableEq, Repr

namespace WrittenResult

/-- Reads a result. -/
def read : Reader WrittenResult := fun d => do
  let slot ← d.slots ["block_id", "status", "status_code", "error_message", "events"]
  some {
    blockId := ← (slot "block_id").orElse Doc.readText ""
    status := ← (slot "status").required Doc.readText
    statusCode := ← (slot "status_code").orElse (Doc.readNat Text.word32) 0
    errorMessage := ← (slot "error_message").orElse Doc.readText ""
    events := ← (slot "events").orElse (Doc.readList WrittenEvent.read) [] }

/-- The status that the result tells. -/
def toStatus (written : WrittenResult) : Except GatewayError TransactionStatus :=
  match ExecutionStatus.parse written.status with
  | .error e => .error (.decode (.executionStatus e))
  | .ok execution => .ok ⟨execution, Verdict.ofCode written.statusCode, written.errorMessage⟩

end WrittenResult

end Payload

end ChainFeed
