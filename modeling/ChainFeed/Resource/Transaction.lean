import ChainFeed.Resource.Basic

/-!
# Transactions

A transaction runs a script with arguments for its payer, proposer and authorizers. Its **status**
goes through the stages of execution: a status of higher rank advances over one of lower rank, and
the two final stages share the top rank.
-/

namespace ChainFeed

/-- The stages of a transaction's execution. -/
inductive ExecutionStatus where
  /-- Nothing is known. -/
  | unknown
  /-- Waiting to be finalized. -/
  | pending
  /-- Waiting to be executed. -/
  | finalized
  /-- Waiting to be sealed. -/
  | executed
  /-- The result is part of the chain. -/
  | sealed
  /-- The transaction came too late. -/
  | expired
  deriving DecidableEq, Repr

namespace ExecutionStatus

/-- The name of a stage. -/
def name : ExecutionStatus → String
  | unknown => "Unknown"
  | pending => "Pending"
  | finalized => "Finalized"
  | executed => "Executed"
  | sealed => "Sealed"
  | expired => "Expired"

/-- The stage with a name. -/
def ofName? (name : String) : Option ExecutionStatus :=
  [unknown, pending, finalized, executed, sealed, expired].find? (·.name == name)

/-- The stage that a text names; the empty text says that nothing is known. -/
def parse (text : String) : Except UnknownName ExecutionStatus :=
  if text = "" then .ok unknown else namedOr "execution status" ofName? text

/-- How far a stage is on the way through execution. -/
def rank : ExecutionStatus → Nat
  | unknown => 0
  | pending => 1
  | finalized => 2
  | executed => 3
  | sealed | expired => 4

/-- Whether no stage follows. -/
def isFinal : ExecutionStatus → Bool
  | sealed | expired => true
  | _ => false

end ExecutionStatus

/-- Whether the execution of a transaction went well. -/
inductive Verdict where
  /-- It went well. -/
  | ok
  /-- It failed. -/
  | failed
  deriving DecidableEq, Repr

namespace Verdict

/-- The name of a verdict. -/
def name : Verdict → String
  | ok => "Ok"
  | failed => "Failed"

/-- The verdict with a name. -/
def ofName? (name : String) : Option Verdict :=
  [ok, failed].find? (·.name == name)

/-- The verdict of a status code: zero is good and everything else a failure. -/
def ofCode (code : Nat) : Verdict :=
  if code = 0 then ok else failed

end Verdict

/-- What is known about the execution of a transaction. -/
structure TransactionStatus where
  /-- The stage reached. -/
  execution : ExecutionStatus
  /-- Whether the execution went well. -/
  verdict : Verdict
  /-- What went wrong. -/
  errorMessage : String
  deriving DecidableEq, Repr

namespace TransactionStatus

/-- The status of a transaction that nothing is known about. -/
def unknown : TransactionStatus := ⟨.unknown, .ok, ""⟩

/-- Whether `status` is of a higher rank than `earlier`. -/
def advancesOver (status earlier : TransactionStatus) : Bool :=
  earlier.execution.rank < status.execution.rank

/-- The written form of a status. -/
def toJson (status : TransactionStatus) : Json :=
  .record [
    ("executionStatus", .text status.execution.name),
    ("grpcStatus", .text status.verdict.name),
    ("errorMessage", .text status.errorMessage)]

/-- Reads a status. -/
def read : Reader TransactionStatus := fun d => do
  let slot ← d.slots ["executionStatus", "grpcStatus", "errorMessage"]
  some {
    execution := ← (slot "executionStatus").required (Doc.readName ExecutionStatus.ofName?)
    verdict := ← (slot "grpcStatus").required (Doc.readName Verdict.ofName?)
    errorMessage := ← (slot "errorMessage").required Doc.readText }

end TransactionStatus

/-- The key that a transaction was proposed with. -/
structure ProposalKey where
  /-- The proposer's address. -/
  address : String
  /-- Which of the proposer's keys it is. -/
  keyId : Nat
  /-- How many transactions were proposed with the key before. -/
  sequenceNumber : Nat
  deriving DecidableEq, Repr

namespace ProposalKey

/-- The written form of a proposal key. -/
def toJson (key : ProposalKey) : Json :=
  .record [
    ("address", .text key.address),
    ("keyId", .nat key.keyId),
    ("sequenceNumber", .nat key.sequenceNumber)]

/-- Reads a proposal key. -/
def read : Reader ProposalKey := fun d => do
  let slot ← d.slots ["address", "keyId", "sequenceNumber"]
  some {
    address := ← (slot "address").required Doc.readText
    keyId := ← (slot "keyId").required (Doc.readNat Text.word32)
    sequenceNumber := ← (slot "sequenceNumber").required (Doc.readNat Text.word64) }

end ProposalKey

/-- A signature on a transaction. -/
structure Signature where
  /-- The signer's address. -/
  address : String
  /-- Which of the signer's keys signed. -/
  keyId : Nat
  /-- The signature. -/
  signature : String
  deriving DecidableEq, Repr

namespace Signature

/-- The written form of a signature. -/
def toJson (s : Signature) : Json :=
  .record [
    ("address", .text s.address),
    ("keyId", .nat s.keyId),
    ("signature", .text s.signature)]

/-- Reads a signature. -/
def read : Reader Signature := fun d => do
  let slot ← d.slots ["address", "keyId", "signature"]
  some {
    address := ← (slot "address").required Doc.readText
    keyId := ← (slot "keyId").required (Doc.readNat Text.word32)
    signature := ← (slot "signature").required Doc.readText }

end Signature

/-- A transaction of the chain. -/
structure Transaction where
  /-- The transaction's id. -/
  id : String
  /-- The id of the block that the transaction is in. -/
  blockId : String
  /-- The id of the block that the transaction refers to. -/
  referenceBlockId : String
  /-- The script that the transaction runs. -/
  script : String
  /-- The script's arguments, with their types. -/
  arguments : List Json
  /-- How much computation the transaction may use. -/
  gasLimit : Nat
  /-- The address of the account that pays. -/
  payer : String
  /-- The key that the transaction was proposed with. -/
  proposalKey : ProposalKey
  /-- The addresses of the accounts that the script acts for. -/
  authorizers : List String
  /-- The signatures on the transaction. -/
  payloadSignatures : List Signature
  /-- The signatures on the transaction and its signatures. -/
  envelopeSignatures : List Signature
  /-- What is known about the execution. -/
  status : TransactionStatus
  /-- When the transaction was added and last changed. -/
  stamps : Stamps
  deriving BEq, Repr

/-- New values for some fields of a transaction. -/
structure TransactionPatch where
  /-- Another block that the transaction is in. -/
  blockId : Option String := none
  /-- Another block that the transaction refers to. -/
  referenceBlockId : Option String := none
  /-- Another script. -/
  script : Option String := none
  /-- Other arguments. -/
  arguments : Option (List Json) := none
  /-- Another computation limit. -/
  gasLimit : Option Nat := none
  /-- Another payer. -/
  payer : Option String := none
  /-- Another proposal key. -/
  proposalKey : Option ProposalKey := none
  /-- Other authorizers. -/
  authorizers : Option (List String) := none
  /-- Other signatures on the transaction. -/
  payloadSignatures : Option (List Signature) := none
  /-- Other signatures on the transaction and its signatures. -/
  envelopeSignatures : Option (List Signature) := none
  /-- Another status. -/
  status : Option TransactionStatus := none
  deriving Repr

namespace Transaction

/-- The addresses that take part in a transaction: payer, proposer and authorizers. -/
def participants (transaction : Transaction) : List String :=
  transaction.payer :: transaction.proposalKey.address :: transaction.authorizers

/-- The transaction with the new values of a patch. -/
def apply (patch : TransactionPatch) (transaction : Transaction) : Transaction :=
  { transaction with
    blockId := patch.blockId.getD transaction.blockId
    referenceBlockId := patch.referenceBlockId.getD transaction.referenceBlockId
    script := patch.script.getD transaction.script
    arguments := patch.arguments.getD transaction.arguments
    gasLimit := patch.gasLimit.getD transaction.gasLimit
    payer := patch.payer.getD transaction.payer
    proposalKey := patch.proposalKey.getD transaction.proposalKey
    authorizers := patch.authorizers.getD transaction.authorizers
    payloadSignatures := patch.payloadSignatures.getD transaction.payloadSignatures
    envelopeSignatures := patch.envelopeSignatures.getD transaction.envelopeSignatures
    status := patch.status.getD transaction.status }

/-- The patch with all the transaction's values. -/
def toPatch (transaction : Transaction) : TransactionPatch where
  blockId := some transaction.blockId
  referenceBlockId := some transaction.referenceBlockId
  script := some transaction.script
  arguments := some transaction.arguments
  gasLimit := some transaction.gasLimit
  payer := some transaction.payer
  proposalKey := some transaction.proposalKey
  authorizers := some transaction.authorizers
  payloadSignatures := some transaction.payloadSignatures
  envelopeSignatures := some transaction.envelopeSignatures
  status := some transaction.status

/-- The names of a transaction's own fields. -/
def fieldNames : List String :=
  ["id", "blockId", "referenceBlockId", "script", "arguments", "gasLimit", "payer", "proposalKey",
   "authorizers", "payloadSignatures", "envelopeSignatures", "status"]

/-- The written form of a transaction. -/
def toJson (transaction : Transaction) : Json :=
  .record ([
    ("id", .text transaction.id),
    ("blockId", .text transaction.blockId),
    ("referenceBlockId", .text transaction.referenceBlockId),
    ("script", .text transaction.script),
    ("arguments", .list transaction.arguments),
    ("gasLimit", .nat transaction.gasLimit),
    ("payer", .text transaction.payer),
    ("proposalKey", transaction.proposalKey.toJson),
    ("authorizers", .texts transaction.authorizers),
    ("payloadSignatures", .list (transaction.payloadSignatures.map Signature.toJson)),
    ("envelopeSignatures", .list (transaction.envelopeSignatures.map Signature.toJson)),
    ("status", transaction.status.toJson)] ++ transaction.stamps.fields)

/-- Reads a transaction. -/
def read : Reader Transaction := fun d => do
  let slot ← d.slotsOfWhole (fieldNames ++ Stamps.fieldNames)
  some {
    id := ← (slot "id").required Doc.readText
    blockId := ← (slot "blockId").required Doc.readText
    referenceBlockId := ← (slot "referenceBlockId").required Doc.readText
    script := ← (slot "script").required Doc.readText
    arguments := ← (slot "arguments").required (Doc.readList Doc.readValue)
    gasLimit := ← (slot "gasLimit").required (Doc.readNat Text.word64)
    payer := ← (slot "payer").required Doc.readText
    proposalKey := ← (slot "proposalKey").required ProposalKey.read
    authorizers := ← (slot "authorizers").required (Doc.readList Doc.readText)
    payloadSignatures := ← (slot "payloadSignatures").required (Doc.readList Signature.read)
    envelopeSignatures := ← (slot "envelopeSignatures").required (Doc.readList Signature.read)
    status := ← (slot "status").required TransactionStatus.read
    stamps := ← Stamps.ofSlots slot }

end Transaction

instance : Resource Transaction where
  kind := .transaction
  Patch := TransactionPatch
  id := Transaction.id
  stamps := Transaction.stamps
  withStamps stamps transaction := { transaction with stamps }
  apply := Transaction.apply
  toPatch := Transaction.toPatch
  same a b := a == b
  toJson := Transaction.toJson
  read := Transaction.read

end ChainFeed
