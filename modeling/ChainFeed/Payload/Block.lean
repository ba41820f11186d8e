import ChainFeed.Gateway.Error
import ChainFeed.Resource.Block
import ChainFeed.Time.Timestamp

/-!
# Blocks in the answers of an access node

An access node writes a block as a header and, if it is asked for one, a payload. Numbers are
written as texts.
-/

namespace ChainFeed.Payload

/-- The header of a block. -/
structure Header where
  /-- The block's id. -/
  id : String
  /-- The id of the block before it. -/
  parentId : String
  /-- The block's height. -/
  height : Nat
  /-- The time of the block as it is written. -/
  timestamp : String
  /-- The signature of those who voted for the parent. -/
  parentVoterSignature : Option String
  deriving DecidableEq, Repr

/-- Reads a header. -/
def Header.read : Reader Header := fun d => do
  let slot ← d.slots ["id", "parent_id", "height", "timestamp", "parent_voter_signature"]
  some {
    id := ← (slot "id").required Doc.readText
    parentId := ← (slot "parent_id").required Doc.readText
    height := ← (slot "height").required (Doc.readNumeral Text.word64)
    timestamp := ← (slot "timestamp").required Doc.readText
    parentVoterSignature := ← (slot "parent_voter_signature").orNull Doc.readText }

/-- What a block carries besides its header. -/
structure BlockBody where
  /-- The collections that the block guarantees. -/
  guarantees : List CollectionGuarantee
  /-- The ids of the blocks that the block seals. -/
  seals : List String
  deriving DecidableEq, Repr

/-- A block that carries nothing. -/
def BlockBody.empty : BlockBody := ⟨[], []⟩

/-- Reads the guarantee of a collection. -/
def readGuarantee : Reader CollectionGuarantee := fun d => do
  let slot ← d.slots ["collection_id", "signer_ids"]
  some {
    collectionId := ← (slot "collection_id").required Doc.readText
    signerIds := ← (slot "signer_ids").orElse (Doc.readList Doc.readText) [] }

/-- Reads the id of a sealed block. -/
def readSeal : Reader String := fun d => do
  let slot ← d.slots ["block_id"]
  (slot "block_id").required Doc.readText

/-- Reads what a block carries. -/
def BlockBody.read : Reader BlockBody := fun d => do
  let slot ← d.slots ["collection_guarantees", "block_seals"]
  some {
    guarantees := ← (slot "collection_guarantees").orElse (Doc.readList readGuarantee) []
    seals := ← (slot "block_seals").orElse (Doc.readList readSeal) [] }

/-- A block as an access node writes it. -/
structure WrittenBlock where
  /-- The header. -/
  header : Header
  /-- What the block carries, empty if the node was not asked for it. -/
  body : BlockBody
  deriving DecidableEq, Repr

namespace WrittenBlock

/-- Reads a block. -/
def read : Reader WrittenBlock := fun d => do
  let slot ← d.slots ["header", "payload"]
  let body ← (slot "payload").orNull BlockBody.read
  some {
    header := ← (slot "header").required Header.read
    body := body.getD BlockBody.empty }

/-- The block that is written, if its time is one. -/
def toBlock (written : WrittenBlock) : Except GatewayError Block :=
  let header := written.header
  match Timestamp.parse? header.timestamp with
  | none => .error (.decode (.blockTime header.id))
  | some timestamp => .ok {
      id := header.id
      parentId := header.parentId
      height := header.height
      timestamp
      collectionGuarantees := written.body.guarantees
      blockSeals := written.body.seals
      signatures := header.parentVoterSignature.toList
      stamps := Stamps.unset }

end WrittenBlock

end ChainFeed.Payload
