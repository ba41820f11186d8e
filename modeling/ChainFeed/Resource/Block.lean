import ChainFeed.Resource.Basic

/-!
# Blocks

A block is a step of the chain at a height. It guarantees collections of transactions and seals
earlier blocks. Its id, parent, height and time identify it on the chain and never change.
-/

namespace ChainFeed

/-- A collection of transactions that a block guarantees. -/
structure CollectionGuarantee where
  /-- The collection's id. -/
  collectionId : String
  /-- Who guarantees the collection. -/
  signerIds : List String
  deriving DecidableEq, Repr

namespace CollectionGuarantee

/-- The written form of a guarantee. -/
def toJson (guarantee : CollectionGuarantee) : Json :=
  .record [
    ("collectionId", .text guarantee.collectionId),
    ("signerIds", .texts guarantee.signerIds)]

/-- Reads a guarantee. -/
def read : Reader CollectionGuarantee := fun d => do
  let slot ← d.slots ["collectionId", "signerIds"]
  some {
    collectionId := ← (slot "collectionId").required Doc.readText
    signerIds := ← (slot "signerIds").required (Doc.readList Doc.readText) }

end CollectionGuarantee

/-- A block of the chain. -/
structure Block where
  /-- The block's id. -/
  id : String
  /-- The id of the block before it. -/
  parentId : String
  /-- The block's height. -/
  height : Nat
  /-- When the block was proposed, in milliseconds since 1970. -/
  timestamp : Nat
  /-- The collections that the block guarantees. -/
  collectionGuarantees : List CollectionGuarantee
  /-- The ids of the blocks that the block seals. -/
  blockSeals : List String
  /-- The signatures on the block. -/
  signatures : List String
  /-- When the block was added and last changed. -/
  stamps : Stamps
  deriving DecidableEq, Repr

/-- New values for some fields of a block. -/
structure BlockPatch where
  /-- Other guarantees. -/
  collectionGuarantees : Option (List CollectionGuarantee)
  /-- Other seals. -/
  blockSeals : Option (List String)
  /-- Other signatures. -/
  signatures : Option (List String)
  deriving DecidableEq, Repr

namespace Block

/-- The ids of the collections that the block guarantees. -/
def collectionIds (block : Block) : List String :=
  block.collectionGuarantees.map (·.collectionId)

/-- The block with the new values of a patch. -/
def apply (patch : BlockPatch) (block : Block) : Block :=
  { block with
    collectionGuarantees := patch.collectionGuarantees.getD block.collectionGuarantees
    blockSeals := patch.blockSeals.getD block.blockSeals
    signatures := patch.signatures.getD block.signatures }

/-- The patch with all the block's values. -/
def toPatch (block : Block) : BlockPatch where
  collectionGuarantees := some block.collectionGuarantees
  blockSeals := some block.blockSeals
  signatures := some block.signatures

/-- The names of a block's own fields. -/
def fieldNames : List String :=
  ["id", "parentId", "height", "timestamp", "collectionGuarantees", "blockSeals", "signatures"]

/-- The written form of a block. -/
def toJson (block : Block) : Json :=
  .record ([
    ("id", .text block.id),
    ("parentId", .text block.parentId),
    ("height", .nat block.height),
    ("timestamp", .nat block.timestamp),
    ("collectionGuarantees", .list (block.collectionGuarantees.map CollectionGuarantee.toJson)),
    ("blockSeals", .texts block.blockSeals),
    ("signatures", .texts block.signatures)] ++ block.stamps.fields)

/-- Reads a block. -/
def read : Reader Block := fun d => do
  let slot ← d.slotsOfWhole (fieldNames ++ Stamps.fieldNames)
  some {
    id := ← (slot "id").required Doc.readText
    parentId := ← (slot "parentId").required Doc.readText
    height := ← (slot "height").required (Doc.readNat Text.word64)
    timestamp := ← (slot "timestamp").required (Doc.readNat Text.word64)
    collectionGuarantees :=
      ← (slot "collectionGuarantees").required (Doc.readList CollectionGuarantee.read)
    blockSeals := ← (slot "blockSeals").required (Doc.readList Doc.readText)
    signatures := ← (slot "signatures").required (Doc.readList Doc.readText)
    stamps := ← Stamps.ofSlots slot }

end Block

instance : Resource Block where
  kind := .block
  Patch := BlockPatch
  id := Block.id
  stamps := Block.stamps
  withStamps stamps block := { block with stamps }
  apply := Block.apply
  toPatch := Block.toPatch
  same a b := decide (a = b)
  toJson := Block.toJson
  read := Block.read

end ChainFeed
