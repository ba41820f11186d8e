import ChainFeed.Resource.Basic

/-!
# Contracts

An account holds contracts by name; a contract's id is the account's address and the name.
-/

namespace ChainFeed

/-- A contract of an account. -/
structure Contract where
  /-- The contract's id. -/
  id : String
  /-- The address of the account that holds the contract. -/
  address : String
  /-- The contract's name. -/
  name : String
  /-- The contract's code. -/
  code : String
  /-- The id of the block the contract was last seen in. -/
  blockId : String
  /-- When the contract was added and last changed. -/
  stamps : Stamps
  deriving DecidableEq, Repr

/-- New values for some fields of a contract. -/
structure ContractPatch where
  /-- Other code. -/
  code : Option String
  /-- Another block the contract was seen in. -/
  blockId : Option String
  deriving DecidableEq, Repr

namespace Contract

/-- The id of an account's contract with a name. -/
def idOf (address name : String) : String :=
  address ++ "." ++ name

/-- The contract with the new values of a patch. -/
def apply (patch : ContractPatch) (contract : Contract) : Contract :=
  { contract with
    code := patch.code.getD contract.code
    blockId := patch.blockId.getD contract.blockId }

/-- The patch with all the contract's values. -/
def toPatch (contract : Contract) : ContractPatch where
  code := some contract.code
  blockId := some contract.blockId

/-- The names of a contract's own fields. -/
def fieldNames : List String := ["id", "address", "name", "code", "blockId"]

/-- The written form of a contract. -/
def toJson (contract : Contract) : Json :=
  .record ([
    ("id", .text contract.id),
    ("address", .text contract.address),
    ("name", .text contract.name),
    ("code", .text contract.code),
    ("blockId", .text contract.blockId)] ++ contract.stamps.fields)

/-- Reads a contract. -/
def read : Reader Contract := fun d => do
  let slot ← d.slotsOfWhole (fieldNames ++ Stamps.fieldNames)
  some {
    id := ← (slot "id").required Doc.readText
    address := ← (slot "address").required Doc.readText
    name := ← (slot "name").required Doc.readText
    code := ← (slot "code").required Doc.readText
    blockId := ← (slot "blockId").required Doc.readText
    stamps := ← Stamps.ofSlots slot }

end Contract

instance : Resource Contract where
  kind := .contract
  Patch := ContractPatch
  id := Contract.id
  stamps := Contract.stamps
  withStamps stamps contract := { contract with stamps }
  apply := Contract.apply
  toPatch := Contract.toPatch
  same a b := decide (a = b)
  toJson := Contract.toJson
  read := Contract.read

end ChainFeed
