import ChainFeed.Resource.Account
import ChainFeed.Resource.Block
import ChainFeed.Resource.Contract
import ChainFeed.Resource.Event
import ChainFeed.Resource.StorageItem
import ChainFeed.Resource.Transaction

/-!
# Sample resources

A plain resource of each kind, built from the few values that distinguish it. Samples carry no
stamps: an index stamps what it is given.
-/

namespace ChainFeed

/-- The id of the sample block at a height. -/
def Block.sampleId (height : Nat) : String :=
  "block-" ++ toString height

/-- The sample block at a height; one second passes from each block to the next. -/
def Block.sample (height : Nat) : Block where
  id := Block.sampleId height
  parentId := Block.sampleId (height - 1)
  height := height
  timestamp := 1704067200000 + height * 1000
  collectionGuarantees := []
  blockSeals := []
  signatures := []
  stamps := Stamps.unset

/-- A sample account with a balance. -/
def Account.sample (address : String) (balance : Nat) : Account where
  id := address
  address := address
  balance := balance
  code := ""
  keys := []
  blockId := ""
  isDefaultAccount := false
  stamps := Stamps.unset

/-- A sample transaction that `payer` proposes, authorizes and pays. -/
def Transaction.sample (id blockId payer : String) : Transaction where
  id := id
  blockId := blockId
  referenceBlockId := blockId
  script := "transaction \x7b execute \x7b\x7d \x7d"
  arguments := []
  gasLimit := 9999
  payer := payer
  proposalKey := ⟨payer, 0, 0⟩
  authorizers := [payer]
  payloadSignatures := []
  envelopeSignatures := []
  status := TransactionStatus.unknown
  stamps := Stamps.unset

/-- A sample event of a type, which says nothing. -/
def Event.sample (transactionId : String) (eventIndex : Nat) (type : String) : Event where
  id := Event.idOf transactionId eventIndex
  transactionId := transactionId
  blockId := ""
  eventIndex := eventIndex
  transactionIndex := 0
  type := type
  data := .null
  stamps := Stamps.unset

/-- A sample contract, which does nothing. -/
def Contract.sample (address name : String) : Contract where
  id := Contract.idOf address name
  address := address
  name := name
  code := "access(all) contract " ++ name ++ " \x7b\x7d"
  blockId := ""
  stamps := Stamps.unset

/-- A sample item under a path; a path without a domain counts as plain storage. -/
def StorageItem.sample (address path : String) : StorageItem where
  id := StorageItem.idOf address path
  address := address
  path := path
  domain := (StorageDomain.ofPath path).toOption.getD .storage
  targetPath := none
  data := .record [("type", .text "A.0x01.Dummy.Resource")]
  stamps := Stamps.unset

end ChainFeed
