import Std.Data.TreeMap
import ChainFeed.Payload.Transaction
import ChainFeed.Resource.Account
import ChainFeed.Resource.Contract

/-!
# Accounts in the answers of an access node

An account is written with its keys or with its contracts, whichever the node is asked for.
Contracts are a record that holds the code of each contract in Base64 under its name. A key's
algorithm that has no known name is left open.
-/

namespace ChainFeed.Payload

/-- Reads a record of texts, in the order of its names; of two fields with one name the later one
counts. -/
def readTexts : Reader (List (String × String))
  | .record fields => do
    let fields ← fields.mapM fun (name, d) => do some (← name, ← d.readText)
    some (fields.foldl (fun texts (name, text) => texts.insert name text)
      (∅ : Std.TreeMap String String)).toList
  | _ => none

/-- Reads a key. -/
def readAccountKey : Reader AccountKey := fun d => do
  let slot ← d.slots ["index", "public_key", "signing_algorithm", "hashing_algorithm",
    "sequence_number", "weight", "revoked"]
  let sign ← (slot "signing_algorithm").required Doc.readText
  let hash ← (slot "hashing_algorithm").required Doc.readText
  some {
    index := ← (slot "index").required (Doc.readNumeral Text.word32)
    publicKey := ← (slot "public_key").required Doc.readText
    signAlgo := (SignatureAlgorithm.parse sign).toOption
    hashAlgo := (HashAlgorithm.parse hash).toOption
    weight := ← (slot "weight").required (Doc.readNumeral Text.word32)
    sequenceNumber := ← (slot "sequence_number").required (Doc.readNumeral Text.word64)
    revoked := ← (slot "revoked").orElse Doc.readBool false }

/-- An account as an access node writes it. -/
structure WrittenAccount where
  /-- The account's address, in any spelling. -/
  address : String
  /-- The account's balance. -/
  balance : Nat
  /-- The account's keys, empty if the node was not asked for them. -/
  keys : List AccountKey
  /-- The names and codes of the account's contracts, the codes in Base64. -/
  contracts : List (String × String)
  deriving DecidableEq, Repr

namespace WrittenAccount

/-- Reads an account. -/
def read : Reader WrittenAccount := fun d => do
  let slot ← d.slots ["address", "balance", "keys", "contracts"]
  some {
    address := ← (slot "address").required Doc.readText
    balance := ← (slot "balance").required (Doc.readNumeral Text.word64)
    keys := ← (slot "keys").orElse (Doc.readList readAccountKey) []
    contracts := ← (slot "contracts").orElse readTexts [] }

/-- The account that is written. -/
def toAccount (written : WrittenAccount) : Account where
  id := Address.canonical written.address
  address := Address.canonical written.address
  balance := written.balance
  code := ""
  keys := written.keys
  blockId := ""
  isDefaultAccount := false
  stamps := Stamps.unset

/-- A contract of the account, by its name and its code. -/
def toContract (written : WrittenAccount) (entry : String × String) :
    Except GatewayError Contract := do
  let code ← encoded (Text.Base64.decodeText? entry.2)
  let address := Address.canonical written.address
  return {
    id := Contract.idOf address entry.1
    address
    name := entry.1
    code
    blockId := ""
    stamps := Stamps.unset }

/-- The contracts of the account that is written. -/
def toContracts (written : WrittenAccount) : Except GatewayError (List Contract) :=
  written.contracts.mapM written.toContract

end WrittenAccount

end ChainFeed.Payload
