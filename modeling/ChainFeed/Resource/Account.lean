import ChainFeed.Resource.Basic

/-!
# Accounts

An account has a balance, code and the keys that may sign for it. It remembers the block that it was
last seen in, and whether it is one of the accounts that are followed by default.
-/

namespace ChainFeed

/-- How a key signs. -/
inductive SignatureAlgorithm where
  /-- ECDSA on the curve P-256. -/
  | ecdsaP256
  /-- ECDSA on the curve secp256k1. -/
  | ecdsaSecp256k1
  /-- BLS on the curve BLS12-381. -/
  | blsBls12381
  deriving DecidableEq, Repr

namespace SignatureAlgorithm

/-- The name of a signature algorithm. -/
def name : SignatureAlgorithm → String
  | ecdsaP256 => "ECDSA_P256"
  | ecdsaSecp256k1 => "ECDSA_secp256k1"
  | blsBls12381 => "BLS_BLS12_381"

/-- The signature algorithm with a name. -/
def ofName? (name : String) : Option SignatureAlgorithm :=
  [ecdsaP256, ecdsaSecp256k1, blsBls12381].find? (·.name == name)

/-- The signature algorithm that a text names; the curve secp256k1 may be written in capitals. -/
def parse (text : String) : Except UnknownName SignatureAlgorithm :=
  if text = "ECDSA_SECP256K1" then .ok ecdsaSecp256k1
  else namedOr "signature algorithm" ofName? text

end SignatureAlgorithm

/-- How a key hashes. -/
inductive HashAlgorithm where
  /-- SHA2 with 256 bits. -/
  | sha2_256
  /-- SHA2 with 384 bits. -/
  | sha2_384
  /-- SHA3 with 256 bits. -/
  | sha3_256
  /-- SHA3 with 384 bits. -/
  | sha3_384
  /-- KMAC128 for BLS signatures. -/
  | kmac128BlsBls12381
  /-- Keccak with 256 bits. -/
  | keccak256
  deriving DecidableEq, Repr

namespace HashAlgorithm

/-- The name of a hash algorithm. -/
def name : HashAlgorithm → String
  | sha2_256 => "SHA2_256"
  | sha2_384 => "SHA2_384"
  | sha3_256 => "SHA3_256"
  | sha3_384 => "SHA3_384"
  | kmac128BlsBls12381 => "KMAC128_BLS_BLS12_381"
  | keccak256 => "KECCAK_256"

/-- The hash algorithm with a name. -/
def ofName? (name : String) : Option HashAlgorithm :=
  [sha2_256, sha2_384, sha3_256, sha3_384, kmac128BlsBls12381, keccak256].find? (·.name == name)

/-- The hash algorithm that a text names. -/
def parse (text : String) : Except UnknownName HashAlgorithm :=
  namedOr "hash algorithm" ofName? text

end HashAlgorithm

/-- A key that may sign for an account. An algorithm that is not known is left open. -/
structure AccountKey where
  /-- The key's place among the account's keys. -/
  index : Nat
  /-- The public key. -/
  publicKey : String
  /-- How the key signs. -/
  signAlgo : Option SignatureAlgorithm
  /-- How the key hashes. -/
  hashAlgo : Option HashAlgorithm
  /-- How much a signature with the key counts. -/
  weight : Nat
  /-- How many transactions were proposed with the key. -/
  sequenceNumber : Nat
  /-- Whether the key was taken back. -/
  revoked : Bool
  deriving DecidableEq, Repr

namespace AccountKey

/-- The names of a key's fields. -/
def fieldNames : List String :=
  ["index", "publicKey", "signAlgo", "hashAlgo", "weight", "sequenceNumber", "revoked"]

/-- The written form of a key. -/
def toJson (key : AccountKey) : Json :=
  .record [
    ("index", .nat key.index),
    ("publicKey", .text key.publicKey),
    ("signAlgo", .textOrNull (key.signAlgo.map (·.name))),
    ("hashAlgo", .textOrNull (key.hashAlgo.map (·.name))),
    ("weight", .nat key.weight),
    ("sequenceNumber", .nat key.sequenceNumber),
    ("revoked", .bool key.revoked)]

/-- Reads a key. -/
def read : Reader AccountKey := fun d => do
  let slot ← d.slots fieldNames
  some {
    index := ← (slot "index").required (Doc.readNat Text.word32)
    publicKey := ← (slot "publicKey").required Doc.readText
    signAlgo := ← (slot "signAlgo").optional (Doc.readName SignatureAlgorithm.ofName?)
    hashAlgo := ← (slot "hashAlgo").optional (Doc.readName HashAlgorithm.ofName?)
    weight := ← (slot "weight").required (Doc.readNat Text.word32)
    sequenceNumber := ← (slot "sequenceNumber").required (Doc.readNat Text.word64)
    revoked := ← (slot "revoked").required Doc.readBool }

end AccountKey

/-- An account of the chain. -/
structure Account where
  /-- The account's id, which is its address. -/
  id : String
  /-- The account's address. -/
  address : String
  /-- The account's balance. -/
  balance : Nat
  /-- The account's code. -/
  code : String
  /-- The keys that may sign for the account. -/
  keys : List AccountKey
  /-- The id of the block the account was last seen in. -/
  blockId : String
  /-- Whether the account is one of those followed by default. -/
  isDefaultAccount : Bool
  /-- When the account was added and last changed. -/
  stamps : Stamps
  deriving DecidableEq, Repr

/-- New values for some fields of an account. -/
structure AccountPatch where
  /-- A new balance. -/
  balance : Option Nat
  /-- New code. -/
  code : Option String
  /-- New keys. -/
  keys : Option (List AccountKey)
  /-- Another block the account was seen in. -/
  blockId : Option String
  /-- Whether the account is followed by default from now on. -/
  isDefaultAccount : Option Bool
  deriving DecidableEq, Repr

namespace Account

/-- The account with the new values of a patch. -/
def apply (patch : AccountPatch) (account : Account) : Account :=
  { account with
    balance := patch.balance.getD account.balance
    code := patch.code.getD account.code
    keys := patch.keys.getD account.keys
    blockId := patch.blockId.getD account.blockId
    isDefaultAccount := patch.isDefaultAccount.getD account.isDefaultAccount }

/-- The patch with all the account's values. -/
def toPatch (account : Account) : AccountPatch where
  balance := some account.balance
  code := some account.code
  keys := some account.keys
  blockId := some account.blockId
  isDefaultAccount := some account.isDefaultAccount

/-- The names of an account's own fields. -/
def fieldNames : List String :=
  ["id", "address", "balance", "code", "keys", "blockId", "isDefaultAccount"]

/-- The written form of an account. -/
def toJson (account : Account) : Json :=
  .record ([
    ("id", .text account.id),
    ("address", .text account.address),
    ("balance", .nat account.balance),
    ("code", .text account.code),
    ("keys", .list (account.keys.map AccountKey.toJson)),
    ("blockId", .text account.blockId),
    ("isDefaultAccount", .bool account.isDefaultAccount)] ++ account.stamps.fields)

/-- Reads an account. -/
def read : Reader Account := fun d => do
  let slot ← d.slotsOfWhole (fieldNames ++ Stamps.fieldNames)
  some {
    id := ← (slot "id").required Doc.readText
    address := ← (slot "address").required Doc.readText
    balance := ← (slot "balance").required (Doc.readNat Text.word64)
    code := ← (slot "code").required Doc.readText
    keys := ← (slot "keys").required (Doc.readList AccountKey.read)
    blockId := ← (slot "blockId").required Doc.readText
    isDefaultAccount := ← (slot "isDefaultAccount").required Doc.readBool
    stamps := ← Stamps.ofSlots slot }

end Account

instance : Resource Account where
  kind := .account
  Patch := AccountPatch
  id := Account.id
  stamps := Account.stamps
  withStamps stamps account := { account with stamps }
  apply := Account.apply
  toPatch := Account.toPatch
  same a b := decide (a = b)
  toJson := Account.toJson
  read := Account.read

end ChainFeed
