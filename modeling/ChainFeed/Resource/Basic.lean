import ChainFeed.Json.Reader
import ChainFeed.Text.Quoted

/-!
# Resources

A **resource** is one record of the chain that clients follow. It has an id within its kind, stamps
that say when it was added and last changed, and **content**: everything but the stamps. A patch
lists new values for some fields of a resource; fields that identify it on the chain are in no
patch.
-/

namespace ChainFeed

/-- A text that names none of the values it was read as. -/
structure UnknownName where
  /-- What the text was read as. -/
  noun : String
  /-- The text. -/
  text : String
  deriving DecidableEq, Repr

/-- The text of the error. -/
def UnknownName.message (e : UnknownName) : String :=
  "unknown " ++ e.noun ++ " " ++ Text.quoted e.text

/-- The value that `ofName?` finds under a text, or the error that there is none. -/
def namedOr {α : Type} (noun : String) (ofName? : String → Option α) (text : String) :
    Except UnknownName α :=
  match ofName? text with
  | some value => .ok value
  | none => .error ⟨noun, text⟩

/-- The kinds of resources. -/
inductive Kind where
  /-- An account. -/
  | account
  /-- A block. -/
  | block
  /-- A transaction. -/
  | transaction
  /-- An event. -/
  | event
  /-- A contract. -/
  | contract
  /-- An item of an account's storage. -/
  | storageItem
  deriving DecidableEq, Repr

namespace Kind

/-- Every kind. -/
def all : List Kind := [account, block, transaction, event, contract, storageItem]

/-- The name of a kind. -/
def name : Kind → String
  | account => "account"
  | block => "block"
  | transaction => "transaction"
  | event => "event"
  | contract => "contract"
  | storageItem => "storage_item"

/-- The kind with a name. -/
def ofName? (name : String) : Option Kind :=
  all.find? (·.name == name)

/-- Reads a kind by its name. -/
def read : Reader Kind := Doc.readName ofName?

end Kind

/-- When a resource was added and last changed, in milliseconds since 1970. -/
structure Stamps where
  /-- When the resource was added. -/
  createdAt : Nat
  /-- When the resource was last changed. -/
  updatedAt : Nat
  deriving DecidableEq, Repr

namespace Stamps

/-- The stamps of a resource that no index has stamped. -/
def unset : Stamps := ⟨0, 0⟩

/-- The stamps of a resource that is added at a time. -/
def added (time : Nat) : Stamps := ⟨time, time⟩

/-- The later of the two stamps. -/
def latest (stamps : Stamps) : Nat := max stamps.createdAt stamps.updatedAt

/-- The names of the stamps' fields. -/
def fieldNames : List String := ["createdAt", "updatedAt"]

/-- The stamps as fields of a record. -/
def fields (stamps : Stamps) : List (String × Json) :=
  [("createdAt", .nat stamps.createdAt), ("updatedAt", .nat stamps.updatedAt)]

/-- Reads the stamps from the slots of a resource. -/
def ofSlots (slot : String → Slot) : Option Stamps := do
  some {
    createdAt := ← (slot "createdAt").required (Doc.readNat Text.word64)
    updatedAt := ← (slot "updatedAt").required (Doc.readNat Text.word64) }

end Stamps

/-- A kind of records that an index can hold. -/
class Resource (R : Type) where
  /-- The kind that the records are of. -/
  kind : Kind
  /-- New values for some fields of a record. -/
  Patch : Type
  /-- The name of a record within its kind. -/
  id : R → String
  /-- The stamps of a record. -/
  stamps : R → Stamps
  /-- The record with other stamps. -/
  withStamps : Stamps → R → R
  /-- The record with the new values of a patch. -/
  apply : Patch → R → R
  /-- The patch with the record's value for every field that a patch can hold. -/
  toPatch : R → Patch
  /-- Whether two records, stamps included, are the same. -/
  same : R → R → Bool
  /-- The written form of a record. -/
  toJson : R → Json
  /-- Reads a record. -/
  read : Reader R

namespace Resource

variable {R : Type} [Resource R]

/-- When the resource was last added or changed. -/
def changedAt (resource : R) : Nat := (stamps resource).latest

/-- Whether two resources have the same content. -/
def sameContent (a b : R) : Bool :=
  same (withStamps Stamps.unset a) (withStamps Stamps.unset b)

/-- The resource `stored` with every patchable field taken from `other`. -/
def merge (stored other : R) : R := apply (toPatch other) stored

end Resource

end ChainFeed
