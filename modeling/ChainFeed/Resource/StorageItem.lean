import ChainFeed.Resource.Basic

/-!
# Items of an account's storage

An account stores items under paths, and an item's id is the account's address and the path. A path
is written as a slash, a domain, a slash and an identifier; its **domain** is what stands between
its first two slashes.
-/

namespace ChainFeed

/-- The domains of storage paths. -/
inductive StorageDomain where
  /-- Items that only links of the account reach. -/
  | «private»
  /-- Items that everybody reaches. -/
  | «public»
  /-- Items that the account alone reaches. -/
  | storage
  deriving DecidableEq, Repr

/-- Why a path has no domain. -/
inductive StorageDomain.Error where
  /-- Nothing stands behind a first slash. -/
  | noDomain (path : String)
  /-- What stands there names no domain. -/
  | unknown (e : UnknownName)
  deriving DecidableEq, Repr

/-- The text of the error. -/
def StorageDomain.Error.message : StorageDomain.Error → String
  | noDomain path => "storage path " ++ Text.quoted path ++ " has no domain"
  | unknown e => e.message

namespace StorageDomain

/-- The name of a domain. -/
def name : StorageDomain → String
  | «private» => "private"
  | «public» => "public"
  | storage => "storage"

/-- The domain with a name. -/
def ofName? (name : String) : Option StorageDomain :=
  [«private», «public», storage].find? (·.name == name)

/-- The domain that a text names. -/
def parse (text : String) : Except UnknownName StorageDomain :=
  namedOr "storage domain" ofName? text

/-- What stands between the first two slashes of a path, or behind the only one. -/
def segment? (path : List Char) : Option (List Char) :=
  match path.dropWhile (· ≠ '/') with
  | [] => none
  | _ :: rest => some (rest.takeWhile (· ≠ '/'))

/-- The domain of a path. -/
def ofPath (path : String) : Except StorageDomain.Error StorageDomain :=
  match segment? path.toList with
  | none => .error (.noDomain path)
  | some segment => (parse (String.ofList segment)).mapError .unknown

end StorageDomain

/-- An item of an account's storage. -/
structure StorageItem where
  /-- The item's id. -/
  id : String
  /-- The address of the account that stores the item. -/
  address : String
  /-- The path that the item is stored under. -/
  path : String
  /-- The path's domain. -/
  domain : StorageDomain
  /-- The path that a link leads to. -/
  targetPath : Option String
  /-- The type of what is stored. -/
  data : Json
  /-- When the item was added and last changed. -/
  stamps : Stamps
  deriving BEq, Repr

/-- New values for some fields of a storage item. -/
structure StorageItemPatch where
  /-- Another domain. -/
  domain : Option StorageDomain
  /-- Another target of the link, or none any more. -/
  targetPath : Option (Option String)
  /-- Another type. -/
  data : Option Json
  deriving Repr

namespace StorageItem

/-- The id of what an account stores under a path. -/
def idOf (address path : String) : String :=
  address ++ "." ++ path

/-- The item with the new values of a patch. -/
def apply (patch : StorageItemPatch) (item : StorageItem) : StorageItem :=
  { item with
    domain := patch.domain.getD item.domain
    targetPath := patch.targetPath.getD item.targetPath
    data := patch.data.getD item.data }

/-- The patch with all the item's values. -/
def toPatch (item : StorageItem) : StorageItemPatch where
  domain := some item.domain
  targetPath := some item.targetPath
  data := some item.data

/-- The names of an item's own fields. -/
def fieldNames : List String := ["id", "address", "path", "domain", "targetPath", "data"]

/-- The written form of an item. -/
def toJson (item : StorageItem) : Json :=
  .record ([
    ("id", .text item.id),
    ("address", .text item.address),
    ("path", .text item.path),
    ("domain", .text item.domain.name),
    ("targetPath", .textOrNull item.targetPath),
    ("data", item.data)] ++ item.stamps.fields)

/-- Reads an item. -/
def read : Reader StorageItem := fun d => do
  let slot ← d.slotsOfWhole (fieldNames ++ Stamps.fieldNames)
  some {
    id := ← (slot "id").required Doc.readText
    address := ← (slot "address").required Doc.readText
    path := ← (slot "path").required Doc.readText
    domain := ← (slot "domain").required (Doc.readName StorageDomain.ofName?)
    targetPath := ← (slot "targetPath").optional Doc.readText
    data := ← (slot "data").required Doc.readValue
    stamps := ← Stamps.ofSlots slot }

end StorageItem

instance : Resource StorageItem where
  kind := .storageItem
  Patch := StorageItemPatch
  id := StorageItem.id
  stamps := StorageItem.stamps
  withStamps stamps item := { item with stamps }
  apply := StorageItem.apply
  toPatch := StorageItem.toPatch
  same a b := a == b
  toJson := StorageItem.toJson
  read := StorageItem.read

end ChainFeed
