import ChainFeed.Address
import ChainFeed.Cadence
import ChainFeed.Gateway.Error
import ChainFeed.Resource.StorageItem

/-!
# Listings of an account's storage

An access node runs a script that walks through an account's storage and lists what is there: the
path, the type and, for a link, the path that it leads to.
-/

namespace ChainFeed.Payload

/-- The script that lists an account's storage. -/
def storageScript : String := String.intercalate "\n" [
  "access(all) struct StorageEntry \x7b",
  "    access(all) let path: String",
  "    access(all) let type: Type",
  "    access(all) let targetPath: String?",
  "",
  "    init(path: String, type: Type, targetPath: String?) \x7b",
  "        self.path = path",
  "        self.type = type",
  "        self.targetPath = targetPath",
  "    \x7d",
  "\x7d",
  "",
  "access(all) fun main(address: Address): [StorageEntry] \x7b",
  "    let account = getAuthAccount<auth(Storage, Capabilities) &Account>(address)",
  "    let entries: [StorageEntry] = []",
  "",
  "    account.storage.forEachStored(fun (path: StoragePath, type: Type): Bool \x7b",
  "        entries.append(StorageEntry(path: path.toString(), type: type, targetPath: nil))",
  "        return true",
  "    \x7d)",
  "",
  "    // Link targets are not exposed anymore, a published capability points at itself.",
  "    account.storage.forEachPublic(fun (path: PublicPath, type: Type): Bool \x7b",
  "        let target: String? = account.capabilities.exists(path) ? path.toString() : nil",
  "        entries.append(StorageEntry(path: path.toString(), type: type, targetPath: target))",
  "        return true",
  "    \x7d)",
  "",
  "    return entries",
  "\x7d",
  ""]

/-- The body of the request that runs a script with arguments. -/
def scriptRequest (script : String) (arguments : List Json) : Json :=
  .sorted [
    ("script", .text (Text.Base64.encode (Text.Utf8.encode script))),
    ("arguments", .texts (arguments.map Cadence.encodeDocument))]

/-- The item that an entry of a listing describes, for the account with a canonical address. -/
def storageItem (address : String) (entry : Json) : Except GatewayError StorageItem :=
  match (entry.part "path").text? with
  | none => .error (.decode .noPath)
  | some path =>
    match StorageDomain.ofPath path with
    | .error e => .error (.decode (.path e))
    | .ok domain => .ok {
        id := StorageItem.idOf address path
        address
        path
        domain
        targetPath := (entry.part "targetPath").text?
        data := .record [("type", entry.part "type")]
        stamps := Stamps.unset }

/-- The items that a listing describes, for the account with an address in any spelling. -/
def storageItems (address : String) (listing : Json) : Except GatewayError (List StorageItem) :=
  match listing.items? with
  | none => .error (.decode .noListing)
  | some entries => entries.mapM (storageItem (Address.canonical address))

end ChainFeed.Payload
