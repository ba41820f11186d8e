import ChainFeed.Resource.Basic
import ChainFeed.Text.Percent

/-!
# Routes

What a request asks for is in its path. Every kind of resource has a path of its own: by itself it
lists the resources, with `/polling` it asks for those that changed, and with anything else behind a
slash it asks for one resource by its id. Some kinds have further paths that end in `/polling` and
ask for what belongs to one resource.

A path is decoded twice. The first decoding, which finds the route, keeps the escapes of slashes,
plus signs and percent signs, so an escaped slash never separates parts of a path; the second one
reads the id or address in what the route found.
-/

namespace ChainFeed.Service

/-- What a request asks for. -/
inductive Route where
  /-- All resources of a kind. -/
  | list (kind : Kind)
  /-- The resources of a kind that changed. -/
  | poll (kind : Kind)
  /-- The resource of a kind with an id. -/
  | find (kind : Kind) (id : String)
  /-- The storage items of an account that changed. -/
  | accountStorage (address : String)
  /-- The contracts of an account that changed. -/
  | accountContracts (address : String)
  /-- The transactions that changed in which an account takes part. -/
  | accountTransactions (address : String)
  /-- The transactions of a block that changed. -/
  | blockTransactions (id : String)
  /-- The events of a transaction that changed. -/
  | transactionEvents (id : String)
  deriving DecidableEq, Repr

namespace Route

/-- The path of a kind. -/
def scope : Kind → String
  | .account => "/accounts"
  | .block => "/blocks"
  | .transaction => "/transactions"
  | .event => "/events"
  | .contract => "/contracts"
  | .storageItem => "/storage"

/-- What is behind the path `scope`, if the path leads there: nothing, or something that starts with
a slash. -/
def behind? (scope path : List Char) : Option (List Char) :=
  if scope.isPrefixOf path then
    match path.drop scope.length with
    | [] => some []
    | '/' :: rest => some ('/' :: rest)
    | _ => none
  else none

/-- The part of a path between its first slash and `ending`, if it is not empty and holds no slash.
-/
def owner? (ending : String) (path : List Char) : Option String :=
  match path with
  | '/' :: rest =>
    let part := rest.takeWhile (· ≠ '/')
    if !part.isEmpty ∧ rest.drop part.length = ending.toList then some (String.ofList part)
    else none
  | _ => none

/-- The further routes of a kind, by what is behind the path of the kind. -/
def further? (kind : Kind) (path : List Char) : Option Route :=
  let owned (ending : String) (route : String → Route) : Option Route :=
    (owner? ending path).map fun part => route (Text.Percent.decode part)
  match kind with
  | .account =>
    owned "/storage/polling" accountStorage <|>
    owned "/contracts/polling" accountContracts <|>
    owned "/transactions/polling" accountTransactions
  | .block => owned "/transactions/polling" blockTransactions
  | .transaction => owned "/events/polling" transactionEvents
  | _ => none

/-- The route of a kind, by what is behind the path of the kind. -/
def within (kind : Kind) (path : List Char) : Route :=
  if path = [] then list kind
  else if path = "/polling".toList then poll kind
  else
    (further? kind path).getD (find kind (Text.Percent.decode (String.ofList (path.drop 1))))

/-- Whether the first decoding of a path keeps the escape of a byte: slashes, plus and percent
signs. -/
def keepsEscape (b : UInt8) : Bool :=
  b == 37 || b == 43 || b == 47

/-- The route of a path. -/
def ofPath? (path : String) : Option Route :=
  let path := (Text.Percent.decodeKeeping keepsEscape path).toList
  Kind.all.findSome? fun kind => (behind? (scope kind).toList path).map (within kind)

end Route

end ChainFeed.Service
