import ChainFeed.Index.Store
import ChainFeed.Service.Query
import ChainFeed.Service.Route
import ChainFeed.Service.Target

/-!
# Answering requests

The service shows a store to its clients. It only reads: a request with another method than `GET`
finds nothing, and neither does one whose path leads nowhere. An answer about resources is JSON, and
so is the error that a resource does not exist.
-/

namespace ChainFeed.Service

/-- A request of a client. -/
structure Request where
  /-- The method. -/
  method : String
  /-- What the request is for. -/
  target : Target
  deriving DecidableEq, Repr

/-- Whether a character may stand in the name of a method. -/
def isMethodChar (c : Char) : Bool :=
  c.isAlphanum || "!#$%&'*+-.^_\x60|~".toList.contains c

/-- The request with a method and a target as they are written, if they make one. -/
def Request.ofTexts? (method target : String) : Option Request :=
  if method.isEmpty || !method.toList.all isMethodChar then none
  else (Target.parse? target).map (Request.mk method)

/-- The answer to a request. -/
structure Answer where
  /-- The status code. -/
  status : Nat
  /-- The body, if it is JSON. -/
  body : Option Json
  deriving Repr

namespace Answer

/-- The answer that holds a value. -/
def ok (body : Json) : Answer := ⟨200, some body⟩

/-- The answer to a request that leads nowhere. -/
def nowhere : Answer := ⟨404, none⟩

/-- The answer to a request whose query makes no sense. -/
def badQuery : Answer := ⟨400, none⟩

/-- The answer to a request for something that an index refuses. -/
def ofError (e : IndexError) : Answer :=
  ⟨if e.isNotFound then 404 else 500, some (.record [("error", .text e.message)])⟩

end Answer

/-! ### Questions about one index -/

variable {R : Type} [Resource R]

/-- All resources of an index. -/
def answerList (index : Index R) : Answer :=
  .ok (.list (index.toList.map Resource.toJson))

/-- One resource of an index. -/
def answerFind (id : String) (index : Index R) : Answer :=
  match index.find id with
  | .ok resource => .ok (Resource.toJson resource)
  | .error e => .ofError e

/-- The resources of an index that changed. -/
def answerPoll (query : PollingQuery) (index : Index R) : Answer :=
  .ok (index.poll query).toJson

/-- The resources of an index that changed and fulfil a condition. -/
def answerPollWhere (query : PollingQuery) (keep : R → Bool) (index : Index R) : Answer :=
  .ok (index.pollWhere query keep).toJson

/-! ### Questions about a store -/

/-- All resources of a kind. -/
def listOf (kind : Kind) (store : Store) : Answer :=
  match kind with
  | .account => answerList store.accounts
  | .block => answerList store.blocks
  | .transaction => answerList store.transactions
  | .event => answerList store.events
  | .contract => answerList store.contracts
  | .storageItem => answerList store.storage

/-- One resource of a kind. -/
def findOf (kind : Kind) (id : String) (store : Store) : Answer :=
  match kind with
  | .account => answerFind id store.accounts
  | .block => answerFind id store.blocks
  | .transaction => answerFind id store.transactions
  | .event => answerFind id store.events
  | .contract => answerFind id store.contracts
  | .storageItem => answerFind id store.storage

/-- The resources of a kind that changed. -/
def pollOf (kind : Kind) (query : PollingQuery) (store : Store) : Answer :=
  match kind with
  | .account => answerPoll query store.accounts
  | .block => answerPoll query store.blocks
  | .transaction => answerPoll query store.transactions
  | .event => answerPoll query store.events
  | .contract => answerPoll query store.contracts
  | .storageItem => answerPoll query store.storage

/-- What a store answers to a route with a question; listing and finding do not look at the
question. -/
def answerRoute (store : Store) (query : PollingQuery) : Route → Answer
  | .list kind => listOf kind store
  | .find kind id => findOf kind id store
  | .poll kind => pollOf kind query store
  | .accountStorage address =>
    answerPollWhere query (fun (item : StorageItem) => item.address == Address.canonical address)
      store.storage
  | .accountContracts address =>
    answerPollWhere query
      (fun (contract : Contract) => contract.address == Address.canonical address) store.contracts
  | .accountTransactions address =>
    answerPollWhere query
      (fun (transaction : Transaction) =>
        transaction.participants.contains (Address.canonical address)) store.transactions
  | .blockTransactions id =>
    answerPollWhere query (fun (transaction : Transaction) => transaction.blockId == id)
      store.transactions
  | .transactionEvents id =>
    answerPollWhere query (fun (event : Event) => event.transactionId == id) store.events

/-- Whether a route asks a question about changes. -/
def Route.isPolling : Route → Bool
  | .list _ | .find .. => false
  | _ => true

/-- The answer of a store to a request. -/
def answer (store : Store) (request : Request) : Answer :=
  match if request.method = "GET" then Route.ofPath? request.target.path else none with
  | none => .nowhere
  | some route =>
    if route.isPolling then
      match pollingQuery? request.target.query with
      | some query => answerRoute store query route
      | none => .badQuery
    else answerRoute store ⟨0⟩ route

end ChainFeed.Service
