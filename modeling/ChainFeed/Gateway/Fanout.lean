import ChainFeed.Gateway.Calls

/-!
# Requests side by side

The next attempt of a request is **due**, or the request is **awaiting** the end of an exchange, or
it has **ended**. What happens to it next is an **act**: an attempt is made, the end of an exchange
arrives, or the time of the request is over.

The results of a block's transactions are requested side by side, in a **fan-out**: only so many
requests are under way at a time, in the order of the transactions, and a result that comes early
waits until all results before it are collected. When the attempts are made and when the ends of
their exchanges arrive is not determined, so the **moves** of a fan-out may come in any order. It
comes to an outcome when every result is collected, or when the next result to collect is an error;
after that, nothing is asked any more.
-/

namespace ChainFeed

/-- The next attempt of a request to a URL. -/
structure Trial where
  /-- The URL. -/
  url : Url
  /-- How often the request may be made again after it. -/
  retries : Nat
  /-- The delay before the attempt after it, and the one after that. -/
  delays : Delays
  /-- How many nanoseconds are left, as far as delays have taken them. -/
  left : Nat
  deriving Repr

/-- Where a request stands. -/
inductive Standing (α : Type) where
  /-- An attempt is to be made. -/
  | due (trial : Trial)
  /-- An attempt was made, and the end of its exchange has not arrived. -/
  | awaiting (trial : Trial) (exchange : Exchange)
  /-- The request came to a result. -/
  | ended (result : Except GatewayError α)

/-- Whether the request came to a result. -/
def Standing.hasEnded {α : Type} : Standing α → Bool
  | .ended _ => true
  | _ => false

/-- What can happen to a request. -/
inductive Act where
  /-- An attempt is made. -/
  | send
  /-- The end of the exchange arrives. -/
  | arrive
  /-- The time of the request is over. -/
  | expire
  deriving DecidableEq, Repr

/-! ### One request -/

/-- Where a request stands when it is known what an attempt comes to. -/
def Trial.next {α : Type} (limit : Span) (trial : Trial) :
    Option (Except GatewayError α) → Standing α
  | none => .ended (.error (.timeout limit))
  | some result =>
    match trial.retries with
    | 0 => .ended result
    | retries + 1 =>
      if AccessNode.isTransient result then
        .due { trial with
          retries
          delays := trial.delays.step
          left := trial.left - (Span.ofMillis trial.delays.current).nanoseconds }
      else .ended result

namespace AccessNode

variable {σ α : Type}

/-- The exchange of one attempt of a request to a URL. -/
def exchange (node : AccessNode) (wire : Wire σ) (url : Url) (body : Option Json) (server : σ) :
    Exchange × σ :=
  if isReachable url then wire.send (node.requestTo url body) server else (.broken, server)

/-- Where a request to an endpoint stands at first. -/
def begun (node : AccessNode) (endpoint : String) (query : List (String × String)) : Standing α :=
  match node.endpointUrl? endpoint query with
  | none => .ended (.error (.decode .noEndpoint))
  | some url =>
    .due ⟨url, node.backoff.maxRetries, Delays.start node.backoff, node.requestTimeout.nanoseconds⟩

/-- Where a request to an endpoint, whose answers `read` takes, stands after an act. An act that
does not go with where the request stands changes nothing. -/
def act (node : AccessNode) (wire : Wire σ) (endpoint : String) (read : Reader α) (act : Act)
    (standing : Standing α) (server : σ) : Standing α × σ :=
  match act, standing with
  | .send, .due trial =>
    if trial.left = 0 then (.ended (.error (.timeout node.requestTimeout)), server)
    else
      let (exchange, server) := node.exchange wire trial.url none server
      (.awaiting trial exchange, server)
  | .arrive, .awaiting trial exchange =>
    (trial.next node.requestTimeout (outcome endpoint read exchange), server)
  | .expire, .due _ | .expire, .awaiting _ _ =>
    (.ended (.error (.timeout node.requestTimeout)), server)
  | _, standing => (standing, server)

end AccessNode

/-! ### Many requests -/

/-- Requests for items, with the server that they go to. -/
structure Fanout (σ ι α : Type) where
  /-- The items in order, with where the request for each of them stands. -/
  flights : List (ι × Standing α)
  /-- How many results are collected. -/
  collected : Nat
  /-- The state of the server. -/
  server : σ

/-- What can happen to a fan-out. -/
inductive Move where
  /-- Something happens to the request for an item. -/
  | fly (act : Act) (index : Nat)
  /-- The next result is collected. -/
  | collect
  deriving DecidableEq, Repr

namespace Fanout

variable {σ ι α : Type}

/-- The answer that a request came to. -/
def answer? : ι × Standing α → Option (ι × α)
  | (item, .ended (.ok answer)) => some (item, answer)
  | _ => none

/-- What the fan-out came to: all items with their answers, or the first error in order. -/
def outcome? (fanout : Fanout σ ι α) : Option (Except GatewayError (List (ι × α))) :=
  match fanout.flights[fanout.collected]? with
  | none => some (.ok (fanout.flights.filterMap answer?))
  | some (_, .ended (.error e)) => some (.error e)
  | some _ => none

/-- The flight that a move concerns, with at most `limit` requests under way, if the move can be
made: no move can after the outcome, and only a result that has come is collected. -/
def flight? (limit : Nat) (fanout : Fanout σ ι α) (move : Move) : Option (ι × Standing α) :=
  if fanout.outcome?.isSome then none
  else
    match move with
    | .fly _ index =>
      if index < fanout.collected + limit then fanout.flights[index]? else none
    | .collect => fanout.flights[fanout.collected]?.filter fun flight => flight.2.hasEnded

/-- The fan-out after a move. A move that cannot be made changes nothing. -/
def move (step : ι → Act → Standing α → σ → Standing α × σ) (limit : Nat) (fanout : Fanout σ ι α)
    (m : Move) : Fanout σ ι α :=
  match fanout.flight? limit m with
  | none => fanout
  | some (item, standing) =>
    match m with
    | .fly act index =>
      let (standing, server) := step item act standing fanout.server
      { fanout with flights := fanout.flights.set index (item, standing), server }
    | .collect => { fanout with collected := fanout.collected + 1 }

/-- The fan-out after some moves. -/
def run (step : ι → Act → Standing α → σ → Standing α × σ) (limit : Nat) (fanout : Fanout σ ι α)
    (moves : List Move) : Fanout σ ι α :=
  moves.foldl (move step limit) fanout

end Fanout

/-! ### What a block carries -/

namespace AccessNode

variable {σ : Type}

open Payload

/-- The transactions that the collections of a block list, in order. -/
def listed (node : AccessNode) (wire : Wire σ) (blockId : String) :
    Asking σ (List WrittenTransaction) := do
  let block ← node.firstBlock wire ("v1/blocks/" ++ blockId) [("expand", "payload")]
    ("block " ++ blockId)
  let collections ← block.body.guarantees.mapM fun g => node.collection wire g.collectionId
  return collections.flatten

/-- The endpoint of a transaction's result. -/
def resultEndpoint (transaction : WrittenTransaction) : String :=
  "v1/transaction_results/" ++ transaction.id

/-- Where the request for a transaction's result stands after an act. -/
def resultAct (node : AccessNode) (wire : Wire σ) (transaction : WrittenTransaction) :
    Act → Standing WrittenResult → σ → Standing WrittenResult × σ :=
  node.act wire (resultEndpoint transaction) WrittenResult.read

/-- The requests for the results of some transactions, before any of them is made. -/
def resultsDue (node : AccessNode) (transactions : List WrittenTransaction) (server : σ) :
    Fanout σ WrittenTransaction WrittenResult where
  flights := transactions.map fun t => (t, node.begun (resultEndpoint t) [])
  collected := 0
  server := server

/-- The requests for the results of some transactions after some moves. At least one request is
under way at a time. -/
def resultsAmid (node : AccessNode) (wire : Wire σ) (maxConcurrent : Nat) (moves : List Move)
    (transactions : List WrittenTransaction) (server : σ) :
    Fanout σ WrittenTransaction WrittenResult :=
  (node.resultsDue transactions server).run (node.resultAct wire) (max maxConcurrent 1) moves

/-- The transactions of a block with their results, if the requests for these have come to an
outcome after some moves. -/
def executedAmid (node : AccessNode) (wire : Wire σ) (maxConcurrent : Nat) (moves : List Move)
    (blockId : String) (server : σ) :
    Option (Except GatewayError (List (WrittenTransaction × WrittenResult))) × σ :=
  match node.listed wire blockId server with
  | (.error e, server) => (some (.error e), server)
  | (.ok transactions, server) =>
    let fanout := node.resultsAmid wire maxConcurrent moves transactions server
    (fanout.outcome?, fanout.server)

/-- What a block carries, if the requests for it have come to an outcome after some moves. -/
def contentsAmid (node : AccessNode) (wire : Wire σ) (maxConcurrent : Nat) (moves : List Move)
    (blockId : String) (server : σ) : Option (Except GatewayError BlockContents) × σ :=
  let (entries, server) := node.executedAmid wire maxConcurrent moves blockId server
  (entries.map fun entries => entries.bind (contentsOf blockId), server)

end AccessNode

end ChainFeed
