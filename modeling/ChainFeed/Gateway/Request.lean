import ChainFeed.Gateway.AccessNode
import ChainFeed.Gateway.Error
import ChainFeed.Gateway.Wire
import ChainFeed.Text.Marked

/-!
# Requests to an access node

A request to an endpoint takes one **attempt** or several. What an attempt comes to follows from the
exchange on the wire: a reply with a status of success holds the answer, the status 404 says that
what was asked for does not exist, and all else is an error. An attempt whose error is transient is
made again after a delay, as often as the backoff allows and as long as there is time left.
-/

namespace ChainFeed

/-- What asks a gateway or a server with states in `σ` and ends with an answer or an error. -/
abbrev Asking (σ : Type) := ExceptT GatewayError (StateM σ)

namespace AccessNode

variable {σ α : Type}

/-- What arrives of a reply's body: replies with the statuses 204 and 304 have none. -/
def arriving (status : Nat) (body : List UInt8) : List UInt8 :=
  if status = 204 ∨ status = 304 then [] else body

/-- What an exchange comes to in a request to an endpoint whose answers `read` takes: an answer, an
error, or nothing at all. The text of a body with an unexpected status is in UTF-8 unless the body
begins with another mark, as it is if no header names a charset. -/
def outcome (endpoint : String) (read : Reader α) : Exchange → Option (Except GatewayError α)
  | .silent => none
  | .broken => some (.error .transport)
  | .reply status body =>
    if status = 404 then some (.error (.notFound endpoint))
    else if 200 ≤ status ∧ status < 300 then
      match (Doc.ofBytes? (arriving status body)).bind read with
      | some answer => some (.ok answer)
      | none => some (.error (.decode (.body endpoint)))
    else some (.error (.unexpectedStatus status (Text.decodeMarked (arriving status body))))

/-- Whether an outcome is worth another attempt. -/
def isTransient : Except GatewayError α → Bool
  | .error e => e.isTransient
  | .ok _ => false

/-- The outcome of the last attempt, if an attempt is made again up to `retries` times while its
outcome is transient and there is time left. -/
def attempts (limit : Span) (attempt : σ → Option (Except GatewayError α) × σ) (retries : Nat)
    (delays : Delays) (left : Nat) (server : σ) : Except GatewayError α × σ :=
  if left = 0 then (.error (.timeout limit), server)
  else
    match attempt server with
    | (none, server) => (.error (.timeout limit), server)
    | (some result, server) =>
      match retries with
      | 0 => (result, server)
      | retries + 1 =>
        if isTransient result then
          attempts limit attempt retries delays.step
            (left - (Span.ofMillis delays.current).nanoseconds) server
        else (result, server)

/-! ### Requests -/

/-- The URL of an endpoint, with a query. -/
def endpointUrl? (node : AccessNode) (endpoint : String) (query : List (String × String)) :
    Option Url :=
  (node.addr.resolve? endpoint).map (Url.addQuery query)

/-- The request to a URL. -/
def requestTo (node : AccessNode) (url : Url) (body : Option Json) : WireRequest where
  method := if body.isSome then "POST" else "GET"
  path := url.path.text
  query := url.query
  authorization := node.auth.map Credentials.header
  body := body

/-- Whether requests can be made to a URL. -/
def isReachable (url : Url) : Bool := url.scheme == "http" || url.scheme == "https"

/-- Makes a request to an endpoint whose answers `read` takes. -/
def request (node : AccessNode) (wire : Wire σ) (endpoint : String)
    (query : List (String × String)) (body : Option Json) (read : Reader α) : Asking σ α :=
  fun server =>
    match node.endpointUrl? endpoint query with
    | none => (.error (.decode .noEndpoint), server)
    | some url =>
      let attempt (server : σ) : Option (Except GatewayError α) × σ :=
        let (exchange, server) :=
          if isReachable url then wire.send (node.requestTo url body) server
          else (.broken, server)
        (outcome endpoint read exchange, server)
      attempts node.requestTimeout attempt node.backoff.maxRetries (Delays.start node.backoff)
        node.requestTimeout.nanoseconds server

/-- Asks an endpoint. -/
def get (node : AccessNode) (wire : Wire σ) (endpoint : String) (query : List (String × String))
    (read : Reader α) : Asking σ α :=
  node.request wire endpoint query none read

/-- The answer, or the error that what was asked for does not exist. -/
def existing (what : String) : Option α → Asking σ α
  | some answer => pure answer
  | none => throw (.notFound what)

end AccessNode

end ChainFeed
