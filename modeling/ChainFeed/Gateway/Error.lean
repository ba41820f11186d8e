import ChainFeed.Resource.StorageItem
import ChainFeed.Time.Span

/-!
# What can go wrong at a gateway

A gateway answers questions about the chain. Data that do **not exist** yet are told apart from
failures, and failures that are expected to go away on their own are **transient**.
-/

namespace ChainFeed

/-- Why an answer of the chain cannot be decoded. -/
inductive DecodeError where
  /-- A part is not written in the encoding that it should be in. -/
  | encoding
  /-- The gateway's URL has no endpoints. -/
  | noEndpoint
  /-- The body of the answer of an endpoint does not have the form that it should have. -/
  | body (endpoint : String)
  /-- The time of a block is no time. -/
  | blockTime (id : String)
  /-- The stage of a transaction's execution has no known name. -/
  | executionStatus (e : UnknownName)
  /-- The listing of an account's storage is no list. -/
  | noListing
  /-- An entry of a listing has no path. -/
  | noPath
  /-- A path in a listing has no domain. -/
  | path (e : StorageDomain.Error)
  /-- Another reason. -/
  | other (text : String)
  deriving DecidableEq, Repr

namespace DecodeError

/-- The reason in words, where there is more to say than that a part is malformed. -/
def reason? : DecodeError → Option String
  | encoding | noEndpoint => none
  | body endpoint => some (endpoint ++ ":")
  | blockTime id => some ("block " ++ id ++ " timestamp:")
  | executionStatus e => some e.message
  | noListing => some "storage listing is not an array"
  | noPath => some "storage entry without path"
  | path e => some e.message
  | other text => some text

end DecodeError

/-- Why a gateway gives no answer. -/
inductive GatewayError where
  /-- The chain does not hold what was asked for. -/
  | notFound (what : String)
  /-- The chain cannot be reached. -/
  | transport
  /-- The chain answered with a status that tells no answer. -/
  | unexpectedStatus (status : Nat) (body : String)
  /-- The chain's answer cannot be decoded. -/
  | decode (e : DecodeError)
  /-- The answer took too long. -/
  | timeout (limit : Span)
  deriving DecidableEq, Repr

namespace GatewayError

/-- The text of the error. -/
def message : GatewayError → String
  | notFound what => what ++ " not found"
  | transport => "Transport error"
  | unexpectedStatus status body =>
    "Unexpected response status " ++ toString status ++ ": " ++ body
  | decode e =>
    "Failed to decode gateway response:" ++ (e.reason?.map (" " ++ ·)).getD ""
  | timeout limit => "Gateway request did not complete within " ++ limit.brief

/-- Whether the error says that the chain does not hold what was asked for. -/
def isNotFound : GatewayError → Bool
  | notFound _ => true
  | _ => false

/-- Whether the failure is expected to go away on its own. -/
def isTransient : GatewayError → Bool
  | transport | timeout _ => true
  | unexpectedStatus status _ => status == 429 || 500 ≤ status
  | notFound _ | decode _ => false

end GatewayError

end ChainFeed
