import ChainFeed.Credentials
import ChainFeed.Gateway.Backoff
import ChainFeed.Time.Span
import ChainFeed.Url.Parse

/-!
# Access nodes

An **access node** is a server that knows the chain. A request to it goes to an endpoint relative to
the node's URL, and may be made again, after a delay, as long as there is time left. Everything but
the URL has a default.
-/

namespace ChainFeed

/-- How to reach an access node. -/
structure AccessNode where
  /-- Where the node is. -/
  addr : Url
  /-- Who is asking. -/
  auth : Option Credentials
  /-- How requests are made again. -/
  backoff : Backoff
  /-- How long a request may take, with all its attempts. -/
  requestTimeout : Span
  deriving Repr

namespace AccessNode

/-- How long a request may take unless it is said otherwise. -/
def standardTimeout : Span := Span.ofSeconds 30

/-- The node at a URL, with defaults for everything else. -/
def standard (addr : Url) : AccessNode := ⟨addr, none, Backoff.standard, standardTimeout⟩

/-- The written form of how to reach a node. -/
def toJson (node : AccessNode) : Json :=
  .record ([("addr", .text node.addr.text)] ++
    (node.auth.map fun auth => ("auth", auth.toJson)).toList ++ [
    ("backoff", node.backoff.toJson),
    ("request_timeout", .text node.requestTimeout.text)])

/-- Reads a URL. -/
def readUrl : Reader Url := fun d => d.readText.bind Url.parse?

/-- The names of a node's fields. -/
def fieldNames : List String := ["addr", "auth", "backoff", "request_timeout"]

/-- Reads how to reach a node. -/
def read : Reader AccessNode := fun d => do
  let slot ← d.slots fieldNames
  some {
    addr := ← (slot "addr").required readUrl
    auth := ← (slot "auth").orNull Credentials.read
    backoff := ← (slot "backoff").orElse Backoff.read Backoff.standard
    requestTimeout := ← (slot "request_timeout").orElse Span.read standardTimeout }

/-- Whether a field can be read. -/
def accepts (name : String) (d : Doc) : Bool :=
  match name with
  | "addr" => (readUrl d).isSome
  | "auth" => (Slot.orNull Credentials.read (.given d)).isSome
  | "backoff" => (Backoff.read d).isSome
  | _ => (Span.read d).isSome

/-- Whether the first field that cannot be read is a span without room for a carry. -/
def carries (d : Doc) : Bool :=
  match d.firstRefused? fieldNames accepts with
  | some ("request_timeout", d) => Span.carries d
  | _ => false

end AccessNode

end ChainFeed
