import ChainFeed.Service.Answer

/-!
# Requests from other origins

A browser tells the service from which **origin** a request comes, and shows the answer to a page of
that origin only if the answer allows it. Every origin is allowed. Before unusual requests the
browser asks, in a **preflight**, whether their method and headers are allowed; a preflight is
answered without a look at its path.
-/

namespace ChainFeed.Service

/-- The headers of a request that say where it comes from and what a preflight asks for. -/
structure OriginHeaders where
  /-- Where the request comes from. -/
  origin : Option String
  /-- The method that a preflight asks for. -/
  wantedMethod : Option String
  /-- The names of the headers that a preflight asks for, separated by commas. -/
  wantedHeaders : Option String
  deriving DecidableEq, Repr

/-- What the answer to a preflight allows. -/
structure Allowance where
  /-- The methods. -/
  methods : List String
  /-- The names of the headers. -/
  headers : List String
  /-- How many seconds a browser may remember the answer. -/
  maxAge : Nat
  deriving DecidableEq, Repr

/-- An answer with what it says to browsers. -/
structure SharedAnswer where
  /-- The answer. -/
  answer : Answer
  /-- The origin that may see the answer. -/
  origin : Option String
  /-- What is allowed, in the answer to a preflight. -/
  allowance : Option Allowance
  deriving Repr

namespace Cors

/-- What the service allows: every standard method, and two headers besides those that are always
allowed. -/
def allowance : Allowance where
  methods := ["CONNECT", "DELETE", "GET", "HEAD", "OPTIONS", "PATCH", "POST", "PUT", "TRACE"]
  headers := ["accept", "authorization"]
  maxAge := 3600

/-- Whether a character may surround a name in a list. -/
def isPadding (c : Char) : Bool := c == ' ' || c == '\t'

/-- A name of a header without what surrounds it, in lowercase. Such names are ASCII. -/
def headerName (piece : List Char) : String :=
  let trimmed := ((piece.dropWhile isPadding).reverse.dropWhile isPadding).reverse
  String.ofList (trimmed.map Char.toLower)

/-- The names of headers in a list that is separated by commas. -/
def headerNames (list : String) : List String :=
  (Text.pieces (· = ',') list.toList).map headerName

/-- Whether what a preflight asks for is allowed. -/
def isAllowed (method : String) (headers : Option String) : Bool :=
  allowance.methods.contains method &&
    ((headers.map headerNames).getD []).all allowance.headers.contains

/-- The answer to a preflight from an origin. -/
def preflight (origin method : String) (headers : Option String) : SharedAnswer :=
  if isAllowed method headers then ⟨⟨200, none⟩, some origin, some allowance⟩
  else ⟨⟨400, none⟩, none, none⟩

/-- The answer of a store to a request that a browser may have sent. -/
def answer (store : Store) (request : Request) (headers : OriginHeaders) : SharedAnswer :=
  match request.method, headers.origin, headers.wantedMethod with
  | "OPTIONS", some origin, some method => preflight origin method headers.wantedHeaders
  | _, origin, _ => ⟨Service.answer store request, origin, none⟩

end Cors

end ChainFeed.Service
