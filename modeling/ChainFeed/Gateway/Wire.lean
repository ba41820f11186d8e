import ChainFeed.Json.Doc
import ChainFeed.Text.Percent

/-!
# The wire

A **wire** carries requests to a server. An exchange ends with a reply, breaks, or never ends.
-/

namespace ChainFeed

/-- A request to a server. -/
structure WireRequest where
  /-- The method. -/
  method : String
  /-- The path. -/
  path : String
  /-- The query. -/
  query : Option String
  /-- The value of the authorization header, if there is one. -/
  authorization : Option String
  /-- The body, if there is one. -/
  body : Option Json
  deriving Repr

/-- How an exchange ends. The headers of a reply are left out: no answer depends on them, and of
errors only the text of a body whose status is unexpected would, if a header named its charset. -/
inductive Exchange where
  /-- The server replies with a status and a body. -/
  | reply (status : Nat) (body : List UInt8)
  /-- The connection does not come about, or breaks. -/
  | broken
  /-- The server never replies. -/
  | silent
  deriving DecidableEq, Repr

/-- A wire to a server with states in `σ`. -/
structure Wire (σ : Type) where
  /-- How the exchange for a request ends, and the state that the server is in afterwards. -/
  send : WireRequest → σ → Exchange × σ

/-- A wire that leads nowhere. -/
def Wire.dead {σ : Type} : Wire σ := ⟨fun _ server => (.broken, server)⟩

end ChainFeed
