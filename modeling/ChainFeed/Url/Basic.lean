import ChainFeed.Url.Host
import ChainFeed.Url.Path

/-!
# URLs

A URL is kept in its parts, each of them normalised: the scheme and the host in lowercase, no number
behind the host that the scheme implies, a path without dot segments, and everything escaped that
may not stand as it is. So the text of a URL reads back as the same URL.
-/

namespace ChainFeed

/-- A URL. -/
structure Url where
  /-- The scheme. -/
  scheme : String
  /-- The user name, empty if there is none. -/
  username : String
  /-- The password, empty if there is none. -/
  password : String
  /-- The host, if the URL has a place for one. -/
  host : Option Url.Host
  /-- The number behind the host, if it is not the one that the scheme implies. -/
  portNumber : Option Nat
  /-- The path. -/
  path : Url.Path
  /-- The query. -/
  query : Option String
  /-- The fragment. -/
  fragment : Option String
  deriving DecidableEq, Repr

namespace Url

/-- The special schemes with the numbers behind the host that they imply. -/
def specialSchemes : List (String × Option Nat) :=
  [("http", some 80), ("https", some 443), ("ws", some 80), ("wss", some 443), ("ftp", some 21),
   ("file", none)]

/-- Whether a scheme is special: its URLs have hosts that are domains or addresses. -/
def isSpecial (scheme : String) : Bool :=
  specialSchemes.any (·.1 == scheme)

/-- The number behind the host that a scheme implies. -/
def impliedNumber? (scheme : String) : Option Nat :=
  (specialSchemes.lookup scheme).getD none

/-! ### Text -/

/-- The text of the user name and the password, with the sign that separates them from the host. -/
def userText (url : Url) : String :=
  if url.username = "" ∧ url.password = "" then ""
  else url.username ++ (if url.password = "" then "" else ":" ++ url.password) ++ "@"

/-- The text between the scheme and the path. A path that starts with two slashes would be read as a
host, so without a host such a path gets a dot segment in front. -/
def authorityText (url : Url) : String :=
  match url.host, url.path with
  | some host, _ =>
    "//" ++ url.userText ++ host.text ++ (url.portNumber.map fun n => ":" ++ toString n).getD ""
  | none, .segments ("" :: _ :: _) => "/."
  | none, _ => ""

/-- The text of a URL. -/
def text (url : Url) : String :=
  url.scheme ++ ":" ++ url.authorityText ++ url.path.text ++
    (url.query.map ("?" ++ ·)).getD "" ++ (url.fragment.map ("#" ++ ·)).getD ""

end Url

end ChainFeed
