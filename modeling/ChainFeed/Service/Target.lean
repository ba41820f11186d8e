import ChainFeed.Text.Pieces
import ChainFeed.Text.Utf8

/-!
# Targets of requests

A request names what it is for by a **target**: a path, perhaps with a query behind a question mark;
the same behind a scheme and an authority; an authority alone, which has no path; or an asterisk. A
fragment at the end counts for nothing. Which characters may stand where is laid down in ASCII: a
target with any other character, or one that is too long, is none.
-/

namespace ChainFeed.Service

/-- What a request is for. -/
structure Target where
  /-- The path as it was sent. -/
  path : String
  /-- The query as it was sent, empty if there was none. -/
  query : String
  deriving DecidableEq, Repr

namespace Target

/-- How many bytes a target may have. -/
def longest : Nat := 65534

/-- How many characters a scheme may have. -/
def longestScheme : Nat := 64

/-- Whether a character is printable ASCII other than the blank. -/
def isPrintable (c : Char) : Bool := '!' ≤ c && c ≤ '~'

/-- Whether a character may stand in a path. -/
def isPathChar (c : Char) : Bool := isPrintable c && ['#', '<', '>', '?', '\x60'].all (· ≠ c)

/-- Whether a character may stand in a query. -/
def isQueryChar (c : Char) : Bool := isPrintable c && ['"', '#', '<', '>'].all (· ≠ c)

/-- Whether a character may stand in a scheme. -/
def isSchemeChar (c : Char) : Bool :=
  c.isAlphanum || ['+', '-', '.', '~'].contains c

/-- Whether a character may stand in an authority without further ado. -/
def isPlain (c : Char) : Bool :=
  c.isAlphanum || "!$&'()*+,-.;=_~".toList.contains c

/-- Whether an authority ends in front of a character. -/
def endsAuthority (c : Char) : Bool := ['/', '?', '#'].contains c

/-! ### Authorities -/

/-- What was seen of an authority. -/
structure Authority where
  /-- The number of colons behind the last at sign and the last closing bracket. -/
  colons : Nat
  /-- Whether there was an opening bracket. -/
  opened : Bool
  /-- Whether there was a closing bracket. -/
  closed : Bool
  /-- Whether there was a percent sign behind the last at sign and the last closing bracket. -/
  escaped : Bool
  deriving DecidableEq, Repr

namespace Authority

/-- What was seen behind one more character. Brackets hold at most eight colons. -/
def step (seen : Authority) (c : Char) : Option Authority :=
  if c = ':' then if 8 ≤ seen.colons then none else some { seen with colons := seen.colons + 1 }
  else if c = '[' then
    if seen.escaped || seen.opened then none else some { seen with opened := true }
  else if c = ']' then
    if !seen.opened || seen.closed then none else some ⟨0, true, true, false⟩
  else if c = '@' then some { seen with colons := 0, escaped := false }
  else if c = '%' then some { seen with escaped := true }
  else if isPlain c then some seen
  else none

/-- Whether the characters are an authority: one pair of brackets at most, one colon behind the
host, escapes only in the part in front of an at sign, and a host behind that. -/
def accepts (cs : List Char) : Bool :=
  match cs.foldlM step ⟨0, false, false, false⟩ with
  | some seen =>
    seen.opened == seen.closed && seen.colons ≤ 1 && !seen.escaped && cs.getLast? != some '@'
  | none => false

end Authority

/-! ### Reading -/

/-- The target that a path and a query make. An empty path is the root. -/
def ofPath? (cs : List Char) : Option Target :=
  let (path, query) := Text.cut '?' (Text.cut '#' cs).1
  let query := query.getD []
  if path.all isPathChar && query.all isQueryChar then
    some ⟨if path.isEmpty then "/" else String.ofList path, String.ofList query⟩
  else none

/-- The characters behind the scheme and two slashes, if a scheme is in front. -/
def behindScheme? (cs : List Char) : Option (List Char) :=
  let name := cs.takeWhile isSchemeChar
  match cs.drop name.length with
  | ':' :: '/' :: '/' :: rest => some rest
  | _ => none

/-- The target that a text writes. -/
def parse? (text : String) : Option Target :=
  let cs := text.toList
  if longest < (Text.Utf8.encode text).length then none
  else if cs = ['*'] then some ⟨"*", ""⟩
  else if cs.head? = some '/' then ofPath? cs
  else
    match behindScheme? cs with
    | none => if !cs.isEmpty && Authority.accepts cs then some ⟨"", ""⟩ else none
    | some rest =>
      let authority := rest.takeWhile (!endsAuthority ·)
      if longestScheme < (cs.takeWhile isSchemeChar).length then none
      else if !authority.isEmpty && Authority.accepts authority then
        ofPath? (rest.drop authority.length)
      else none

end Target

end ChainFeed.Service
