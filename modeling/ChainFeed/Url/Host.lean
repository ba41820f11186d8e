import ChainFeed.Text.Percent
import ChainFeed.Url.Domain
import ChainFeed.Url.Escape

/-!
# Hosts of URLs

The host of a URL with a special scheme is an address of four or sixteen bytes, or else a domain.
Any other host is opaque: it means only what its scheme says.
-/

namespace ChainFeed.Url

/-- The number that digits to a base spell, if all characters are such digits. -/
def ofDigits? (base : Nat) (cs : List Char) : Option Nat :=
  cs.foldlM (fun n c => do
    let d ← Text.hexDigit? c
    if d < base then some (n * base + d) else none) 0

/-- The host of a URL. -/
inductive Host where
  /-- No host: the part of the URL where it would stand is empty. -/
  | empty
  /-- A domain in ASCII. -/
  | domain (name : String)
  /-- An address of four bytes. -/
  | v4 (address : Nat)
  /-- An address of sixteen bytes, given by eight pieces of two bytes. -/
  | v6 (pieces : List Nat)
  /-- A host that means only what its scheme says. -/
  | opaqueName (name : String)
  deriving DecidableEq, Repr

namespace Host

/-! ### Addresses of four bytes -/

/-- A part of an address, in decimal, octal or hexadecimal digits. -/
def v4Part? : List Char → Option Nat
  | [] => none
  | '0' :: 'x' :: rest | '0' :: 'X' :: rest => ofDigits? 16 rest
  | '0' :: d :: rest => ofDigits? 8 (d :: rest)
  | cs => ofDigits? 10 cs

/-- The parts between the points, without an empty one at the end. -/
def v4Parts (cs : List Char) : List (List Char) :=
  let parts := Text.pieces (· = '.') cs
  if parts.getLast? = some [] ∧ 1 < parts.length then parts.dropLast else parts

/-- Whether a name ends in a number and so must be an address. -/
def endsInNumber (cs : List Char) : Bool :=
  match (v4Parts cs).getLast? with
  | some part => (!part.isEmpty && part.all Char.isDigit) || (v4Part? part).isSome
  | none => false

/-- The address that the parts make: the last one fills all bytes that the others leave. -/
def v4OfParts? : List Nat → Option Nat
  | [a] => if a < Text.word32 then some a else none
  | [a, b] => if a < 256 ∧ b < 1 <<< 24 then some (a <<< 24 + b) else none
  | [a, b, c] =>
    if a < 256 ∧ b < 256 ∧ c < 1 <<< 16 then some (a <<< 24 + b <<< 16 + c) else none
  | [a, b, c, d] =>
    if a < 256 ∧ b < 256 ∧ c < 256 ∧ d < 256 then
      some (a <<< 24 + b <<< 16 + c <<< 8 + d)
    else none
  | _ => none

/-- The address that a name spells. -/
def v4? (cs : List Char) : Option Nat := do
  v4OfParts? (← (v4Parts cs).mapM v4Part?)

/-- The text of an address. -/
def v4Text (address : Nat) : String :=
  String.intercalate "." ([24, 16, 8, 0].map fun shift => toString ((address >>> shift) % 256))

/-! ### Addresses of sixteen bytes -/

/-- A byte in decimal digits without leading zeros. -/
def byte? (cs : List Char) : Option Nat := do
  let n ← ofDigits? 10 cs
  if cs.isEmpty ∨ 255 < n ∨ (cs.head? = some '0' ∧ 1 < cs.length) then none else some n

/-- The piece that up to four hexadecimal digits spell. -/
def piece? (cs : List Char) : Option Nat :=
  if cs.isEmpty ∨ 4 < cs.length then none else ofDigits? 16 cs

/-- The pieces between colons; the last two may be written as four bytes. -/
def v6Side? : List (List Char) → Option (List Nat)
  | [] => some []
  | [last] =>
    if last.contains '.' then do
      match ← (Text.pieces (· = '.') last).mapM byte? with
      | [a, b, c, d] => some [a * 256 + b, c * 256 + d]
      | _ => none
    else do some [← piece? last]
  | cs :: rest => do some ((← piece? cs) :: (← v6Side? rest))

/-- The characters before and behind the first double colon, if there is one. -/
def cutGap : List Char → Option (List Char × List Char)
  | ':' :: ':' :: rest => some ([], rest)
  | c :: rest => (cutGap rest).map fun (before, behind) => (c :: before, behind)
  | [] => none

/-- The pieces of a side of a double colon, which may be empty. -/
def v6OpenSide? (cs : List Char) : Option (List Nat) :=
  if cs.isEmpty then some [] else v6Side? (Text.pieces (· = ':') cs)

/-- The address that a name between brackets spells. -/
def v6? (cs : List Char) : Option (List Nat) :=
  match cutGap cs with
  | none => do
    let pieces ← v6Side? (Text.pieces (· = ':') cs)
    if pieces.length = 8 then some pieces else none
  | some (before, behind) => do
    let left ← v6OpenSide? before
    let right ← v6OpenSide? behind
    if before.contains '.' ∨ 7 < left.length + right.length then none
    else some (left ++ List.replicate (8 - left.length - right.length) 0 ++ right)

/-- How many zeros the pieces start with. -/
def zeros (pieces : List Nat) : Nat := (pieces.takeWhile (· == 0)).length

/-- The first longest run of at least two zeros: where it starts and how long it is. -/
def longestZeros (pieces : List Nat) : Option (Nat × Nat) :=
  (List.range pieces.length).foldl (fun best i =>
    let n := zeros (pieces.drop i)
    if best.elim 1 (·.2) < n then some (i, n) else best) none

/-- Pieces with colons between them. -/
def v6Pieces (pieces : List Nat) : String :=
  String.intercalate ":" (pieces.map fun p => String.ofList (Nat.toDigits 16 p))

/-- The text of an address, without brackets. -/
def v6Text (pieces : List Nat) : String :=
  match longestZeros pieces with
  | none => v6Pieces pieces
  | some (start, n) => v6Pieces (pieces.take start) ++ "::" ++ v6Pieces (pieces.drop (start + n))

/-! ### Domains -/

/-- The host that the characters name in a URL with a special scheme. -/
def ofDomain? (cs : List Char) : Option Host := do
  let text ← Text.Percent.decode? (String.ofList cs)
  let name ← Domain.ascii? text.toList
  if name.isEmpty then none
  else if endsInNumber name then (v4? name).map v4
  else some (domain (String.ofList name))

/-- The host that the characters name. -/
def parse? (special : Bool) (cs : List Char) : Option Host :=
  match cs with
  | '[' :: rest =>
    if rest.getLast? = some ']' then (v6? rest.dropLast).map v6 else none
  | cs =>
    if special then ofDomain? cs
    else if cs.any Domain.isForbiddenInHost then none
    else if cs.isEmpty then some empty
    else some (opaqueName (escape escapedAlways cs))

/-- The text of a host. -/
def text : Host → String
  | empty => ""
  | domain name => name
  | v4 address => v4Text address
  | v6 pieces => "[" ++ v6Text pieces ++ "]"
  | opaqueName name => name

end Host

end ChainFeed.Url
