import ChainFeed.Decimal.Shortest
import ChainFeed.Text.Numeral

/-!
# Numbers of a JSON text

A number without fraction and exponent that fits into 64 bits is kept exactly: **natural** up to
`2 ^ 64 - 1`, **negative** down to `-2 ^ 63`. Every other number is a double-precision one, and so
is minus zero.

A double-precision number is read in two roundings: the leading digits that fit into 64 bits become
a magnitude, which is then multiplied or divided by a power of ten. A number beyond the format is
refused.
-/

namespace ChainFeed

open ChainFeed.Decimal ChainFeed.Text

/-- A number of a JSON text. -/
inductive JsonNumber where
  /-- The natural number `n`. -/
  | natural (n : Nat)
  /-- The negative number `-n`. -/
  | negative (n : Nat)
  /-- A double-precision number. -/
  | double (minus : Bool) (magnitude : Binary64)
  deriving DecidableEq, Repr

namespace JsonNumber

/-- Whether two numbers are the same: written in the same way and of one value, where the two
double-precision zeros are one. -/
def same : JsonNumber → JsonNumber → Bool
  | natural a, natural b => a == b
  | negative a, negative b => a == b
  | double s x, double t y => (s == t && x == y) || (x.isZero && y.isZero)
  | _, _ => false

/-! ### Reading -/

/-- The written parts of a number. -/
structure Spelling where
  /-- Whether a minus sign stands in front. -/
  minus : Bool
  /-- The digits in front of the point. -/
  whole : List Nat
  /-- The digits behind the point, if there is one. -/
  fraction : Option (List Nat)
  /-- The sign and the digits of the exponent, if there is one. -/
  exponent : Option (Bool × List Nat)

/-- The characters up to the first one that is no digit, as digits, and the rest. -/
def spanDigits : List Char → List Nat × List Char
  | [] => ([], [])
  | c :: rest =>
    match digit? c with
    | some d =>
      let (ds, after) := spanDigits rest
      (d :: ds, after)
    | none => ([], c :: rest)

/-- The fraction at the front of the characters, if a point starts one. -/
def spanFraction : List Char → Option (Option (List Nat) × List Char)
  | '.' :: rest =>
    match spanDigits rest with
    | ([], _) => none
    | (ds, after) => some (some ds, after)
  | cs => some (none, cs)

/-- The sign and the digits of an exponent behind its letter. -/
def spanExponentDigits (minus : Bool) (cs : List Char) :
    Option (Option (Bool × List Nat) × List Char) :=
  match spanDigits cs with
  | ([], _) => none
  | (ds, after) => some (some (minus, ds), after)

/-- The exponent at the front of the characters, if a letter starts one. -/
def spanExponent : List Char → Option (Option (Bool × List Nat) × List Char)
  | c :: rest =>
    if c = 'e' ∨ c = 'E' then
      match rest with
      | '-' :: rest => spanExponentDigits true rest
      | '+' :: rest => spanExponentDigits false rest
      | rest => spanExponentDigits false rest
    else some (none, c :: rest)
  | [] => some (none, [])

/-- The parts of a number without its sign: no leading zero, and digits wherever a point or an
exponent asks for them. -/
def spellUnsigned (minus : Bool) (cs : List Char) : Option Spelling :=
  match spanDigits cs with
  | ([], _) => none
  | (0 :: _ :: _, _) => none
  | (whole, rest) => do
    let (fraction, rest) ← spanFraction rest
    let (exponent, rest) ← spanExponent rest
    if rest.isEmpty then some ⟨minus, whole, fraction, exponent⟩ else none

/-- The parts of a number. -/
def spell : List Char → Option Spelling
  | '-' :: rest => spellUnsigned true rest
  | cs => spellUnsigned false cs

/-- The number that the leading digits extend `start` to while it fits into 64 bits, how many
digits were taken, and the digits left over. -/
def takeSignificant (start : Nat) : List Nat → Nat × Nat × List Nat
  | [] => (start, 0, [])
  | d :: rest =>
    if start * 10 + d < word64 then
      let (n, taken, left) := takeSignificant (start * 10 + d) rest
      (n, taken + 1, left)
    else (start, 0, d :: rest)

/-- The greatest exponent that is counted; from there on only its sign matters. -/
def exponentLimit : Nat := 1 <<< 31 - 1

/-- `magnitude * 10 ^ scale` for a scale that the table of powers holds. -/
def scaleOnce (magnitude : Binary64) (scale : Int) : Option Binary64 :=
  if 0 ≤ scale then do magnitude.mul? (← Binary64.powerOfTen? scale.toNat)
  else do magnitude.div? (← Binary64.powerOfTen? (-scale).toNat)

/-- `magnitude * 10 ^ scale`, in steps of `10 ^ 308` as long as the scale is below the table. -/
def scaleBy (magnitude : Binary64) (scale : Int) : Option Binary64 :=
  if -308 ≤ scale ∧ scale ≤ 308 then scaleOnce magnitude scale
  else if magnitude.isZero then some magnitude
  else if 0 ≤ scale then none
  else do scaleBy (← scaleOnce magnitude (-308)) (scale + 308)
termination_by (-scale).toNat

/-- The double-precision number of the significant digits `n` with a power of ten. -/
def scaled (minus : Bool) (n : Nat) (scale : Int) : Option JsonNumber := do
  let magnitude ← scaleBy (← Binary64.ofNat? n) scale
  some (double minus magnitude)

/-- The double-precision number of the significant digits `n`, a power of ten that the digits
brought along, and a written exponent. -/
def withExponent (minus : Bool) (n : Nat) (scale : Int) :
    Option (Bool × List Nat) → Option JsonNumber
  | none => scaled minus n scale
  | some (downwards, ds) =>
    let exponent := ofDigits ds
    if exponent ≤ exponentLimit then
      scaled minus n (if downwards then scale - exponent else scale + exponent)
    else if n ≠ 0 ∧ !downwards then none
    else some (double minus Binary64.zero)

/-- The exact number of digits that fit into 64 bits. -/
def exact (minus : Bool) (n : Nat) : Option JsonNumber :=
  if !minus then some (natural n)
  else if n = 0 ∨ 1 <<< 63 < n then scaled true n 0
  else some (negative n)

/-- The number of a spelling, unless it is beyond the format. -/
def ofSpelling (s : Spelling) : Option JsonNumber :=
  match takeSignificant 0 s.whole with
  | (n, _, []) =>
    match s.fraction, s.exponent with
    | none, none => exact s.minus n
    | none, exponent => withExponent s.minus n 0 exponent
    | some fraction, exponent =>
      let (n, taken, _) := takeSignificant n fraction
      withExponent s.minus n (-taken) exponent
  | (n, _, left) =>
    let scale : Int := left.length
    match s.fraction with
    | none => withExponent s.minus n scale s.exponent
    | some fraction =>
      let (n, taken, _) := takeSignificant n fraction
      withExponent s.minus n (scale - taken) s.exponent

/-! ### Writing -/

/-- The text of an exponent, which always has a sign. -/
def exponentText (n : Int) : String :=
  "e" ++ (if 0 ≤ n then "+" else "") ++ toString n

/-- The digits of a decimal with the point `place` digits from their start: positional between
`10 ^ -5` and `10 ^ 16`, and with an exponent outside. -/
def scaledText (x : Scaled) : String :=
  let digits := (Nat.toDigits 10 x.digits)
  let count := digits.length
  let place : Int := count + x.scale
  let zeros (n : Int) : List Char := List.replicate n.toNat '0'
  if 0 ≤ x.scale ∧ place ≤ 16 then String.ofList (digits ++ zeros x.scale ++ ['.', '0'])
  else if 0 < place ∧ place ≤ 16 then
    String.ofList (digits.take place.toNat ++ ['.'] ++ digits.drop place.toNat)
  else if -5 < place ∧ place ≤ 0 then
    String.ofList (['0', '.'] ++ zeros (-place) ++ digits)
  else
    let mantissa := if count = 1 then digits else digits.take 1 ++ ['.'] ++ digits.drop 1
    String.ofList mantissa ++ exponentText (place - 1)

/-- The text of a magnitude. -/
def magnitudeText (x : Binary64) : String :=
  if x.isZero then "0.0" else scaledText x.shortest

/-- The text of a number. -/
def text : JsonNumber → String
  | natural n => toString n
  | negative n => "-" ++ toString n
  | double minus x => (if minus then "-" else "") ++ magnitudeText x

end JsonNumber

end ChainFeed
