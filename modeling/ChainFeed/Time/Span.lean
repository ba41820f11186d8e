import ChainFeed.Json.Reader
import ChainFeed.Text.Blank
import ChainFeed.Text.Numeral

/-!
# Spans of time

A **span** is a whole number of nanoseconds, of at most 64 bits of seconds. People write it as a sum
of amounts with units, such as `1h 30m` or `1.5s`; a single amount in one decimal unit, such as
`1.5s`, is how messages show it.
-/

namespace ChainFeed

/-- A span of time. -/
structure Span where
  /-- How many nanoseconds the span lasts. -/
  nanoseconds : Nat
  deriving DecidableEq, Repr

namespace Span

/-- No time at all. -/
def zero : Span := ⟨0⟩

/-- How many nanoseconds make a second. -/
def nanosPerSecond : Nat := 1000000000

/-- A span of milliseconds. -/
def ofMillis (ms : Nat) : Span := ⟨ms * 1000000⟩

/-- A span of seconds. -/
def ofSeconds (s : Nat) : Span := ⟨s * nanosPerSecond⟩

instance : LE Span := ⟨fun a b => a.nanoseconds ≤ b.nanoseconds⟩

instance : LT Span := ⟨fun a b => a.nanoseconds < b.nanoseconds⟩

instance (a b : Span) : Decidable (a ≤ b) :=
  inferInstanceAs (Decidable (a.nanoseconds ≤ b.nanoseconds))

instance (a b : Span) : Decidable (a < b) :=
  inferInstanceAs (Decidable (a.nanoseconds < b.nanoseconds))

/-! ### One amount in one unit -/

/-- The digits of `n` below `10 ^ width`, filled up with zeros in front. -/
def padded (width n : Nat) : List Char :=
  let digits := Nat.toDigits 10 n
  List.replicate (width - digits.length) '0' ++ digits

/-- The text of `n / 10 ^ places`, without zeros at its end. -/
def decimalText (places n : Nat) : String :=
  let unit := Nat.pow 10 places
  let fraction := ((padded places (n % unit)).reverse.dropWhile (· == '0')).reverse
  toString (n / unit) ++ if n % unit = 0 then "" else String.ofList ('.' :: fraction)

/-- The span as one amount, in seconds or the largest smaller decimal unit that it reaches. -/
def brief (span : Span) : String :=
  let n := span.nanoseconds
  if nanosPerSecond ≤ n then decimalText 9 n ++ "s"
  else if 1000000 ≤ n then decimalText 6 n ++ "ms"
  else if 1000 ≤ n then decimalText 3 n ++ "µs"
  else toString n ++ "ns"

/-! ### Units -/

/-- What the whole or the fractional part of an amount is counted in. -/
inductive Grain where
  /-- Nanoseconds. -/
  | nanosecond
  /-- Seconds. -/
  | second
  deriving DecidableEq, Repr

/-- How many nanoseconds a grain lasts. -/
def Grain.nanoseconds : Grain → Nat
  | .nanosecond => 1
  | .second => nanosPerSecond

/-- A unit of time that people write. -/
structure SpanUnit where
  /-- How the unit may be written. -/
  names : List String
  /-- How long the unit lasts. -/
  size : Nat
  /-- What whole amounts of the unit are counted in. -/
  whole : Grain
  /-- What fractions of the unit are counted in. -/
  fraction : Grain
  deriving Repr

/-- The units of time. A month is a twelfth of a year up to a few minutes, and a year has 365 days
and a quarter. -/
def units : List SpanUnit := [
  ⟨["nanos", "nsec", "ns"], 1, .nanosecond, .nanosecond⟩,
  ⟨["usec", "us", "µs"], 1000, .nanosecond, .nanosecond⟩,
  ⟨["millis", "msec", "ms"], 1000000, .nanosecond, .nanosecond⟩,
  ⟨["seconds", "second", "secs", "sec", "s"], nanosPerSecond, .second, .nanosecond⟩,
  ⟨["minutes", "minute", "min", "mins", "m"], 60 * nanosPerSecond, .second, .nanosecond⟩,
  ⟨["hours", "hour", "hrs", "hr", "h"], 3600 * nanosPerSecond, .second, .second⟩,
  ⟨["days", "day", "d"], 86400 * nanosPerSecond, .second, .second⟩,
  ⟨["weeks", "week", "wks", "wk", "w"], 604800 * nanosPerSecond, .second, .second⟩,
  ⟨["months", "month", "M"], 2630016 * nanosPerSecond, .second, .second⟩,
  ⟨["years", "year", "yrs", "yr", "y"], 31557600 * nanosPerSecond, .second, .second⟩]

/-- The unit with a name. -/
def unit? (name : String) : Option SpanUnit :=
  units.find? (·.names.contains name)

/-- Why a text is no span. -/
inductive ParseError where
  /-- The text does not write a span, or not one in range. -/
  | malformed
  /-- The greatest count of seconds has no room for the second that the nanoseconds make. Only
  nanoseconds that make exactly one second are carried so late that nothing can be refused. -/
  | carry
  deriving DecidableEq, Repr

/-- The number, if it is below 2^64. -/
def word (n : Nat) : Except ParseError Nat :=
  if n < Text.word64 then .ok n else .error .malformed

/-- The span with `count` grains more, if the sum and its count of nanoseconds below a second are in
range. -/
def extend (total : Nat) (grain : Grain) (count : Nat) : Except ParseError Nat := do
  let count ← word count
  let nanos := match grain with
    | .nanosecond => count
    | .second => 0
  let nanos ← word (total % nanosPerSecond + nanos)
  let sum := total + count * grain.nanoseconds
  if sum / nanosPerSecond < Text.word64 then .ok sum
  else if nanos = nanosPerSecond ∧ sum / nanosPerSecond = Text.word64 then .error .carry
  else .error .malformed

/-- The digits behind the point of an amount: their number over a power of ten. -/
structure Fraction where
  /-- The number that the digits spell. -/
  numerator : Nat
  /-- Ten to the number of digits. -/
  denominator : Nat

/-- How many grains a fraction of a unit is. It must be a whole number, and no fraction of the
smallest unit counts as one. -/
def Fraction.grains (f : Fraction) (unit : SpanUnit) : Except ParseError Nat := do
  let product ← word (f.numerator * (unit.size / unit.fraction.nanoseconds))
  if unit.size = 1 ∨ product % f.denominator ≠ 0 then .error .malformed
  else .ok (product / f.denominator)

/-- The span with an amount of a unit more. -/
def extendBy (total : Nat) (whole : Nat) (fraction : Option Fraction) (name : List Char) :
    Except ParseError Nat := do
  match unit? (String.ofList name) with
  | none => .error .malformed
  | some unit =>
    let total ← extend total unit.whole (whole * (unit.size / unit.whole.nanoseconds))
    match fraction with
    | none => .ok total
    | some f => extend total unit.fraction (← f.grains unit)

/-! ### Reading -/

/-- Where a reader of a span stands. -/
inductive Place where
  /-- In front of an amount. -/
  | start
  /-- Inside the whole part of an amount. -/
  | whole (n : Nat)
  /-- Inside the fractional part of an amount. -/
  | fraction (n : Nat) (f : Fraction)
  /-- Inside the name of a unit, whose letters so far come last one first. -/
  | name (n : Nat) (f : Option Fraction) (letters : List Char)

/-- Whether a character may stand in the name of a unit. -/
def isLetter (c : Char) : Bool :=
  ('a' ≤ c ∧ c ≤ 'z') ∨ ('A' ≤ c ∧ c ≤ 'Z') ∨ c = 'µ'

/-- One character: the span so far and the place behind the character. Blank characters may stand
anywhere but inside the name of a unit, which they end. -/
def step (total : Nat) (place : Place) (c : Char) : Except ParseError (Nat × Place) :=
  match place, Text.digit? c with
  | .start, some d => .ok (total, .whole d)
  | .start, none => if Text.isBlank c then .ok (total, .start) else .error .malformed
  | .whole n, some d => do .ok (total, .whole (← word (n * 10 + d)))
  | .whole n, none =>
    if Text.isBlank c then .ok (total, .whole n)
    else if isLetter c then .ok (total, .name n none [c])
    else if c = '.' then .ok (total, .fraction n ⟨0, 1⟩)
    else .error .malformed
  | .fraction n f, some d => do
    .ok (total, .fraction n ⟨← word (f.numerator * 10 + d), ← word (f.denominator * 10)⟩)
  | .fraction n f, none =>
    if Text.isBlank c then .ok (total, .fraction n f)
    else if isLetter c ∧ f.denominator ≠ 1 then .ok (total, .name n (some f) [c])
    else .error .malformed
  | .name n f letters, some d => do .ok (← extendBy total n f letters.reverse, .whole d)
  | .name n f letters, none =>
    if Text.isBlank c then do .ok (← extendBy total n f letters.reverse, .start)
    else if isLetter c then .ok (total, .name n f (c :: letters))
    else .error .malformed

/-- The span of the characters from a place on, behind the span so far. -/
def readFrom (total : Nat) (place : Place) : List Char → Except ParseError Nat
  | [] =>
    match place with
    | .start => .ok total
    | .name n f letters => extendBy total n f letters.reverse
    | _ => .error .malformed
  | c :: rest => do
    let (total, place) ← step total place c
    readFrom total place rest

/-- The span that a text writes: at least one amount, or a single zero without a unit. -/
def parse (text : String) : Except ParseError Span :=
  if text = "0" then .ok zero
  else if text.toList.all Text.isBlank then .error .malformed
  else (readFrom 0 .start text.toList).map Span.mk

/-! ### Writing -/

/-- An amount with its unit, unless it is zero. -/
def amount (n : Nat) (unit : String) : List String :=
  if n = 0 then [] else [toString n ++ unit]

/-- An amount with its unit in words, unless it is zero. -/
def amountInWords (n : Nat) (unit : String) : List String :=
  amount n (if n = 1 then unit else unit ++ "s")

/-- The amounts that make the span, the largest unit first. -/
def amounts (span : Span) : List String :=
  let seconds := span.nanoseconds / nanosPerSecond
  let nanos := span.nanoseconds % nanosPerSecond
  let ofYear := seconds % 31557600
  let ofMonth := ofYear % 2630016
  let ofDay := ofMonth % 86400
  amountInWords (seconds / 31557600) "year" ++ amountInWords (ofYear / 2630016) "month" ++
    amountInWords (ofMonth / 86400) "day" ++ amount (ofDay / 3600) "h" ++
    amount (ofDay % 3600 / 60) "m" ++ amount (ofDay % 60) "s" ++ amount (nanos / 1000000) "ms" ++
    amount (nanos / 1000 % 1000) "us" ++ amount (nanos % 1000) "ns"

/-- The written form of a span. -/
def text (span : Span) : String :=
  if span = zero then "0s" else String.intercalate " " span.amounts

/-- Reads a span from its written form. -/
def read : Reader Span := fun d => d.readText.bind (parse · |>.toOption)

/-- Whether a document writes a span whose seconds have no room for a carry. -/
def carries (d : Doc) : Bool :=
  match d.readText.map parse with
  | some (.error .carry) => true
  | _ => false

end Span

end ChainFeed
