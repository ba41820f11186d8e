/-!
# UTF-16

Two bytes are a **unit**, with the high byte in front or behind. A unit is a character by itself, or
it is the **first half** or the **second half** of one. Reading is lenient: the replacement
character stands for each half without its other half, and for what is left over at the end.
-/

namespace ChainFeed.Text.Utf16

/-! ### Units -/

/-- Whether a unit is the first half of a character. -/
def isFirstHalf (unit : Nat) : Bool := 0xD800 ≤ unit ∧ unit ≤ 0xDBFF

/-- Whether a unit is the second half of a character. -/
def isSecondHalf (unit : Nat) : Bool := 0xDC00 ≤ unit ∧ unit ≤ 0xDFFF

/-- The character with two halves. -/
def ofHalves (first second : Nat) : Char :=
  Char.ofNat (0x10000 + (first - 0xD800) * 0x400 + (second - 0xDC00))

/-- Which byte of a unit comes first. -/
inductive ByteOrder where
  /-- The high byte. -/
  | highFirst
  /-- The low byte. -/
  | lowFirst
  deriving DecidableEq, Repr

/-- The unit of two bytes. -/
def unitOf : ByteOrder → UInt8 → UInt8 → Nat
  | .highFirst, a, b => a.toNat * 0x100 + b.toNat
  | .lowFirst, a, b => b.toNat * 0x100 + a.toNat

/-! ### Reading -/

/-- The first half that is open behind a unit which completes no other one, and what the unit
completes. -/
def start (unit : Nat) : Option Nat × List (Option Char) :=
  if isFirstHalf unit then (some unit, [])
  else if isSecondHalf unit then (none, [none])
  else (none, [some (Char.ofNat unit)])

/-- The first half that is open behind a unit, and what the unit completes. A unit that is no second
half leaves a gap for an open first one. -/
def step : Option Nat → Nat → Option Nat × List (Option Char)
  | none, unit => start unit
  | some first, unit =>
    if isSecondHalf unit then (none, [some (ofHalves first unit)])
    else
      let (half, done) := start unit
      (half, none :: done)

/-- The scan of the bytes behind a first half that is open, and behind what is already scanned (the
last one first). -/
def scanFrom (order : ByteOrder) (done : List (Option Char)) (half : Option Nat) :
    List UInt8 → List (Option Char)
  | a :: b :: rest =>
    let (half, more) := step half (unitOf order a b)
    scanFrom order (more.reverse ++ done) half rest
  | [_] => (none :: done).reverse
  | [] => if half.isSome then (none :: done).reverse else done.reverse

/-- The characters of the bytes, with `none` for each ill-formed piece. -/
def scan (order : ByteOrder) (bytes : List UInt8) : List (Option Char) :=
  scanFrom order [] none bytes

/-- The text of the bytes, with the replacement character for each ill-formed piece. -/
def decodeLenient (order : ByteOrder) (bytes : List UInt8) : String :=
  String.ofList ((scan order bytes).map (·.getD (Char.ofNat 0xFFFD)))

end ChainFeed.Text.Utf16
