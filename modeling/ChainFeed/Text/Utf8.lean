/-!
# UTF-8

Bytes are read as text by **scanning**: each well-formed sequence yields its character, and each
longest ill-formed beginning of one yields a gap. Strict reading refuses a scan with a gap; lenient
reading puts the replacement character there.
-/

namespace ChainFeed.Text.Utf8

/-- The bytes of a text. -/
def encode (text : String) : List UInt8 :=
  text.toUTF8.toList

/-- How a sequence that starts with the byte `b` goes on: the number of bytes that must follow, the
bounds of the first of these, and the bits that `b` contributes. -/
def shape? (b : Nat) : Option (Nat × (Nat × Nat) × Nat) :=
  if b < 0x80 then some (0, (0x80, 0xBF), b)
  else if b < 0xC2 then none
  else if b < 0xE0 then some (1, (0x80, 0xBF), b - 0xC0)
  else if b = 0xE0 then some (2, (0xA0, 0xBF), 0)
  else if b = 0xED then some (2, (0x80, 0x9F), 0xD)
  else if b < 0xF0 then some (2, (0x80, 0xBF), b - 0xE0)
  else if b = 0xF0 then some (3, (0x90, 0xBF), 0)
  else if b < 0xF4 then some (3, (0x80, 0xBF), b - 0xF0)
  else if b = 0xF4 then some (3, (0x80, 0x8F), 4)
  else none

/-- Where a scan stands: between characters, or inside a sequence with the bits gathered so far,
the bounds of the next byte and the number of bytes still to come. -/
inductive State where
  /-- Between characters. -/
  | between
  /-- Inside a sequence. -/
  | inside (bits : Nat) (bounds : Nat × Nat) (missing : Nat)

/-- The state after the first byte `b` of a sequence, and what the byte completes. -/
def start (b : Nat) : State × List (Option Char) :=
  match shape? b with
  | none => (.between, [none])
  | some (0, _, bits) => (.between, [some (Char.ofNat bits)])
  | some (missing, bounds, bits) => (.inside bits bounds missing, [])

/-- The state after the byte `b`, and what the byte completes. A byte that cannot go on with the
open sequence leaves a gap for it and starts the next one. -/
def step : State → Nat → State × List (Option Char)
  | .between, b => start b
  | .inside bits (low, high) missing, b =>
    if low ≤ b ∧ b ≤ high then
      let bits := bits * 64 + (b - 0x80)
      if missing ≤ 1 then (.between, [some (Char.ofNat bits)])
      else (.inside bits (0x80, 0xBF) (missing - 1), [])
    else
      let (state, done) := start b
      (state, none :: done)

/-- The scan of the bytes from a state on, behind what is already scanned (the last one first). -/
def scanFrom (done : List (Option Char)) (state : State) : List UInt8 → List (Option Char)
  | [] =>
    match state with
    | .between => done.reverse
    | .inside .. => (none :: done).reverse
  | b :: rest =>
    let (state, more) := step state b.toNat
    scanFrom (more.reverse ++ done) state rest

/-- The characters of the bytes, with `none` for each ill-formed piece. -/
def scan (bytes : List UInt8) : List (Option Char) :=
  scanFrom [] .between bytes

/-- The text of well-formed bytes. -/
def decode? (bytes : List UInt8) : Option String :=
  ((scan bytes).mapM id).map String.ofList

/-- The text of the bytes, with the replacement character for each ill-formed piece. -/
def decodeLenient (bytes : List UInt8) : String :=
  String.ofList ((scan bytes).map (·.getD (Char.ofNat 0xFFFD)))

end ChainFeed.Text.Utf8
