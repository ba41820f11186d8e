import ChainFeed.Text.Pieces
import ChainFeed.Text.Numeral

/-!
# Punycode

How a label of a domain with characters beyond ASCII is written in ASCII: the ASCII characters come
first, and behind a hyphen follow the others in the order of their code points. Each is given by how
far a scan over code points and places has gone since the one before, as a number of variable length
to the base 36 whose thresholds adapt to the sizes seen so far.
-/

namespace ChainFeed.Url.Punycode

/-- The digit for a value below 36. -/
def digit (n : Nat) : Char :=
  if n < 26 then Char.ofNat ('a'.toNat + n) else Char.ofNat ('0'.toNat + (n - 26))

/-- The value of a digit; capitals are digits too. -/
def digit? (c : Char) : Option Nat :=
  if 'a' ≤ c ∧ c ≤ 'z' then some (c.toNat - 'a'.toNat)
  else if 'A' ≤ c ∧ c ≤ 'Z' then some (c.toNat - 'A'.toNat)
  else (Text.digit? c).map (· + 26)

/-- The threshold of the digit at the place `k` of a number, counted in steps of 36. -/
def threshold (bias k : Nat) : Nat :=
  if k ≤ bias then 1 else if bias + 26 ≤ k then 26 else k - bias

/-- The digits of `n`, the first of them at the place `k`. -/
def digits (bias : Nat) (k n : Nat) : List Char :=
  let t := threshold bias k
  if _h : n < t then [digit n]
  else digit (t + (n - t) % (36 - t)) :: digits bias (k + 36) ((n - t) / (36 - t))
termination_by n
decreasing_by
  have ht : 1 ≤ t := by
    simp only [t, threshold]
    split
    · omega
    · split <;> omega
  exact Nat.lt_of_le_of_lt (Nat.div_le_self _ _) (by omega)

/-- The bias for a distance that was divided by 35 until it was at most 455, `k` being 36 for each
division. -/
def adaptFrom (k distance : Nat) : Nat :=
  if _h : 455 < distance then adaptFrom (k + 36) (distance / 35)
  else k + 36 * distance / (distance + 38)
termination_by distance
decreasing_by omega

/-- The bias after a distance, `count` being the number of characters written by then. -/
def adapt (distance count : Nat) (first : Bool) : Nat :=
  let distance := if first then distance / 700 else distance / 2
  adaptFrom 0 (distance + distance / count)

/-! ### Writing -/

/-- Where a scan over code points and places stands. -/
structure Scan where
  /-- The distance since the last character written. -/
  distance : Nat
  /-- The bias. -/
  bias : Nat
  /-- How many characters are written. -/
  count : Nat
  /-- Whether none of them is beyond ASCII. -/
  first : Bool
  /-- What is written, the last character first. -/
  written : List Char

/-- The scan over the places of a label for the code point `n`. -/
def scanPlaces (n : Nat) (label : List Nat) (scan : Scan) : Scan :=
  label.foldl (fun scan c =>
    if c < n then { scan with distance := scan.distance + 1 }
    else if c = n then {
      distance := 0
      bias := adapt scan.distance (scan.count + 1) scan.first
      count := scan.count + 1
      first := false
      written := (digits scan.bias 36 scan.distance).reverse ++ scan.written }
    else scan) scan

/-- The scans for the code points from `n` on, which increase. -/
def scanAll (label : List Nat) : Nat → List Nat → Scan → Scan
  | _, [], scan => scan
  | n, m :: rest, scan =>
    let scan := { scan with distance := scan.distance + (m - n) * (scan.count + 1) }
    let scan := scanPlaces m label scan
    scanAll label (m + 1) rest { scan with distance := scan.distance + 1 }

/-- The label in ASCII, without a mark that it is one. -/
def encode (label : List Char) : List Char :=
  let ascii := label.filter (·.toNat < 128)
  let others := (label.filter (128 ≤ ·.toNat)).map Char.toNat
  let ordered := (others.mergeSort (· ≤ ·)).eraseDups
  let scan := scanAll (label.map Char.toNat) 128 ordered ⟨0, 72, ascii.length, true, []⟩
  (if ascii.isEmpty then [] else ascii ++ ['-']) ++ scan.written.reverse

/-! ### Reading -/

/-- A label of which a part is read. -/
structure Reading where
  /-- The characters so far. -/
  chars : List Char
  /-- The code point of the last one that is beyond ASCII. -/
  code : Nat
  /-- How far the scan has gone in the label, counted on from one code point to the next. -/
  place : Nat
  /-- The place where the number that is being read starts. -/
  start : Nat
  /-- The bias. -/
  bias : Nat
  /-- What the next digit of the number weighs. -/
  weight : Nat
  /-- The place of that digit in the number, counted in steps of 36. -/
  k : Nat

/-- The label with a character at a place. -/
def insertAt (place : Nat) (c : Char) (label : List Char) : List Char :=
  label.take place ++ c :: label.drop place

/-- The label behind a number: one more character stands where the scan has come to. -/
def Reading.close (r : Reading) : Option Reading :=
  let count := r.chars.length + 1
  let code := r.code + r.place / count
  let place := r.place % count
  if code.isValidChar then
    some {
      chars := insertAt place (Char.ofNat code) r.chars
      code := code
      place := place + 1
      start := place + 1
      bias := adapt (r.place - r.start) count (r.start == 0)
      weight := 1
      k := 36 }
  else none

/-- The label behind one more digit. A number of more than 32 bits is none. -/
def Reading.step (r : Reading) (c : Char) : Option Reading := do
  let d ← digit? c
  let place := r.place + d * r.weight
  let t := threshold r.bias r.k
  let weight := r.weight * (36 - t)
  if Text.word32 ≤ place then none
  else if d < t then Reading.close { r with place }
  else if Text.word32 ≤ weight then none
  else some { r with place, weight, k := r.k + 36 }

/-- The label that ASCII characters write, without a mark that they do so. -/
def decode? (cs : List Char) : Option (List Char) :=
  match Text.cutLast '-' cs with
  | some ([], _) => none
  | some (ascii, digits) => read ascii digits
  | none => read [] cs
where
  /-- The label that starts with ASCII characters and goes on with digits. -/
  read (ascii digits : List Char) : Option (List Char) := do
    let r ← digits.foldlM Reading.step ⟨ascii, 128, 0, 0, 72, 1, 36⟩
    if r.k = 36 then some r.chars else none

end ChainFeed.Url.Punycode
