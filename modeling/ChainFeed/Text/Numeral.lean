/-!
# Decimal numerals

Unsigned numbers are written in ASCII digits, with an optional plus sign in front and leading zeros
allowed. A numeral is read against the number of values its place can hold, and one that does not
fit is no numeral at all.
-/

namespace ChainFeed.Text

/-- The value of an ASCII digit. -/
def digit? (c : Char) : Option Nat :=
  if '0' ≤ c ∧ c ≤ '9' then some (c.toNat - '0'.toNat) else none

/-- The value of a hexadecimal digit. -/
def hexDigit? (c : Char) : Option Nat :=
  if '0' ≤ c ∧ c ≤ '9' then some (c.toNat - '0'.toNat)
  else if 'a' ≤ c ∧ c ≤ 'f' then some (c.toNat - 'a'.toNat + 10)
  else if 'A' ≤ c ∧ c ≤ 'F' then some (c.toNat - 'A'.toNat + 10)
  else none

/-- The digits' values, if all characters are ASCII digits. -/
def digits? (cs : List Char) : Option (List Nat) :=
  cs.mapM digit?

/-- The number that decimal digits spell, the first one weighing most. -/
def ofDigits (digits : List Nat) : Nat :=
  digits.foldl (fun n d => n * 10 + d) 0

/-- The characters behind an optional plus sign. -/
def dropPlus : List Char → List Char
  | '+' :: rest => rest
  | cs => cs

/-- The number below `bound` that a numeral spells. -/
def numeral? (bound : Nat) (text : String) : Option Nat := do
  let digits ← digits? (dropPlus text.toList)
  let n := ofDigits digits
  if digits.isEmpty ∨ bound ≤ n then none else some n

/-- The number of values of a 16-bit word. -/
def word16 : Nat := 65536

/-- The number of values of a 32-bit word. -/
def word32 : Nat := 4294967296

/-- The number of values of a 64-bit word. -/
def word64 : Nat := 18446744073709551616

end ChainFeed.Text
