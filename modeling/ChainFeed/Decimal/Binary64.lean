/-!
# Double-precision magnitudes

A finite double-precision number without its sign is `mantissa * 2 ^ exponent`, where the mantissa
has 53 bits, or fewer at the least exponent. The arithmetic is exact over natural numbers and ends
in **one rounding to nearest**, ties to the even mantissa; a result too large for the format is
`none`.
-/

namespace ChainFeed.Decimal

/-- A finite double-precision magnitude in its one normal form. -/
structure Binary64 where
  /-- The significant bits. -/
  mantissa : Nat
  /-- The power of two that the mantissa is scaled by. -/
  exponent : Int
  deriving DecidableEq, Repr

namespace Binary64

/-- The least exponent of the format. -/
def leastExponent : Int := -1074

/-- The greatest exponent of the format. -/
def greatestExponent : Int := 971

/-- The least mantissa of 53 bits. -/
def hiddenBit : Nat := 1 <<< 52

/-- Zero. -/
def zero : Binary64 := ⟨0, leastExponent⟩

/-- Whether the magnitude is zero. -/
def isZero (x : Binary64) : Bool := x.mantissa == 0

/-- `n / d` to the nearest natural number, a tie to the even neighbour. -/
def roundQuotient (n d : Nat) : Nat :=
  let q := n / d
  let r := n % d
  if 2 * r < d then q
  else if 2 * r > d then q + 1
  else q + q % 2

/-- `numerator / denominator` in units of `2 ^ exponent`, to the nearest natural number. -/
def roundUnits (numerator denominator : Nat) (exponent : Int) : Nat :=
  roundQuotient (numerator <<< (-exponent).toNat) (denominator <<< exponent.toNat)

/-- The exponent at which `numerator / denominator` has 53 bits, if the format reaches so low. -/
def scaleOf (numerator denominator : Nat) : Int :=
  let guess : Int := (numerator.log2 : Int) - denominator.log2 - 52
  let units := (numerator <<< (-guess).toNat) / (denominator <<< guess.toNat)
  max leastExponent (if units < hiddenBit then guess - 1 else guess)

/-- The magnitude nearest to `numerator / denominator`, unless it exceeds the format. -/
def ofRatio? (numerator denominator : Nat) : Option Binary64 :=
  if numerator = 0 ∨ denominator = 0 then some zero
  else
    let exponent := scaleOf numerator denominator
    let mantissa := roundUnits numerator denominator exponent
    let rounded : Binary64 :=
      if mantissa = 2 * hiddenBit then ⟨hiddenBit, exponent + 1⟩
      else if mantissa = 0 then zero
      else ⟨mantissa, exponent⟩
    if rounded.exponent > greatestExponent then none else some rounded

/-- The magnitude nearest to a natural number. -/
def ofNat? (n : Nat) : Option Binary64 :=
  ofRatio? n 1

/-- The magnitude nearest to `10 ^ k`. -/
def powerOfTen? (k : Nat) : Option Binary64 :=
  ofNat? (Nat.pow 10 k)

/-- The product, rounded once. -/
def mul? (x y : Binary64) : Option Binary64 :=
  let exponent := x.exponent + y.exponent
  ofRatio? (x.mantissa * y.mantissa <<< exponent.toNat) (1 <<< (-exponent).toNat)

/-- The quotient, rounded once. -/
def div? (x y : Binary64) : Option Binary64 :=
  let exponent := x.exponent - y.exponent
  ofRatio? (x.mantissa <<< exponent.toNat) (y.mantissa <<< (-exponent).toNat)

end Binary64

end ChainFeed.Decimal
