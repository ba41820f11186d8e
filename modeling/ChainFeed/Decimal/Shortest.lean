import ChainFeed.Decimal.Binary64

/-!
# The shortest decimal that reads back

A magnitude owns the interval of reals that round to it. Of the decimal grids `10 ^ k`, the
**coarsest one with a point in that interval** gives the fewest digits; of two points on it the
nearer one is taken, and of two equally near ones the even one.
-/

namespace ChainFeed.Decimal

/-- A decimal `digits * 10 ^ scale`. -/
structure Scaled where
  /-- The digits as one number. -/
  digits : Nat
  /-- The power of ten that the digits are scaled by. -/
  scale : Int
  deriving DecidableEq, Repr

namespace Binary64

/-- The ends of the interval that rounds to `x`, in units of a quarter of the last place. Below a
power of two the neighbours are twice as dense. -/
def interval (x : Binary64) : Nat × Nat :=
  let below := if x.mantissa = hiddenBit ∧ x.exponent > leastExponent then 1 else 2
  (4 * x.mantissa - below, 4 * x.mantissa + 2)

/-- Whether `point / size` quarter units lie in the interval that rounds to `x`; the ends belong to
it if the mantissa is even. -/
def owns (x : Binary64) (point size : Nat) : Bool :=
  let (low, high) := x.interval
  if x.mantissa % 2 = 0 then low * size ≤ point && point ≤ high * size
  else low * size < point && point < high * size

/-- The point of the grid `10 ^ k` that reads back as `x`, if there is one. -/
def onGrid? (x : Binary64) (k : Int) : Option Scaled :=
  let unit := x.exponent - 2
  let step := Nat.pow 10 k.toNat <<< (-unit).toNat
  let size := Nat.pow 10 (-k).toNat <<< unit.toNat
  let value := 4 * x.mantissa * size
  let low := value / step
  let high := low + 1
  let lowOwned := 0 < low && x.owns (low * step) size
  let highOwned := x.owns (high * step) size
  if lowOwned && highOwned then
    let down := value - low * step
    let up := high * step - value
    if down < up then some ⟨low, k⟩
    else if up < down then some ⟨high, k⟩
    else some ⟨low + low % 2, k⟩
  else if lowOwned then some ⟨low, k⟩
  else if highOwned then some ⟨high, k⟩
  else none

/-- The greatest power of ten that a finite magnitude reaches. -/
def coarsestGrid : Int := 308

/-- The number of grids from the coarsest one to the one that holds every magnitude. -/
def gridCount : Nat := 650

/-- The shortest decimal that reads back as `x`. -/
def shortest (x : Binary64) : Scaled :=
  ((List.range gridCount).findSome? fun (i : Nat) => x.onGrid? (coarsestGrid - i)).getD ⟨0, 0⟩

end Binary64

end ChainFeed.Decimal
