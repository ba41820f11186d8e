/-!
# Sets of code points

A property of characters is given by the **inclusive ranges** of code points that have it, in
increasing order. Membership walks the ranges and stops at the first one that starts above the
character, so an ASCII character is answered by the first few.
-/

namespace ChainFeed.Text

/-- Inclusive ranges of code points, in increasing order and without overlap. -/
abbrev CodePoints := List (Nat × Nat)

/-- Whether the code point `n` lies in one of the ranges. -/
def CodePoints.covers : CodePoints → Nat → Bool
  | [], _ => false
  | (first, last) :: rest, n => first ≤ n && (n ≤ last || CodePoints.covers rest n)

/-- Whether the character `c` lies in one of the ranges. -/
def CodePoints.contains (ranges : CodePoints) (c : Char) : Bool :=
  CodePoints.covers ranges c.toNat

end ChainFeed.Text
