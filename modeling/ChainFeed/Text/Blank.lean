import ChainFeed.Text.CodePoints

/-!
# Blank characters

The characters that may surround a value without being part of it: those with the Unicode property
White_Space. `trim` drops them at both ends of a text and nowhere else.
-/

namespace ChainFeed.Text

/-- The code points with the Unicode property White_Space. -/
def blankCodePoints : CodePoints :=
  [(0x9, 0xD), (0x20, 0x20), (0x85, 0x85), (0xA0, 0xA0), (0x1680, 0x1680), (0x2000, 0x200A),
   (0x2028, 0x2029), (0x202F, 0x202F), (0x205F, 0x205F), (0x3000, 0x3000)]

/-- Whether `c` is a blank character. -/
def isBlank (c : Char) : Bool :=
  blankCodePoints.contains c

/-- The characters without the blank ones in front of the first other one. -/
def trimStart (cs : List Char) : List Char :=
  cs.dropWhile isBlank

/-- The characters without the blank ones behind the last other one. -/
def trimEnd (cs : List Char) : List Char :=
  (cs.reverse.dropWhile isBlank).reverse

/-- The characters without the blank ones at either end. -/
def trim (cs : List Char) : List Char :=
  trimEnd (trimStart cs)

end ChainFeed.Text
