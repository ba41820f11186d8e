import ChainFeed.Text.Utf8

/-!
# Escaping in URLs

Each part of a URL has a set of characters that it may not hold as they are; those are written as
the escapes of their bytes. Every set holds the controls and all characters beyond ASCII.
-/

namespace ChainFeed.Url

/-- A set of characters that are escaped. -/
abbrev EscapeSet := Char → Bool

/-- The characters that are escaped everywhere. -/
def escapedAlways : EscapeSet := fun c => c.toNat < 0x20 || 0x7E < c.toNat

/-- The characters that are escaped in fragments. -/
def escapedInFragment : EscapeSet := fun c =>
  escapedAlways c || [' ', '"', '<', '>', '\x60'].contains c

/-- The characters that are escaped in queries; in a URL of a special scheme the apostrophe is one.
-/
def escapedInQuery (special : Bool) : EscapeSet := fun c =>
  escapedAlways c || [' ', '"', '#', '<', '>'].contains c || (special && c == '\'')

/-- The characters that are escaped in paths. -/
def escapedInPath : EscapeSet := fun c =>
  escapedInFragment c || ['#', '?', '\x7b', '\x7d'].contains c

/-- The characters that are escaped in user names and passwords. -/
def escapedInUser : EscapeSet := fun c =>
  escapedInPath c || ['/', ':', ';', '=', '@', '[', '\\', ']', '^', '|'].contains c

/-- The characters that may stand in a form as they are. -/
def plainInForm (c : Char) : Bool :=
  ('a' ≤ c ∧ c ≤ 'z') ∨ ('A' ≤ c ∧ c ≤ 'Z') ∨ ('0' ≤ c ∧ c ≤ '9') ∨
    c = '*' ∨ c = '-' ∨ c = '.' ∨ c = '_'

/-- The uppercase hexadecimal digit for a value below 16. -/
def hexDigit (n : Nat) : Char :=
  if n < 10 then Char.ofNat ('0'.toNat + n) else Char.ofNat ('A'.toNat + (n - 10))

/-- The escape of a byte. -/
def escapeByte (b : UInt8) : List Char :=
  ['%', hexDigit (b.toNat / 16), hexDigit (b.toNat % 16)]

/-- The escapes of a character's bytes. -/
def escapeChar (c : Char) : List Char :=
  (Text.Utf8.encode c.toString).flatMap escapeByte

/-- The characters with those of a set escaped. -/
def escape (set : EscapeSet) (cs : List Char) : String :=
  String.ofList (cs.flatMap fun c => if set c then escapeChar c else [c])

/-- A name or a value as it is written in a form: blanks are plus signs, and everything that may not
stand there as it is gets escaped. -/
def formSpelling (text : String) : String :=
  String.ofList (text.toList.flatMap fun c =>
    if c = ' ' then ['+'] else if plainInForm c then [c] else escapeChar c)

end ChainFeed.Url
