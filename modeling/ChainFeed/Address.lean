import ChainFeed.Text.Blank
import ChainFeed.Text.Lowercase

/-!
# Addresses

Accounts are named by hexadecimal addresses that may be spelled with blanks around them, in any
letter case, and with `0x`, `0X` or nothing in front. The **canonical** spelling is the lowercase
one with `0x` in front; the **bare** spelling is the canonical one without its first two characters.
-/

namespace ChainFeed.Address

/-- The mark in front of a canonical address. -/
def mark : List Char := ['0', 'x']

/-- The characters behind the mark of an address, if it has one. -/
def dropMark : List Char → List Char
  | '0' :: 'x' :: rest => rest
  | '0' :: 'X' :: rest => rest
  | cs => cs

/-- The bare spelling of the address that the characters spell. -/
def bareChars (cs : List Char) : List Char :=
  Text.lowercase (dropMark (Text.trim cs))

/-- The canonical spelling of an address. -/
def canonical (address : String) : String :=
  String.ofList (mark ++ bareChars address.toList)

/-- The bare spelling of an address. -/
def bare (address : String) : String :=
  String.ofList (bareChars address.toList)

end ChainFeed.Address
