import ChainFeed.Text.Shapeless

/-!
# Quoted text

How an error message quotes a value: between double quotes, with a backslash in front of a quote
and a backslash, short names for the usual controls, and the code point in hexadecimal for every
other character that a reader could not see.
-/

namespace ChainFeed.Text

/-- The spelling of a character by its code point, in lowercase hexadecimal without padding. -/
def codePointEscape (c : Char) : List Char :=
  ['\\', 'u', '\x7b'] ++ Nat.toDigits 16 c.toNat ++ ['\x7d']

/-- The spelling of one character inside a quotation. -/
def quotedChar (c : Char) : List Char :=
  if c = '"' then ['\\', '"']
  else if c = '\\' then ['\\', '\\']
  else if c = '\n' then ['\\', 'n']
  else if c = '\r' then ['\\', 'r']
  else if c = '\t' then ['\\', 't']
  else if c = '\x00' then ['\\', '0']
  else if isShapeless c then codePointEscape c
  else [c]

/-- The quotation of a text. -/
def quoted (text : String) : String :=
  String.ofList ('"' :: text.toList.flatMap quotedChar ++ ['"'])

end ChainFeed.Text
