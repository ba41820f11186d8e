import ChainFeed.Json.Basic

/-!
# The compact text of a JSON value

No blanks between the parts, fields in the order of the record, and only those characters escaped
that a text may not hold as they are: the quote, the backslash and the controls.
-/

namespace ChainFeed.Json

/-- The lowercase hexadecimal digit for a value below 16. -/
def hexDigit (n : Nat) : Char :=
  if n < 10 then Char.ofNat ('0'.toNat + n) else Char.ofNat ('a'.toNat + (n - 10))

/-- The spelling of one character inside a text. -/
def spellChar (c : Char) : List Char :=
  if c = '"' then ['\\', '"']
  else if c = '\\' then ['\\', '\\']
  else if c = '\n' then ['\\', 'n']
  else if c = '\r' then ['\\', 'r']
  else if c = '\t' then ['\\', 't']
  else if c = '\x08' then ['\\', 'b']
  else if c = '\x0c' then ['\\', 'f']
  else if c.toNat < 0x20 then
    ['\\', 'u', '0', '0', hexDigit (c.toNat / 16), hexDigit (c.toNat % 16)]
  else [c]

/-- The written form of a text. -/
def spellText (s : String) : String :=
  String.ofList ('"' :: s.toList.flatMap spellChar ++ ['"'])

mutual

/-- The output `out` followed by the compact text of a value. -/
def compactTo (out : String) : Json → String
  | null => out ++ "null"
  | bool b => out ++ if b then "true" else "false"
  | number n => out ++ n.text
  | text s => out ++ spellText s
  | list items => compactItems (out.push '[') "" items ++ "]"
  | record fields => (compactFields (out.push '\x7b') "" fields).push '\x7d'

/-- The output followed by the items, the first one behind `lead` and the others behind a comma. -/
def compactItems (out lead : String) : List Json → String
  | [] => out
  | item :: rest => compactItems (compactTo (out ++ lead) item) "," rest

/-- The output followed by the fields, the first one behind `lead` and the others behind a comma. -/
def compactFields (out lead : String) : List (String × Json) → String
  | [] => out
  | (name, value) :: rest =>
    compactFields (compactTo (out ++ lead ++ spellText name ++ ":") value) "," rest

end

/-- The compact text of a value. -/
def compact (value : Json) : String :=
  compactTo "" value

end ChainFeed.Json
