import ChainFeed.Text.Utf8

/-!
# Percent escapes

In a URL a byte may be written as a percent sign with two hexadecimal digits. Decoding replaces
every escape by its byte, apart from escapes of bytes that are to be **kept**; a percent sign
without two digits behind it stands for itself.
-/

namespace ChainFeed.Text.Percent

/-- The value of a byte that is a hexadecimal digit. -/
def hexValue? (b : UInt8) : Option Nat :=
  let n := b.toNat
  if 48 ≤ n ∧ n ≤ 57 then some (n - 48)
  else if 65 ≤ n ∧ n ≤ 70 then some (n - 55)
  else if 97 ≤ n ∧ n ≤ 102 then some (n - 87)
  else none

/-- The byte that an escape with the two digits stands for. -/
def escaped? (a b : UInt8) : Option UInt8 := do
  some (UInt8.ofNat ((← hexValue? a) * 16 + (← hexValue? b)))

/-- The percent sign as a byte. -/
def sign : UInt8 := 37

/-- The byte of an escape at the front of the bytes, unless it is to be kept. -/
def front? (keep : UInt8 → Bool) : List UInt8 → Option UInt8
  | s :: a :: b :: _ => if s = sign then (escaped? a b).filter (!keep ·) else none
  | _ => none

/-- The bytes with every escape replaced, apart from those of bytes to be kept. After an escape,
`skip` bytes are passed over. -/
def decodeFrom (keep : UInt8 → Bool) (skip : Nat) : List UInt8 → List UInt8
  | [] => []
  | b :: rest =>
    match skip with
    | n + 1 => decodeFrom keep n rest
    | 0 =>
      match front? keep (b :: rest) with
      | some byte => byte :: decodeFrom keep 2 rest
      | none => b :: decodeFrom keep 0 rest

/-- The text with every escape replaced, apart from those of bytes to be kept. -/
def decodeKeeping (keep : UInt8 → Bool) (text : String) : String :=
  Utf8.decodeLenient (decodeFrom keep 0 (Utf8.encode text))

/-- The text with every escape replaced. -/
def decode (text : String) : String :=
  decodeKeeping (fun _ => false) text

/-- The text with every escape replaced, if that is well-formed. -/
def decode? (text : String) : Option String :=
  Utf8.decode? (decodeFrom (fun _ => false) 0 (Utf8.encode text))

end ChainFeed.Text.Percent
