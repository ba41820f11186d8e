import ChainFeed.Json.Basic
import ChainFeed.Text.Numeral
import ChainFeed.Text.Utf16
import ChainFeed.Text.Utf8

/-!
# Documents

A **document** is what a JSON text says before anybody asks it for something. It keeps what only
matters to a reader who looks there: repeated keys, texts that are no Unicode text, numbers beyond
every format, and lists and records nested too deep. A reader that passes over a part accepts it
whatever it holds; one that takes the part refuses such a leaf.
-/

namespace ChainFeed

/-- A JSON document. -/
inductive Doc where
  /-- The null value. -/
  | null
  /-- A truth value. -/
  | bool (b : Bool)
  /-- A number, or `none` for one beyond every format. -/
  | number (n : Option JsonNumber)
  /-- A text, or `none` for one that is no Unicode text. -/
  | text (s : Option String)
  /-- A list of documents. -/
  | list (items : List Doc)
  /-- Named documents in the order of the text; a name may occur twice. -/
  | record (fields : List (Option String × Doc))
  /-- A list or record nested deeper than any reader follows. -/
  | tooDeep
  deriving Repr, Inhabited

namespace Doc

/-- How many lists and records may be nested in one another. -/
def depthLimit : Nat := 127

mutual

/-- The value of free form that a document holds, if all its leaves are sound. -/
def value? : Doc → Option Json
  | null => some .null
  | bool b => some (.bool b)
  | number n => n.map .number
  | text s => s.map .text
  | list items => (values? items).map .list
  | record fields => (fieldValues? fields).map Json.sorted
  | tooDeep => none

/-- The values of a list of documents. -/
def values? : List Doc → Option (List Json)
  | [] => some []
  | d :: rest => do
    let value ← value? d
    let values ← values? rest
    some (value :: values)

/-- The names and values of a list of fields. -/
def fieldValues? : List (Option String × Doc) → Option (List (String × Json))
  | [] => some []
  | (name, d) :: rest => do
    let name ← name
    let value ← value? d
    let fields ← fieldValues? rest
    some ((name, value) :: fields)

end

mutual

/-- The document that a value makes. -/
def ofValue : Json → Doc
  | .null => null
  | .bool b => bool b
  | .number n => number (some n)
  | .text s => text (some s)
  | .list items => list (ofValues items)
  | .record fields => record (ofFields fields)

/-- The documents that a list of values makes. -/
def ofValues : List Json → List Doc
  | [] => []
  | item :: rest => ofValue item :: ofValues rest

/-- The named documents that a list of fields makes. -/
def ofFields : List (String × Json) → List (Option String × Doc)
  | [] => []
  | (name, value) :: rest => (some name, ofValue value) :: ofFields rest

end

end Doc

/-! ### Tokens -/

/-- A token of a JSON text. -/
inductive Token where
  /-- An opening bracket. -/
  | listStart
  /-- A closing bracket. -/
  | listEnd
  /-- An opening brace. -/
  | recordStart
  /-- A closing brace. -/
  | recordEnd
  /-- A comma. -/
  | comma
  /-- A colon. -/
  | colon
  /-- A text, or `none` for one that is no Unicode text. -/
  | text (s : Option String)
  /-- A truth value, a number or null. -/
  | word (d : Doc)

namespace Token

/-- A text that is being read. -/
structure OpenText where
  /-- The characters so far, the last one first. -/
  chars : List Char
  /-- Whether all of it so far is Unicode text. -/
  sound : Bool
  /-- The first half of a surrogate pair whose second half must come next. -/
  half : Option Nat

/-- The text with one more character. -/
def OpenText.push (t : OpenText) (c : Char) : OpenText :=
  ⟨c :: t.chars, t.sound && t.half.isNone, none⟩

/-- The text with one more character that is no Unicode. -/
def OpenText.spoil (t : OpenText) : OpenText :=
  ⟨t.chars, false, none⟩

/-- The text with one more unit of an escape: a character of its own or half of one. -/
def OpenText.pushUnit (t : OpenText) (unit : Nat) : OpenText :=
  if Text.Utf16.isSecondHalf unit then
    match t.half with
    | some first => ⟨Text.Utf16.ofHalves first unit :: t.chars, t.sound, none⟩
    | none => t.spoil
  else if Text.Utf16.isFirstHalf unit then ⟨t.chars, t.sound && t.half.isNone, some unit⟩
  else t.push (Char.ofNat unit)

/-- The token of a text that ends here. -/
def OpenText.close (t : OpenText) : Token :=
  if t.sound ∧ t.half.isNone then text (some (String.ofList t.chars.reverse)) else text none

/-- Where a reader of tokens stands. -/
inductive Place where
  /-- Between tokens. -/
  | between
  /-- Inside a word, whose characters so far come last one first. -/
  | word (chars : List Char)
  /-- Inside a text. -/
  | text (t : OpenText)
  /-- Behind a backslash in a text. -/
  | escape (t : OpenText)
  /-- Inside the four digits of an escape, with the value and the count of those read. -/
  | unit (t : OpenText) (value count : Nat)

/-- The token of a whole word. -/
def ofWord? (chars : List Char) : Option Token :=
  match chars with
  | ['n', 'u', 'l', 'l'] => some (.word .null)
  | ['t', 'r', 'u', 'e'] => some (.word (.bool true))
  | ['f', 'a', 'l', 's', 'e'] => some (.word (.bool false))
  | chars => (JsonNumber.spell chars).map fun s => .word (.number (JsonNumber.ofSpelling s))

/-- The token that a character makes by itself. -/
def mark? : Char → Option Token
  | '[' => some listStart
  | ']' => some listEnd
  | '\x7b' => some recordStart
  | '\x7d' => some recordEnd
  | ',' => some comma
  | ':' => some colon
  | _ => none

/-- Whether a character may stand between tokens. -/
def isGap (c : Char) : Bool :=
  c == ' ' || c == '\t' || c == '\n' || c == '\r'

/-- The character that a short escape stands for. -/
def shortEscape? : Char → Option Char
  | '"' => some '"'
  | '\\' => some '\\'
  | '/' => some '/'
  | 'b' => some '\x08'
  | 'f' => some '\x0c'
  | 'n' => some '\n'
  | 'r' => some '\r'
  | 't' => some '\t'
  | _ => none

/-- One character between tokens. -/
def startAt (c : Char) : Place × List Token :=
  if c = '"' then (.text ⟨[], true, none⟩, [])
  else if isGap c then (.between, [])
  else
    match mark? c with
    | some token => (.between, [token])
    | none => (.word [c], [])

/-- One character, or a gap where the text is ill-formed: the place behind it and the tokens it
completes. -/
def step : Place → Option Char → Option (Place × List Token)
  | .between, some c => some (startAt c)
  | .word chars, some c =>
    if c = '"' ∨ isGap c ∨ (mark? c).isSome then do
      let token ← ofWord? chars.reverse
      let (place, tokens) := startAt c
      some (place, token :: tokens)
    else some (.word (c :: chars), [])
  | .text t, none => some (.text t.spoil, [])
  | .text t, some c =>
    if c = '"' then some (.between, [t.close])
    else if c = '\\' then some (.escape t, [])
    else if c.toNat < 0x20 then none
    else some (.text (t.push c), [])
  | .escape t, some c =>
    if c = 'u' then some (.unit t 0 0, [])
    else do some (.text (t.push (← shortEscape? c)), [])
  | .unit t value count, some c => do
    let value := value * 16 + (← Text.hexDigit? c)
    if count = 3 then some (.text (t.pushUnit value), []) else some (.unit t value (count + 1), [])
  | _, none => none

/-- The tokens that the end of a text completes at a place. -/
def finish : Place → Option (List Token)
  | .between => some []
  | .word chars => do some [← ofWord? chars.reverse]
  | _ => none

/-- What can be read of a sequence: its front up to the first fault, and whether that is all. -/
structure Front (α : Type) where
  /-- What comes before the first fault. -/
  front : α
  /-- Whether there is no fault. -/
  whole : Bool

/-- All that was read, if there was no fault. -/
def Front.all? {α : Type} (f : Front α) : Option α :=
  if f.whole then some f.front else none

/-- The tokens of the characters from a place on, behind those already read (the last one first). -/
def readFrom (done : List Token) (place : Place) : List (Option Char) → Front (List Token)
  | [] =>
    match finish place with
    | some tokens => ⟨done.reverse ++ tokens, true⟩
    | none => ⟨done.reverse, false⟩
  | c :: rest =>
    match step place c with
    | some (place, tokens) => readFrom (tokens.reverse ++ done) place rest
    | none => ⟨done.reverse, false⟩

/-- The tokens of a text, given as characters with gaps where it is ill-formed. -/
def read (cs : List (Option Char)) : Front (List Token) :=
  readFrom [] .between cs

end Token

/-! ### Building a document from its tokens -/

namespace Doc

/-- A list or record that is still open. -/
inductive Frame where
  /-- A list with the items so far, the last one first. -/
  | list (items : List Doc)
  /-- A record with the fields so far, the last one first, and the name whose value comes next. -/
  | record (fields : List (Option String × Doc)) (name : Option String)

/-- What must come next. -/
inductive Awaits where
  /-- A value. -/
  | value
  /-- The first item of a list, or its end. -/
  | firstItem
  /-- The name of a field. -/
  | name
  /-- The first name of a record, or its end. -/
  | firstName
  /-- The colon behind a name. -/
  | colon (name : Option String)
  /-- A comma or the end of the innermost list or record. -/
  | next
  /-- Nothing: the document is complete. -/
  | nothing (d : Doc)

/-- A document under construction. -/
structure Builder where
  /-- The open lists and records, the innermost first. -/
  frames : List Frame
  /-- What must come next. -/
  awaits : Awaits

/-- The builder after a complete value inside the open frames. -/
def Builder.place (d : Doc) : List Frame → Builder
  | [] => ⟨[], .nothing d⟩
  | .list items :: frames => ⟨.list (d :: items) :: frames, .next⟩
  | .record fields name :: frames => ⟨.record ((name, d) :: fields) none :: frames, .next⟩

/-- A list or record that `outer` enclose, or the mark that it is nested too deep. -/
def Builder.bounded (outer : List Frame) (d : Doc) : Doc :=
  if outer.length < depthLimit then d else tooDeep

/-- The builder after a token. -/
def Builder.step (b : Builder) (token : Token) : Option Builder :=
  match b.awaits, token, b.frames with
  | .value, .word d, frames | .firstItem, .word d, frames => some (place d frames)
  | .value, .text s, frames | .firstItem, .text s, frames => some (place (text s) frames)
  | .value, .listStart, frames | .firstItem, .listStart, frames =>
    some ⟨.list [] :: frames, .firstItem⟩
  | .value, .recordStart, frames | .firstItem, .recordStart, frames =>
    some ⟨.record [] none :: frames, .firstName⟩
  | .firstItem, .listEnd, .list items :: frames | .next, .listEnd, .list items :: frames =>
    some (place (bounded frames (list items.reverse)) frames)
  | .firstName, .recordEnd, .record fields _ :: frames
  | .next, .recordEnd, .record fields _ :: frames =>
    some (place (bounded frames (record fields.reverse)) frames)
  | .name, .text s, frames | .firstName, .text s, frames => some ⟨frames, .colon s⟩
  | .colon name, .colon, .record fields _ :: frames => some ⟨.record fields name :: frames, .value⟩
  | .next, .comma, .list items :: frames => some ⟨.list items :: frames, .value⟩
  | .next, .comma, .record fields name :: frames => some ⟨.record fields name :: frames, .name⟩
  | _, _, _ => none

/-- The builder that awaits a whole document. -/
def Builder.start : Builder := ⟨[], .value⟩

/-- The document that the tokens make. -/
def ofTokens? (tokens : List Token) : Option Doc := do
  let b ← tokens.foldlM Builder.step Builder.start
  match b.awaits with
  | .nothing d => some d
  | _ => none

/-- The document of a text, given as characters with gaps where it is ill-formed. -/
def ofScan? (cs : List (Option Char)) : Option Doc := do
  ofTokens? (← (Token.read cs).all?)

/-- The document of a text. -/
def ofText? (text : String) : Option Doc :=
  ofScan? (text.toList.map some)

/-- The document of the bytes of a text. -/
def ofBytes? (bytes : List UInt8) : Option Doc :=
  ofScan? (Text.Utf8.scan bytes)

/-! ### The front of a document -/

/-- The builder after the tokens up to the first one that may not come next. -/
def Builder.advance (b : Builder) : List Token → Builder
  | [] => b
  | token :: rest =>
    match b.step token with
    | some b => b.advance rest
    | none => b

/-- The document inside the open frames, where each of them ends here. -/
def closeFrames (d : Doc) : List Frame → Doc
  | [] => d
  | .list items :: frames => closeFrames (list (d :: items).reverse) frames
  | .record fields name :: frames => closeFrames (record ((name, d) :: fields).reverse) frames

/-- The document as far as it is built, if it has begun. -/
def Builder.front? (b : Builder) : Option Doc :=
  match b.awaits, b.frames with
  | .nothing d, _ => some d
  | _, [] => none
  | _, .list items :: frames => some (closeFrames (list items.reverse) frames)
  | _, .record fields _ :: frames => some (closeFrames (record fields.reverse) frames)

/-- What the bytes of a text say before the first fault in it: the document that they begin, with
all lists and records ending there. The bytes of a sound text say its document. -/
def frontOfBytes? (bytes : List UInt8) : Option Doc :=
  (Builder.start.advance (Token.read (Text.Utf8.scan bytes)).front).front?

end Doc

/-- The value of a JSON text. -/
def Json.ofText? (text : String) : Option Json := do
  (← Doc.ofText? text).value?

/-- The value of the bytes of a JSON text. -/
def Json.ofBytes? (bytes : List UInt8) : Option Json := do
  (← Doc.ofBytes? bytes).value?

end ChainFeed
