import ChainFeed.Text.Numeral

/-!
# Timestamps

Blocks carry their time in the form of RFC 3339: a date, a letter `T` or a blank, a time of day with
an optional fraction of a second, and the offset from universal time. It is kept as the number of
milliseconds since the beginning of 1970, further fractions cut off; a time before that counts as
the beginning of 1970. The second 60 of a minute is the first one of the next minute.
-/

namespace ChainFeed.Timestamp

/-! ### Days -/

/-- Whether a year has 366 days. -/
def isLeap (year : Nat) : Bool :=
  year % 4 == 0 && (year % 100 != 0 || year % 400 == 0)

/-- How many years before a year have 366 days, beginning with the year zero. -/
def leapYearsBefore (year : Nat) : Nat :=
  (year + 3) / 4 - (year + 99) / 100 + (year + 399) / 400

/-- How many days the months of a year have. -/
def monthLengths (year : Nat) : List Nat :=
  [31, if isLeap year then 29 else 28, 31, 30, 31, 30, 31, 31, 30, 31, 30, 31]

/-- The number of a day, counted from the beginning of the year zero, if there is such a day. -/
def dayNumber? (year month day : Nat) : Option Nat := do
  let length ← if month = 0 then none else (monthLengths year)[month - 1]?
  if day = 0 ∨ length < day then none
  else
    let january := 365 * year + leapYearsBefore year
    some (((monthLengths year).take (month - 1)).foldl (· + ·) january + (day - 1))

/-- The number of the first day of 1970. -/
def firstDay : Nat := 719528

/-! ### Reading -/

/-- The number that exactly `n` digits at the front of the characters spell, and what follows. -/
def number? (n : Nat) (cs : List Char) : Option (Nat × List Char) := do
  let digits ← Text.digits? (cs.take n)
  if digits.length = n then some (Text.ofDigits digits, cs.drop n) else none

/-- What follows a character that `allowed` holds. -/
def skip? (allowed : List Char) : List Char → Option (List Char)
  | c :: rest => if allowed.contains c then some rest else none
  | [] => none

/-- The number of a date and what follows. -/
def date? (cs : List Char) : Option (Nat × List Char) := do
  let (year, cs) ← number? 4 cs
  let (month, cs) ← number? 2 (← skip? ['-'] cs)
  let (day, cs) ← number? 2 (← skip? ['-'] cs)
  some (← dayNumber? year month day, cs)

/-- The milliseconds of the digits behind a point, and what follows; no point is no fraction. -/
def fraction? : List Char → Option (Nat × List Char)
  | '.' :: rest =>
    let digits := rest.takeWhile fun c => (Text.digit? c).isSome
    if digits.isEmpty then none
    else do
      let values ← Text.digits? ((digits ++ ['0', '0']).take 3)
      some (Text.ofDigits values, rest.drop digits.length)
  | cs => some (0, cs)

/-- The milliseconds of a time of day, and what follows. -/
def timeOfDay? (cs : List Char) : Option (Nat × List Char) := do
  let (hour, cs) ← number? 2 cs
  let (minute, cs) ← number? 2 (← skip? [':'] cs)
  let (second, cs) ← number? 2 (← skip? [':'] cs)
  let (millis, cs) ← fraction? cs
  if hour < 24 ∧ minute < 60 ∧ second ≤ 60 then
    some (((hour * 60 + minute) * 60 + second) * 1000 + millis, cs)
  else none

/-- The milliseconds of the hours and minutes of an offset. -/
def offsetSize? (cs : List Char) : Option Nat := do
  let (hours, cs) ← number? 2 cs
  let (minutes, cs) ← number? 2 (← skip? [':'] cs)
  if cs.isEmpty ∧ hours < 24 ∧ minutes < 60 then some ((hours * 60 + minutes) * 60000) else none

/-- The milliseconds of an offset that ends the characters; the minus sign may be the mathematical
one. -/
def offset? : List Char → Option Int
  | ['Z'] | ['z'] => some 0
  | '+' :: rest => (offsetSize? rest).map fun n => (n : Int)
  | c :: rest =>
    if c = '-' ∨ c = '−' then (offsetSize? rest).map fun n => -(n : Int) else none
  | [] => none

/-- The milliseconds since the beginning of 1970 of the time that a text writes. -/
def parse? (text : String) : Option Nat := do
  let (day, cs) ← date? text.toList
  let (millis, cs) ← timeOfDay? (← skip? ['T', 't', ' '] cs)
  let offset ← offset? cs
  some (((day : Int) - firstDay) * 86400000 + millis - offset).toNat

end ChainFeed.Timestamp
