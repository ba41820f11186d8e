import ChainFeed.Text.Pieces
import ChainFeed.Url.Escape

/-!
# Paths of URLs

The path of a URL means only what its scheme says, or it is a list of **segments**. Segments are
followed one after the other: a dot stays where it is, two dots lead one place up, and no path leads
out of a **drive**, a letter with a colon or a bar behind it. Only the URL of a file can be about a
drive itself: one that its path starts with, which then belongs to no host.
-/

namespace ChainFeed.Url

/-- Whether a character counts for nothing anywhere in a URL. -/
def isBreak (c : Char) : Bool := c == '\t' || c == '\n' || c == '\r'

/-- The characters that count. -/
def solid (cs : List Char) : List Char := cs.filter (!isBreak ·)

/-- The path of a URL. -/
inductive Path where
  /-- A path that means only what its scheme says. -/
  | opaqueText (text : String)
  /-- A path of segments, each with a slash in front. -/
  | segments (segments : List String)
  deriving DecidableEq, Repr

/-- The text of a path. -/
def Path.text : Path → String
  | .opaqueText text => text
  | .segments parts => String.join (parts.map ("/" ++ ·))

/-! ### Segments -/

/-- Whether a segment stands for the place where it is. -/
def isDot (segment : String) : Bool :=
  [".", "%2e"].contains (segment.map Char.toLower)

/-- Whether a segment leads one place up. -/
def isDoubleDot (segment : String) : Bool :=
  ["..", ".%2e", "%2e.", "%2e%2e"].contains (segment.map Char.toLower)

/-- Whether the characters are the letter of a drive. -/
def isDrive : List Char → Bool
  | [c, mark] => c.isAlpha && (mark == ':' || mark == '|')
  | _ => false

/-- Whether no path leads out of a segment: it is a drive, or one with a backslash behind. -/
def holds (segment : String) : Bool :=
  match segment.toList with
  | c :: mark :: '\\' :: _ => isDrive [c, mark]
  | cs => isDrive cs

/-- The segments one place up. -/
def up (segments : List String) : List String :=
  if segments.getLast?.any holds then segments else segments.dropLast

/-! ### Following a path -/

/-- Where a path leads. -/
structure Walk where
  /-- The segments that it has led to. -/
  segments : List String
  /-- Whether it has led to a drive. -/
  onDrive : Bool
  deriving DecidableEq, Repr

/-- A letter and a colon with a break behind them, and what counts behind that: in the first piece
of a file's path they are a segment of their own. -/
def brokenDrive? (piece : List Char) : Option (String × List Char) :=
  match solid piece, (piece.dropWhile (· ≠ ':')).drop 1 with
  | c :: ':' :: d :: rest, next :: _ =>
    if c.isAlpha && isBreak next then some (String.ofList [c, ':'], d :: rest) else none
  | _, _ => none

/-- The path of a file behind a segment that neither stays nor leads up, if it is the first one. -/
def Walk.enterFile (piece : List Char) (walk : Walk) : Walk :=
  match solid piece with
  | [c, mark] =>
    if isDrive [c, mark] then ⟨[String.ofList [c, ':']], true⟩
    else { walk with segments := [escape escapedInPath [c, mark]] }
  | cs =>
    match brokenDrive? piece with
    | some (drive, rest) => { walk with segments := [drive, escape escapedInPath rest] }
    | none => { walk with segments := [escape escapedInPath cs] }

/-- The path behind one more piece. A dot segment at the end leaves an empty segment behind. -/
def Walk.follow (ofFile last : Bool) (piece : List Char) (walk : Walk) : Walk :=
  let segment := escape escapedInPath (solid piece)
  let ending := if last then [""] else []
  if isDoubleDot segment then { walk with segments := up walk.segments ++ ending }
  else if isDot segment then { walk with segments := walk.segments ++ ending }
  else if ofFile && walk.segments.isEmpty then walk.enterFile piece
  else { walk with segments := walk.segments ++ [segment] }

/-- The path behind all pieces. -/
def Walk.followAll (ofFile : Bool) (walk : Walk) : List (List Char) → Walk
  | [] => walk
  | [piece] => walk.follow ofFile true piece
  | piece :: rest => (walk.follow ofFile false piece).followAll ofFile rest

/-- The segments of a file's path: empty ones in front count for nothing. -/
def trimmed (segments : List String) : List String :=
  match segments.dropWhile (· = "") with
  | [] => [""]
  | segments => segments

/-- Where the path that the characters write leads from some segments on. -/
def walk (ofFile : Bool) (isSlash : Char → Bool) (outer : List String) (cs : List Char) : Walk :=
  let led := (⟨outer, false⟩ : Walk).followAll ofFile (Text.pieces isSlash cs)
  if ofFile then { led with segments := trimmed led.segments } else led

end ChainFeed.Url
