import ChainFeed.Url.Basic

/-!
# Reading URLs

A text is read as a URL with the same patience everywhere: blanks around it and line breaks in it
count for nothing, a URL with a special scheme may have any number of slashes or backslashes behind
the scheme, and what may not stand in a part is escaped. Only a text without a scheme, with a bad
host, with a bad number behind the host or with a user but no host is refused.
-/

namespace ChainFeed.Url

/-- Whether a character around a URL counts for nothing. -/
def isPadding (c : Char) : Bool := c.toNat ≤ 0x20

/-- The characters of a text without those around it that count for nothing. -/
def unpadded (text : String) : List Char :=
  let cs := text.toList.dropWhile isPadding
  (cs.reverse.dropWhile isPadding).reverse

/-- Whether a character may stand in a scheme behind its first letter. -/
def isSchemeChar (c : Char) : Bool :=
  c.isAlphanum || c == '+' || c == '-' || c == '.'

/-- The scheme at the front of the characters, and those behind its colon. -/
def scheme? (cs : List Char) : Option (String × List Char) :=
  let name := cs.takeWhile fun c => isSchemeChar c || isBreak c
  match solid name, cs.drop name.length with
  | c :: more, ':' :: rest =>
    if c.isAlpha then some (String.ofList ((c :: more).map Char.toLower), rest) else none
  | _, _ => none

/-- Whether a character separates the segments of a path; in the URL of a special scheme a backslash
does so too. -/
def isSlash (special : Bool) (c : Char) : Bool :=
  c == '/' || (special && c == '\\')

/-- The characters behind a slash, if one is in front of them. -/
def behindSlash? (special : Bool) (cs : List Char) : Option (List Char) :=
  match cs.dropWhile isBreak with
  | c :: rest => if isSlash special c then some rest else none
  | [] => none

/-- The path that the characters write; a slash in front of them does not matter. -/
def rootedPath (special : Bool) (cs : List Char) : Path :=
  .segments (walk false (isSlash special) [] ((behindSlash? special cs).getD cs)).segments

/-! ### Hosts with users and numbers -/

/-- The host and what is behind the colon that follows it; a colon between brackets belongs to the
host. -/
def splitNumber (bracketed : Bool) : List Char → List Char × Option (List Char)
  | [] => ([], none)
  | c :: rest =>
    if c = ':' ∧ !bracketed then ([], some rest)
    else
      let (host, number) := splitNumber (c = '[' ∨ (bracketed ∧ c ≠ ']')) rest
      (c :: host, number)

/-- The number that digits behind a host spell; `none` inside if there is none to keep. -/
def portNumber? (scheme : String) (digits : List Char) : Option (Option Nat) := do
  let n ← ofDigits? 10 digits
  if 65535 < n then none
  else some (if digits.isEmpty ∨ impliedNumber? scheme = some n then none else some n)

/-- The URL whose host the characters start with, behind two slashes. The path may follow the number
behind the host at a backslash too. Whether the URL ends behind the characters matters to a user
without a name: nothing may follow one but a host or the end. -/
def withAuthority? (scheme : String) (ends : Bool) (cs : List Char) : Option Url := do
  let special := isSpecial scheme
  let place := cs.takeWhile (!isSlash special ·)
  let path := cs.drop place.length
  let (user, place) := (Text.cutLast '@' place).elim (none, place) fun (user, place) =>
    (some user, place)
  let (name, number) := splitNumber false place
  let (username, password) := Text.cut ':' (user.getD [])
  let password := password.getD []
  let digits := (number.getD []).takeWhile Char.isDigit
  let path := (number.getD []).drop digits.length ++ path
  let isLost := user = some [] ∧ place.isEmpty ∧ !(ends ∧ path.isEmpty)
  let isNamed := !username.isEmpty ∨ !password.isEmpty
  if isLost ∨ (name.isEmpty ∧ (special ∨ isNamed ∨ number.isSome)) then none
  else if !path.head?.all (isSlash true) then none
  else
    some {
      scheme
      username := escape escapedInUser username
      password := escape escapedInUser password
      host := some (← Host.parse? special name)
      portNumber := ← portNumber? scheme digits
      path := if path.isEmpty ∧ !special then .segments [] else rootedPath special path
      query := none
      fragment := none }

/-! ### The whole -/

/-- A URL without host, path, query and fragment. -/
def bare (scheme : String) : Url :=
  ⟨scheme, "", "", none, none, .segments [], none, none⟩

/-- The URL of a file with a host, unless its path is about a drive. -/
def ofFile (host : Host) (cs : List Char) : Url :=
  let led := walk true (isSlash true) [] cs
  { bare "file" with
    host := some (if led.onDrive then .empty else host)
    path := .segments led.segments }

/-- The URL of a file. This machine has no name: neither an empty host nor `localhost` is kept, and
where a drive stands in place of a host, it is one. -/
def file? (cs : List Char) : Option Url :=
  match behindSlash? true cs with
  | none => some (ofFile .empty cs)
  | some rest =>
    match behindSlash? true rest with
    | none => some (ofFile .empty rest)
    | some rest => do
      let place := rest.takeWhile (!isSlash true ·)
      let path := rest.drop place.length
      let name := solid place
      if isDrive name then some (ofFile .empty rest)
      else if name.isEmpty then some (ofFile .empty path)
      else
        let host ← Host.parse? true name
        if host = .domain "localhost" then some (ofFile .empty path)
        else some (ofFile host ((behindSlash? true path).getD path))

/-- The URL of a scheme, without query and fragment. -/
def withScheme? (scheme : String) (ends : Bool) (cs : List Char) : Option Url :=
  if scheme = "file" then file? cs
  else if isSpecial scheme then
    withAuthority? scheme ends ((solid cs).dropWhile (isSlash true))
  else
    match solid cs with
    | '/' :: '/' :: rest => withAuthority? scheme ends rest
    | '/' :: rest => some { bare scheme with path := rootedPath false ('/' :: rest) }
    | cs => some { bare scheme with path := .opaqueText (escape escapedAlways cs) }

/-- The URL with a query and a fragment. -/
def withTail (query fragment : Option (List Char)) (url : Url) : Url :=
  { url with
    query := query.map fun cs => escape (escapedInQuery (isSpecial url.scheme)) (solid cs)
    fragment := fragment.map fun cs => escape escapedInFragment (solid cs) }

/-- The URL that a text writes. -/
def parse? (text : String) : Option Url := do
  let (cs, fragment) := Text.cut '#' (unpadded text)
  let (scheme, rest) ← scheme? cs
  let (body, query) := Text.cut '?' rest
  let ends := query.isNone && fragment.isNone
  some ((← withScheme? scheme ends body).withTail query fragment)

/-- The URL that a text writes which starts with a segment of a path, read from `base` on: the last
segment of the base gives way to the path. A base whose path is opaque has no such URLs. -/
def resolve? (base : Url) (text : String) : Option Url :=
  match base.path with
  | .opaqueText _ => none
  | .segments segments =>
    let (cs, fragment) := Text.cut '#' (unpadded text)
    let (body, query) := Text.cut '?' cs
    let led := walk (base.scheme = "file") (isSlash (isSpecial base.scheme)) segments.dropLast
      (solid body)
    some (({ base with path := .segments led.segments } : Url).withTail query fragment)

/-- The URL with names and values at the end of its query. -/
def addQuery (fields : List (String × String)) (url : Url) : Url :=
  if fields.isEmpty then { url with query := url.query.filter (· ≠ "") }
  else
    let added := String.intercalate "&" (fields.map fun (name, value) =>
      formSpelling name ++ "=" ++ formSpelling value)
    { url with
      query := some (match url.query with
        | none | some "" => added
        | some query => query ++ "&" ++ added) }

end ChainFeed.Url
