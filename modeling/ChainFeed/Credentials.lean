import ChainFeed.Json.Reader
import ChainFeed.Text.Base64

/-!
# Credentials

A user name and perhaps a password, written as `user` or `user:password`. Everything behind the
first colon is the password, and an empty password is none. Shown to a reader, the password is
hidden.
-/

namespace ChainFeed

/-- A user name and perhaps a password. -/
structure Credentials where
  /-- The user name. -/
  username : String
  /-- The password, if there is one. -/
  password : Option String
  deriving DecidableEq, Repr

namespace Credentials

/-- Why a text holds no credentials: the user name is empty. -/
inductive Error where
  /-- Nothing stands in front of the first colon. -/
  | noUsername
  deriving DecidableEq, Repr

/-- The text of the error. -/
def Error.message : Error → String
  | noUsername => "Invalid auth format. Expected 'user' or 'user:password'"

/-- The credentials that a text holds. -/
def parse (text : String) : Except Error Credentials :=
  let username := text.toList.takeWhile (· ≠ ':')
  let password := (text.toList.dropWhile (· ≠ ':')).drop 1
  if username.isEmpty then .error .noUsername
  else .ok {
    username := String.ofList username
    password := if password.isEmpty then none else some (String.ofList password) }

/-- The credentials for a reader, without the password. -/
def masked (credentials : Credentials) : String :=
  credentials.username ++ if credentials.password.isSome then ":***" else ""

/-- The written form of credentials. -/
def toJson (credentials : Credentials) : Json :=
  .record [
    ("username", .text credentials.username),
    ("password", .textOrNull credentials.password)]

/-- Reads credentials. -/
def read : Reader Credentials := fun d => do
  let slot ← d.slots ["username", "password"]
  some {
    username := ← (slot "username").required Doc.readText
    password := ← (slot "password").optional Doc.readText }

/-- The credentials as the value of an authorization header. -/
def header (credentials : Credentials) : String :=
  "Basic " ++ Text.Base64.encode (Text.Utf8.encode
    (credentials.username ++ ":" ++ credentials.password.getD ""))

end Credentials

end ChainFeed
