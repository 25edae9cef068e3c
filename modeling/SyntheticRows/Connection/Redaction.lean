import SyntheticRows.Text.Cut
import SyntheticRows.Text.LowerCase
import SyntheticRows.Text.Numeral
/-!
Connection texts without their secrets. The password and the values of sensitive query parameters
give way to a mask; all else stays as it was written.
-/

namespace SyntheticRows

open Text

/-- A connection target with its secrets masked. -/
structure RedactedConnection where
  engine : Option String
  user : Option String
  host : Option String
  port : Option UInt16
  database : Option String
  redacted : String
  deriving DecidableEq, Repr

namespace Redaction

def mask : List Char :=
  "***".toList

def sensitiveKeys : List String :=
  ["password", "pass", "token", "sslpassword"]

def isSensitiveKey (key : List Char) : Bool :=
  sensitiveKeys.any fun name => name.toList == lowerAscii key

def maskParameter (parameter : List Char) : List Char :=
  match cutFirst '=' parameter with
  | some (key, _) => if isSensitiveKey key then key ++ '=' :: mask else parameter
  | none => parameter

def maskQuery (query : List Char) : List Char :=
  joinWith ['&'] ((splitAtEach '&' query).map maskParameter)

/-- A user name holds no slash, so an at sign behind a path does not end credentials. -/
def isCredentials (text : List Char) : Bool :=
  match cutFirst ':' text with
  | some (user, _) => !user.contains '/'
  | none => !text.contains '/'

/-- The credentials in front of the last at sign, and what follows them. -/
def splitCredentials (rest : List Char) : Option (List Char) × List Char :=
  match cutLast '@' rest with
  | some (credentials, target) =>
      if isCredentials credentials then (some credentials, target) else (none, rest)
  | none => (none, rest)

def present? (text : List Char) : Option String :=
  if text.isEmpty then none else some (String.ofList text)

def port? (digits : List Char) : Option UInt16 :=
  let value := decimalValue digits
  if value < UInt16.size then some value.toUInt16 else none

/-- The host and the port behind the last colon. Digits beyond the range name no port. -/
def splitHost (text : List Char) : Option String × Option UInt16 :=
  match cutLast ':' text with
  | some (host, port) =>
      if isNumeral port then (present? host, port? port) else (present? text, none)
  | none => (present? text, none)

/-- The user and the masked form of credentials, the at sign included. -/
def maskCredentials (credentials : List Char) : List Char × List Char :=
  match cutFirst ':' credentials with
  | some (user, _) => (user, user ++ ':' :: mask ++ ['@'])
  | none => (credentials, credentials ++ ['@'])

/-- The part of a connection text in front of its query. -/
def redactBase (base : List Char) : RedactedConnection × List Char :=
  let unknown : RedactedConnection :=
    { engine := none, user := none, host := none, port := none, database := none, redacted := "" }
  match cutFirstText "://".toList base with
  | none => (unknown, base)
  | some (scheme, rest) =>
      let (credentials, target) := splitCredentials rest
      let (hostPort, path) := (cutFirst '/' target).getD (target, [])
      let (host, port) := splitHost hostPort
      let masked := credentials.map maskCredentials
      let pathText := if target.contains '/' then '/' :: path else []
      ({ unknown with
          engine := some (String.ofList scheme)
          user := masked.map fun (user, _) => String.ofList user
          host, port
          database := present? path },
        scheme ++ "://".toList ++ (masked.map (·.2)).getD [] ++ hostPort ++ pathText)

end Redaction

/-- Masks the secrets of a connection text. Without a scheme only the query is masked. -/
def redactConnection (connection : String) : RedactedConnection :=
  match cutFirst '?' connection.toList with
  | none =>
      let (parts, masked) := Redaction.redactBase connection.toList
      { parts with redacted := String.ofList masked }
  | some (base, query) =>
      let (parts, masked) := Redaction.redactBase base
      { parts with redacted := String.ofList (masked ++ '?' :: Redaction.maskQuery query) }

end SyntheticRows
