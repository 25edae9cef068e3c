import SyntheticRows.Command.Arguments
import SyntheticRows.Command.Error
import SyntheticRows.Connection.Redaction
/-!
The connection text of a command, and the engine that it names.
-/

namespace SyntheticRows

namespace Command

open Text

/-- The text is given either with its option or by position. -/
def connectionText (named positional : Option String) : Except CommandError String :=
  match named, positional with
  | some connection, none | none, some connection => .ok connection
  | some _, some _ => .error (.configuration "use either --conn or positional connection string")
  | none, none => .error (.configuration "connection string is required")

def schemes : List (List Char) :=
  ["postgres://".toList, "postgresql://".toList]

/-- The engine that a connection text names. An error shows the text without its secrets. -/
def engineOf (connection : String) : Except CommandError String :=
  if schemes.any fun scheme => (after? scheme connection.toList).isSome then .ok "postgres"
  else .error (.unsupportedEngine (redactConnection connection).redacted)

end Command

def Target.connection (target : Target) : Except CommandError String :=
  Command.connectionText target.named target.positional

end SyntheticRows
