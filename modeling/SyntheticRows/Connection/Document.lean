import SyntheticRows.Connection.Redaction
import SyntheticRows.Json.Value
/-!
Connection targets without their secrets as JSON documents.
-/

namespace SyntheticRows

open Json

def RedactedConnection.toDocument (connection : RedactedConnection) : Json :=
  object [("engine", optional string connection.engine), ("user", optional string connection.user),
    ("host", optional string connection.host),
    ("port", optional (fun port => natural port.toNat) connection.port),
    ("database", optional string connection.database), ("redacted", string connection.redacted)]

end SyntheticRows
