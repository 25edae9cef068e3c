import SyntheticRows.ColumnType.Fault
import SyntheticRows.Server.Basic
/-!
Why the tables of a namespace could not be discovered.
-/

namespace SyntheticRows

inductive DiscoveryError where
  /-- The server did not answer a question. -/
  | server (fault : ServerFault)
  | columnType (cause : ColumnTypeError)
  deriving DecidableEq, Repr

/-- The words for a question that the server did not answer. -/
def serverFaultText (fault : ServerFault) : String :=
  "database error: " ++ fault.message

def DiscoveryError.message : DiscoveryError → String
  | server fault => serverFaultText fault
  | columnType cause => cause.message

end SyntheticRows
