/-!
Why a row store could not do what it was asked.
-/

namespace SyntheticRows

inductive StoreError where
  | query (reason : String)
  | unknownTable (table : String)
  /-- The row was refused. -/
  | rejected (reason : String)
  deriving DecidableEq, Repr

def StoreError.message : StoreError → String
  | query reason => "query failed: " ++ reason
  | unknownTable table => "unknown table: " ++ table
  | rejected reason => "row rejected: " ++ reason

end SyntheticRows
