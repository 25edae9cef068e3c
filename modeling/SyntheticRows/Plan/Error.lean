import SyntheticRows.Dependency.Order
import SyntheticRows.Rule.Fault
import SyntheticRows.Store.Error
/-!
Why tables could not be planned or filled.
-/

namespace SyntheticRows

inductive GenerationError where
  | rule (table column text : String) (cause : RuleError)
  | missingReferenceTable (table column : String)
  | missingReferenceKey (table column referenced : String)
  | noReferenceRows (table column referenced : String)
  | store (cause : StoreError)
  | dependency (cause : DependencyError)
  deriving DecidableEq, Repr

def GenerationError.message : GenerationError → String
  | rule table column text cause =>
      s!"rule '{text}' for {table}.{column} failed: {cause.message}"
  | missingReferenceTable table column => s!"foreign key {table}.{column} has no referenced table"
  | missingReferenceKey table column referenced =>
      s!"foreign key {table}.{column} references {referenced}, which has no key column"
  | noReferenceRows table column referenced =>
      s!"foreign key {table}.{column}: no rows available in {referenced}"
  | store cause => "store error: " ++ cause.message
  | dependency cause => cause.message

end SyntheticRows
