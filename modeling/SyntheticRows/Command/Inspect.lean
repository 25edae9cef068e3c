import SyntheticRows.Command.Arguments
import SyntheticRows.Command.Connection
import SyntheticRows.Command.Session
import SyntheticRows.Schema.Inspection
/-!
Showing the tables of a namespace and their order.
-/

namespace SyntheticRows

open Work in
/-- The inspection goes to a file if one is named. -/
def InspectArguments.run {σ : Type} (connector : Connector σ) (arguments : InspectArguments) :
    Work σ Unit := do
  let connection ← liftM arguments.target.connection
  let _ ← liftM (Command.engineOf connection)
  let server ← connect connector connection
  let schema ← schema server arguments.target.namespaceName
  match arguments.out with
  | some path => writeDocument path schema.inspection
  | none => print (schema.inspection.pretty ++ "\n")

end SyntheticRows
