import SyntheticRows.Json.Printer
import SyntheticRows.Run.Record
import SyntheticRows.Workspace
/-!
The beginning of a run: its directory is made, with what is recorded of the run and an empty log.
-/

namespace SyntheticRows

def Workspace.writeDocument (workspace : Workspace) (path : String) (document : Json) :
    Except FileFault Workspace :=
  workspace.write path document.pretty

/-- Makes the directory of a run inside a parent. -/
def RunDirectory.make (parent : String) (record : RunRecord) (workspace : Workspace) :
    Except FileFault (RunDirectory × Workspace) := do
  let directory := ofRecord parent record
  let workspace ← workspace.writeDocument directory.config record.toDocument
  let workspace ← workspace.write directory.log ""
  pure (directory, workspace)

end SyntheticRows
