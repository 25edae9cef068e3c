import SyntheticRows.Csv.Writer
import SyntheticRows.Store.Memory
import SyntheticRows.Workspace
/-!
The tables of a store as files, one for each table in the order of their names.
-/

namespace SyntheticRows.Csv

/-- A file that is written, with what is said about it. -/
structure TableFile where
  table : String
  rows : Nat
  content : String
  deriving DecidableEq, Repr

namespace TableFile

def name (file : TableFile) : String :=
  file.table ++ ".csv"

def ofTable (name : String) (table : MemoryTable) : TableFile :=
  { table := name, rows := table.rows.size, content := tableText table.columns table.rows.toList }

end TableFile

def tableFiles (store : MemoryStore) : List TableFile :=
  store.tables.entries.map fun (name, table) => .ofTable name table

/-- What comes of an export: the files that are written, up to the first one that cannot be made. -/
structure Export where
  files : List TableFile
  workspace : Workspace
  outcome : Except FileFault Unit

/-- Exports to a directory, which the names of tables may leave. -/
def exported (directory : List String) : Workspace → List TableFile → Export
  | workspace, [] => { files := [], workspace, outcome := .ok () }
  | workspace, file :: files =>
      match workspace.create directory file.name file.content with
      | .error fault => { files := [], workspace, outcome := .error fault }
      | .ok workspace =>
          let others := exported directory workspace files
          { others with files := file :: others.files }

/-- A file under the name by which its directory lists it, if it lies in the directory. -/
def TableFile.listed? (file : TableFile) : Option (String × TableFile) :=
  match Place.follow [] file.name with
  | [name] => (Text.before? ".csv".toList name.toList).map fun table =>
      (name, { file with table := String.ofList table })
  | _ => none

/-- What an empty directory lists after an export in which all files are made. The last of several
files at one place stays. -/
def exportStore (store : MemoryStore) : Except FileFault (List TableFile) :=
  let { files, outcome, .. } := exported [] (.ofFiles []) (tableFiles store)
  outcome.map fun () => (NameMap.ofList (files.filterMap TableFile.listed?)).entries.map (·.2)

end SyntheticRows.Csv
