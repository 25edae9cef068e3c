import SyntheticRows.Connection.Document
import SyntheticRows.FileName
import SyntheticRows.Time.Instant
/-!
What is recorded of a run before it begins, and the directory in which it leaves its files.
-/

namespace SyntheticRows

structure RunOptions where
  namespaceName : String
  rulesPath : String
  /-- The seed that repeats the run. -/
  seed : UInt64
  dryRun : Bool
  strictDependencies : Bool
  deriving DecidableEq, Repr

structure RunRecord where
  id : String
  startedAt : Instant
  engine : String
  options : RunOptions
  connection : RedactedConnection
  deriving DecidableEq, Repr

open Json

def RunOptions.toDocument (options : RunOptions) : Json :=
  object [("namespace", string options.namespaceName), ("rules_path", string options.rulesPath),
    ("seed", natural options.seed.toNat), ("dry_run", bool options.dryRun),
    ("strict_dependencies", bool options.strictDependencies)]

namespace RunRecord

def toDocument (record : RunRecord) : Json :=
  object [("run_id", string record.id), ("started_at", string record.startedAt.text),
    ("engine", string record.engine), ("options", record.options.toDocument),
    ("connection", record.connection.toDocument)]

/-- Runs sort by the time of their beginning. -/
def directoryName (record : RunRecord) : String :=
  record.startedAt.stamp ++ "__run_" ++ record.id

end RunRecord

/-- The directory of a run. -/
structure RunDirectory where
  root : String
  deriving DecidableEq, Repr

namespace RunDirectory

def ofRecord (parent : String) (record : RunRecord) : RunDirectory :=
  { root := within parent record.directoryName }

def config (directory : RunDirectory) : String :=
  within directory.root "config.json"

def schema (directory : RunDirectory) : String :=
  within directory.root "schema.json"

def report (directory : RunDirectory) : String :=
  within directory.root "population_report.json"

def log (directory : RunDirectory) : String :=
  within directory.root "logs.ndjson"

/-- Where the tables of a dry run are exported. -/
def data (directory : RunDirectory) : String :=
  within directory.root "data"

end RunDirectory

end SyntheticRows
