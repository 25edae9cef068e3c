import SyntheticRows.Command.Arguments
import SyntheticRows.Command.Connection
import SyntheticRows.Command.Session
import SyntheticRows.Population.DryRun
import SyntheticRows.Schema.Document
import SyntheticRows.Store.Server
/-!
Generating rows for all tables of a namespace.
-/

namespace SyntheticRows

namespace GenerateArguments

/-- What is recorded of the run. -/
def record (arguments : GenerateArguments) (surroundings : Surroundings)
    (connection engine : String) : RunRecord :=
  { id := surroundings.runId
    startedAt := surroundings.now
    engine
    options := {
      namespaceName := arguments.target.namespaceName
      rulesPath := arguments.rules
      seed := arguments.seed.getD surroundings.freshSeed
      dryRun := arguments.dryRun
      strictDependencies := arguments.strictDependencies }
    connection := redactConnection connection }

end GenerateArguments

namespace Generation

open Work

variable {σ : Type}

/-- Plans the tables of a schema with a configuration. -/
def plannedTables (schema : Schema) (config : RulesConfig) : Work σ (List PlannedTable) := do
  let applied := applyRules (planTables schema) config
  reportAll applied.events
  attempt .generation applied.outcome
  pure applied.tables

/-- Exports the tables of a store, up to the first that cannot be made a file. -/
def exportTables (directory : RunDirectory) (store : MemoryStore) : Work σ Unit := do
  let session ← get
  let { files, workspace, outcome } := Csv.exported (Place.follow [] directory.data)
    (session.workspace.makeDirectory directory.data) (Csv.tableFiles store)
  set { session with workspace }
  for file in files do
    report (.tableExported file.table file.rows file.content.utf8ByteSize
      (within directory.data file.name))
  attempt .tableFile outcome
  report (.dryRunExported files.length directory.data)

/-- Fills tables in memory and exports them. -/
def populateFiles (directory : RunDirectory) (policy : MissingPolicy) (tables : List PlannedTable)
    (stream : RandomStream) : Work σ PopulationReport := do
  let (outcome, progress) := populateInMemory policy tables stream
  reportAll progress.events.toList
  let report ← attempt .generation outcome
  exportTables directory progress.store
  pure report

/-- Fills the tables of a namespace on the server. -/
def populateServer (server : Server σ) (namespaceName : String) (policy : MissingPolicy)
    (tables : List PlannedTable) (stream : RandomStream) : Work σ PopulationReport := do
  let session ← get
  let (outcome, progress) := Population.run (server.rowStore namespaceName) policy tables
    (.start session.server stream)
  set { session with server := progress.store, events := session.events ++ progress.events }
  attempt .generation outcome

def reportAborted (table : TableReport) : Work σ Unit :=
  report (.abortedTable table.table table.rowsInserted table.rowsRequested)

end Generation

open Work Generation in
/-- Fills the tables and leaves a record of the run in its directory. -/
def GenerateArguments.run {σ : Type} (connector : Connector σ) (surroundings : Surroundings)
    (arguments : GenerateArguments) : Work σ Unit := do
  let connection ← liftM arguments.target.connection
  let engine ← liftM (Command.engineOf connection)
  let config ← readRules arguments.rules
  let record := arguments.record surroundings connection engine
  let seed := record.options.seed
  let directory ← startRun arguments.runDirectory record
  report (.runStarted engine seed arguments.dryRun directory.root)
  report (.rulesLoaded arguments.rules config.tables.entries.length)
  let server ← connect connector connection
  let schema ← schema server arguments.target.namespaceName
  writeDocument directory.schema schema.toDocument
  let tables ← plannedTables schema config
  let policy := MissingPolicy.ofStrict arguments.strictDependencies
  let population ←
    if arguments.dryRun then populateFiles directory policy tables (.ofSeed seed)
    else populateServer server schema.namespaceName policy tables (.ofSeed seed)
  writeDocument directory.report population.toDocument
  report (.reportWritten directory.report)
  population.abortedTables.forM reportAborted
  report (.runFinished population.rowsInserted population.rowsFailed)

end SyntheticRows
