import SyntheticRows.Csv.Export
import SyntheticRows.Plan.Rules
import SyntheticRows.Population.Engine
/-!
Filling the tables of a schema in memory.
-/

namespace SyntheticRows

namespace Progress

def start {σ : Type} (store : σ) (stream : RandomStream) : Progress σ :=
  { store, stream, events := #[] }

end Progress

/-- A run over a fresh store in memory that holds the given tables. -/
def populateInMemory (policy : MissingPolicy) (tables : List PlannedTable)
    (stream : RandomStream) : Except GenerationError PopulationReport × Progress MemoryStore :=
  Population.run MemoryStore.rowStore policy tables (.start (.ofTables tables) stream)

/-- Plans the tables of a schema, applies a configuration and runs. -/
def dryRun (schema : Schema) (config : RulesConfig) (policy : MissingPolicy)
    (stream : RandomStream) : Except GenerationError (PopulationReport × MemoryStore) := do
  let applied := applyRules (planTables schema) config
  applied.outcome
  let (outcome, progress) := populateInMemory policy applied.tables stream
  let report ← outcome
  pure (report, progress.store)

end SyntheticRows
