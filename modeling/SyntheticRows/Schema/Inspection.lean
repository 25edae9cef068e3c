import SyntheticRows.Dependency.Report
import SyntheticRows.Schema.Document
/-!
What an inspection of a database shows: its schema and the order of its tables.
-/

namespace SyntheticRows

def Table.node (table : Table) : DependencyNode :=
  { name := table.name, dependsOn := table.dependsOn }

def Schema.dependencyReport (schema : Schema) : DependencyReport :=
  .ofNodes (schema.tables.map Table.node)

def Schema.inspection (schema : Schema) : Json :=
  .object [("schema", schema.toDocument), ("dependencies", schema.dependencyReport.toDocument)]

end SyntheticRows
