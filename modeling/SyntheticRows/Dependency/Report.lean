import SyntheticRows.Dependency.Order
import SyntheticRows.Json.Value
/-!
What the dependencies among tables look like: their number, an order or a cycle, and the names that
no table bears.
-/

namespace SyntheticRows

structure DependencyReport where
  nodes : Nat
  edges : Nat
  order : Option (List String)
  cycle : Option (List String)
  missing : List MissingDependency
  deriving DecidableEq, Repr

namespace DependencyReport

/-- Every entry of a dependency list that names a table counts, repeated ones included. -/
def countEdges (nodes : List DependencyNode) : Nat :=
  nodes.foldl (fun count node =>
    count + node.dependsOn.countP fun name => nodes.any (·.name == name)) 0

def ofNodes (nodes : List DependencyNode) : DependencyReport :=
  let report : DependencyReport :=
    { nodes := nodes.length, edges := countEdges nodes, order := none, cycle := none, missing := [] }
  match topologicalOrder id nodes .skip with
  | .ok ordered =>
      { report with order := some (ordered.items.map (·.name)), missing := ordered.missing }
  | .error (.cyclic names) => { report with cycle := some names }
  | .error (.missing _) => report

end DependencyReport

open Json

def MissingDependency.toDocument (missing : MissingDependency) : Json :=
  object [("table", string missing.table), ("dependency", string missing.dependency)]

def DependencyReport.toDocument (report : DependencyReport) : Json :=
  object [("summary", object [("nodes", natural report.nodes), ("edges", natural report.edges)]),
    ("order", optional strings report.order), ("cycle", optional strings report.cycle),
    ("missing", array (report.missing.map MissingDependency.toDocument))]

end SyntheticRows
