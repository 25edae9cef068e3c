/-!
The order in which tables are filled: each table stands behind the tables it depends on. Tables are
visited in the order given and, before a table is emitted, its dependencies are visited in the
order of its list. A dependency on the own name is no dependency; any other name stands for the
first table that bears it.
-/

namespace SyntheticRows

/-- What the order of tables depends on. -/
structure DependencyNode where
  name : String
  dependsOn : List String
  deriving DecidableEq, Repr

/-- What becomes of a dependency on a name that no table bears. -/
inductive MissingPolicy where
  | skip
  | fail
  deriving DecidableEq, Repr

def MissingPolicy.ofStrict (strict : Bool) : MissingPolicy :=
  if strict then fail else skip

structure MissingDependency where
  table : String
  dependency : String
  deriving DecidableEq, Repr

inductive DependencyError where
  /-- The names along a cycle; the first one is repeated at the end. -/
  | cyclic (names : List String)
  | missing (dependency : MissingDependency)
  deriving DecidableEq, Repr

def DependencyError.message : DependencyError → String
  | cyclic names => "cyclic table dependency: " ++ " -> ".intercalate names
  | missing ⟨table, dependency⟩ => s!"table '{table}' depends on unknown table '{dependency}'"

inductive Mark where
  | unvisited
  | inProgress
  | done
  deriving DecidableEq, Repr

/-- The state of a depth-first traversal; tables are known by their position. -/
structure Traversal where
  marks : List Mark
  /-- The tables in progress, each followed by the one it waits for. -/
  stack : List Nat
  order : List Nat
  missing : List MissingDependency
  deriving DecidableEq, Repr

namespace Traversal

def start (count : Nat) : Traversal :=
  { marks := List.replicate count .unvisited, stack := [], order := [], missing := [] }

def mark (traversal : Traversal) (position : Nat) : Mark :=
  traversal.marks.getD position .done

def enter (traversal : Traversal) (position : Nat) : Traversal :=
  { traversal with
    marks := traversal.marks.set position .inProgress
    stack := traversal.stack ++ [position] }

def leave (traversal : Traversal) (position : Nat) : Traversal :=
  { traversal with
    marks := traversal.marks.set position .done
    stack := traversal.stack.dropLast
    order := traversal.order ++ [position] }

/-- Records a missing dependency once. -/
def addMissing (traversal : Traversal) (dependency : MissingDependency) : Traversal :=
  if traversal.missing.contains dependency then traversal
  else { traversal with missing := traversal.missing ++ [dependency] }

/-- The part of the stack from a position onward. -/
def stackFrom (traversal : Traversal) (position : Nat) : List Nat :=
  traversal.stack.drop (traversal.stack.idxOf position)

end Traversal

namespace Dependency

def indexOf? (nodes : List DependencyNode) (name : String) : Option Nat :=
  nodes.findIdx? (·.name == name)

def nameAt (nodes : List DependencyNode) (position : Nat) : String :=
  (nodes[position]?.map (·.name)).getD ""

def cycleNames (nodes : List DependencyNode) (traversal : Traversal) (position : Nat)
    (dependency : String) : List String :=
  (traversal.stackFrom position).map (nameAt nodes) ++ [dependency]

/-- Looks at one dependency of a table; `visit` visits a table that has no mark yet. -/
def follow (nodes : List DependencyNode) (policy : MissingPolicy)
    (visit : Nat → Traversal → Except DependencyError Traversal)
    (table dependency : String) (traversal : Traversal) : Except DependencyError Traversal :=
  if dependency == table then .ok traversal
  else match indexOf? nodes dependency with
    | none =>
        match policy with
        | .fail => .error (.missing ⟨table, dependency⟩)
        | .skip => .ok (traversal.addMissing ⟨table, dependency⟩)
    | some position =>
        match traversal.mark position with
        | .done => .ok traversal
        | .unvisited => visit position traversal
        | .inProgress => .error (.cyclic (cycleNames nodes traversal position dependency))

def followAll (nodes : List DependencyNode) (policy : MissingPolicy)
    (visit : Nat → Traversal → Except DependencyError Traversal) (table : String) :
    List String → Traversal → Except DependencyError Traversal
  | [], traversal => .ok traversal
  | dependency :: dependencies, traversal => do
      let traversal ← follow nodes policy visit table dependency traversal
      followAll nodes policy visit table dependencies traversal

/-- Visits a table and all it depends on. The depth bounds the number of tables in progress. -/
def visit (nodes : List DependencyNode) (policy : MissingPolicy) :
    (depth : Nat) → Nat → Traversal → Except DependencyError Traversal
  | 0, _, traversal => .ok traversal
  | depth + 1, position, traversal =>
      match nodes[position]? with
      | none => .ok traversal
      | some node => do
          let traversal ← followAll nodes policy (visit nodes policy depth) node.name
            node.dependsOn (traversal.enter position)
          .ok (traversal.leave position)

def visitAll (nodes : List DependencyNode) (policy : MissingPolicy) :
    List Nat → Traversal → Except DependencyError Traversal
  | [], traversal => .ok traversal
  | position :: positions, traversal => do
      let traversal ←
        if traversal.mark position = .unvisited then
          visit nodes policy nodes.length position traversal
        else .ok traversal
      visitAll nodes policy positions traversal

/-- The final state of the traversal of all tables. -/
def traverse (nodes : List DependencyNode) (policy : MissingPolicy) :
    Except DependencyError Traversal :=
  visitAll nodes policy (List.range nodes.length) (.start nodes.length)

end Dependency

/-- Things in dependency order, with the dependencies that were skipped. -/
structure DependencyOrder (α : Type) where
  items : List α
  missing : List MissingDependency

/-- The order of things that depend on one another by name. -/
def topologicalOrder {α : Type} (node : α → DependencyNode) (items : List α)
    (policy : MissingPolicy) : Except DependencyError (DependencyOrder α) := do
  let traversal ← Dependency.traverse (items.map node) policy
  .ok { items := traversal.order.filterMap (items[·]?), missing := traversal.missing }

end SyntheticRows
