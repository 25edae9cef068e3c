import SyntheticRows.Dependency.Order
import SyntheticRows.Json.Record
/-!
Tables with their dependencies and what is made of missing ones, as JSON documents.
-/

namespace SyntheticRows

open Json

def DependencyNode.ofDocument? (value : Json) : Option DependencyNode := do
  match ← record? [["name"], ["depends_on"]] 2 value with
  | [some name, some dependsOn] => do
      some { name := ← name.string?, dependsOn := ← list? string? dependsOn }
  | _ => none

namespace MissingPolicy

def ofName? : String → Option MissingPolicy
  | "skip" => some skip
  | "fail" => some fail
  | _ => none

/-- The name of a policy, which may also be the only field of an object, with nothing in it. -/
def ofDocument? : Json → Option MissingPolicy
  | string name | object [(name, null)] => ofName? name
  | _ => none

/-- The policy among the options of a population. -/
def ofOptions? (value : Json) : Option MissingPolicy := do
  match ← record? [["missing_dependencies"]] 1 value with
  | [some policy] => ofDocument? policy
  | _ => none

end MissingPolicy

end SyntheticRows
