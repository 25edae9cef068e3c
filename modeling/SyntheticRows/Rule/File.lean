import SyntheticRows.Text.Cut
import SyntheticRows.Text.LowerCase
/-!
Files that hold a configuration: which format a file has and why it could not be taken.
-/

namespace SyntheticRows

open Text

inductive RulesFormat where
  | yaml
  | toml
  | json
  deriving DecidableEq, Repr

namespace RulesFormat

/-- The last part of a path; a path that ends in a slash names what stands before it. -/
def fileName (path : List Char) : List Char :=
  (((splitAtEach '/' path).filter fun part => !part.isEmpty && part != ['.']).getLast?).getD []

/-- What follows the last point of a file name that does not begin with it. -/
def fileExtension? (name : List Char) : Option (List Char) :=
  match cutLast '.' name with
  | some (_ :: _, ending) => some ending
  | _ => none

/-- A file whose name ends in no known way is YAML. -/
def ofPath (path : String) : RulesFormat :=
  match (fileExtension? (fileName path.toList)).map lowerAscii with
  | some ['t', 'o', 'm', 'l'] => toml
  | some ['j', 's', 'o', 'n'] => json
  | _ => yaml

end RulesFormat

inductive RulesFileError where
  | unreadable (path : String)
  | invalid (format : RulesFormat) (path : String)
  deriving DecidableEq, Repr

def RulesFileError.message : RulesFileError → String
  | unreadable path => s!"cannot read rules file {path}: "
  | invalid .yaml path => s!"invalid YAML rules in {path}: "
  | invalid .toml path => s!"invalid TOML rules in {path}: "
  | invalid .json path => s!"invalid JSON rules in {path}: "

end SyntheticRows
