import SyntheticRows.Json.Reader
import SyntheticRows.Rule.File
import SyntheticRows.Rule.Yaml
import SyntheticRows.Toml.Reader
/-!
Reading a configuration from the text of a file in the format that the file's name tells.
-/

namespace SyntheticRows

namespace RulesConfig

/-- A blank YAML text holds no rules. -/
def read? (format : RulesFormat) (text : String) : Option RulesConfig :=
  match format with
  | .yaml =>
      if Text.allBlank text.toList then some empty
      else Yaml.read? text >>= ofYaml?
  | .toml => Toml.read? text >>= ofDocument?
  | .json => Json.read? text >>= ofDocument?

def ofFile (path text : String) : Except RulesFileError RulesConfig :=
  let format := RulesFormat.ofPath path
  match read? format text with
  | some config => .ok config
  | none => .error (.invalid format path)

/-- The configuration of a file, if there is such a file and it holds text. -/
def ofFile? (path : String) (text : Option String) : Except RulesFileError RulesConfig :=
  match text with
  | some text => ofFile path text
  | none => .error (.unreadable path)

end RulesConfig

end SyntheticRows
