/-!
Why a declaration is not a column type.
-/

namespace SyntheticRows

/-- What is wrong with the form of a declaration. -/
inductive DeclarationFault where
  | missingName
  | unclosedParameters
  | parameterNotNumber (parameter : String)
  | parameterOutOfRange (parameter : String)
  | parameterCount
  | trailingText (rest : String)
  | takesNoParameters (name : String)
  | takesOneParameter (name : String)
  | refusesQualifier (name qualifier : String)
  | unknownQualifier (qualifier : String)
  | unknownIntervalFields (fields : String)
  deriving DecidableEq, Repr

def DeclarationFault.message : DeclarationFault → String
  | missingName => "missing type name"
  | unclosedParameters => "unclosed parameter list"
  | parameterNotNumber parameter => s!"parameter '{parameter}' is not a number"
  | parameterOutOfRange parameter => s!"parameter '{parameter}' is out of range"
  | parameterCount => "expected one or two parameters"
  | trailingText rest => s!"unexpected trailing text '{rest}'"
  | takesNoParameters name => s!"'{name}' takes no parameters"
  | takesOneParameter name => s!"'{name}' takes one parameter"
  | refusesQualifier name qualifier => s!"'{name}' does not accept '{qualifier}'"
  | unknownQualifier qualifier => s!"unknown qualifier '{qualifier}'"
  | unknownIntervalFields fields => s!"unknown interval fields '{fields}'"

inductive ColumnTypeError where
  | malformed (raw : String) (fault : DeclarationFault)
  | unknown (raw name : String)
  deriving DecidableEq, Repr

def ColumnTypeError.message : ColumnTypeError → String
  | malformed raw fault => s!"malformed column type '{raw}': {fault.message}"
  | unknown raw name => s!"unknown column type '{name}' (from '{raw}')"

end SyntheticRows
