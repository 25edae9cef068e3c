import SyntheticRows.Csv.Export
import SyntheticRows.Discovery.Error
import SyntheticRows.Plan.Error
import SyntheticRows.Rule.File
import SyntheticRows.Schema.Validation
/-!
Why a command failed.
-/

namespace SyntheticRows

inductive CommandError where
  /-- The directory of a run, or a file in it, could not be made. -/
  | artifacts (fault : FileFault)
  | discovery (cause : DiscoveryError)
  | schema (fault : SchemaFault)
  | generation (cause : GenerationError)
  | tableFile (fault : FileFault)
  /-- There is no connection to the server. -/
  | connection (fault : ServerFault)
  | rules (cause : RulesFileError)
  | configuration (reason : String)
  | unsupportedEngine (target : String)
  deriving DecidableEq, Repr

def CommandError.message : CommandError → String
  | artifacts fault => "registry error: io error: " ++ fault.message
  | discovery cause => "core error: " ++ cause.message
  | schema fault => "core error: invalid schema: " ++ fault.message
  | generation cause => "generation error: " ++ cause.message
  | tableFile fault => "generation error: csv error: " ++ fault.message
  | connection fault => serverFaultText fault
  | rules cause => "config error: " ++ cause.message
  | configuration reason => "invalid configuration: " ++ reason
  | unsupportedEngine target => "unsupported engine: " ++ target

end SyntheticRows
