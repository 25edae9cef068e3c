import SyntheticRows.Command.Generate
import SyntheticRows.Command.Inspect
import SyntheticRows.Rule.JsonSchema
/-!
Running what a command line asks for.
-/

namespace SyntheticRows

/-- How a command line came to its end. -/
inductive Ending where
  | usage (error : Command.UsageError)
  | failed (error : CommandError)
  | succeeded

namespace Command

variable {σ : Type}

def programName : String :=
  "seedbed"

def version : String :=
  programName ++ " 0.1.0\n"

/-- The files that a command wants to read. -/
def reads : Command → List String
  | generate arguments => [arguments.rules]
  | inspect _ | rulesSchema => []

def perform (connector : Connector σ) (surroundings : Surroundings) : Command → Work σ Unit
  | generate arguments => arguments.run connector surroundings
  | inspect arguments => arguments.run connector
  | rulesSchema => Work.print (RulesConfig.jsonSchema.pretty ++ "\n")

/-- Runs a command and writes its log, also behind a failure. -/
def run (connector : Connector σ) (surroundings : Surroundings) (command : Command)
    (session : Session σ) : Ending × Session σ :=
  let (outcome, session) := perform connector surroundings command session
  let session := session.writeLog surroundings.logFilter
  match outcome with
  | .ok () => (.succeeded, session)
  | .error error => (.failed error, session)

/-- Runs a command line, the program's name first. -/
def runLine (connector : Connector σ) (surroundings : Surroundings) (line : List String)
    (session : Session σ) : Ending × Session σ :=
  match ofLine line with
  | .ok command => command.run connector surroundings session
  | .error .versionWanted =>
      (.usage .versionWanted, { session with output := session.output ++ version })
  | .error error => (.usage error, session)

end Command

end SyntheticRows
