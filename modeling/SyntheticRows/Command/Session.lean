import SyntheticRows.Command.Error
import SyntheticRows.Discovery.Schema
import SyntheticRows.Log.Filter
import SyntheticRows.Rule.Reader
import SyntheticRows.Run.Start
/-!
What a command works on, and the steps of which commands consist. A command that fails leaves what
it wrote and reported before.
-/

namespace SyntheticRows

/-- What a command is told by its surroundings. -/
structure Surroundings where
  /-- The name of a run that begins now. -/
  runId : String
  now : Instant
  /-- The seed of a run that is given none. -/
  freshSeed : UInt64
  logFilter : LogFilter

structure Session (σ : Type) where
  server : σ
  workspace : Workspace
  /-- The directory of the run, once it has begun. -/
  directory : Option RunDirectory
  events : Array Event
  output : String

abbrev Work (σ α : Type) : Type :=
  ExceptT CommandError (StateM (Session σ)) α

namespace Session

variable {σ : Type}

def start (server : σ) (workspace : Workspace) : Session σ :=
  { server, workspace, directory := none, events := #[], output := "" }

/-- Writes the log of the run, if a run has begun. -/
def writeLog (filter : LogFilter) (session : Session σ) : Session σ :=
  match session.directory with
  | none => session
  | some directory =>
      match session.workspace.write directory.log (filter.lines session.events.toList) with
      | .ok workspace => { session with workspace }
      | .error _ => session

end Session

namespace Work

variable {σ : Type}

def attempt {ε α : Type} (wrap : ε → CommandError) (outcome : Except ε α) : Work σ α :=
  liftM (outcome.mapError wrap)

def report (event : Event) : Work σ Unit :=
  modify fun session => { session with events := session.events.push event }

def reportAll (events : List Event) : Work σ Unit :=
  modify fun session => { session with events := session.events ++ events.toArray }

def print (text : String) : Work σ Unit :=
  modify fun session => { session with output := session.output ++ text }

def write (path text : String) : Work σ Unit := do
  let workspace ← attempt .artifacts ((← get).workspace.write path text)
  modify fun session => { session with workspace }

def writeDocument (path : String) (document : Json) : Work σ Unit :=
  write path document.pretty

def readRules (path : String) : Work σ RulesConfig := do
  attempt .rules (RulesConfig.ofFile? path ((← get).workspace.read? path))

def startRun (parent : String) (record : RunRecord) : Work σ RunDirectory := do
  let (directory, workspace) ←
    attempt .artifacts (RunDirectory.make parent record (← get).workspace)
  modify fun session => { session with workspace, directory := some directory }
  pure directory

def connect (connector : Connector σ) (connection : String) : Work σ (Server σ) := do
  attempt .connection (connector connection (← get).server)

/-- The schema of a namespace, which must be consistent. -/
def schema (server : Server σ) (namespaceName : String) : Work σ Schema := do
  report (.introspectionStarted "postgres" namespaceName)
  let session ← get
  let (outcome, reading) := discover server (.ofNamespace namespaceName) session.server
  set { session with server := reading.server, events := session.events ++ reading.events }
  let schema ← attempt .discovery outcome
  attempt .schema schema.validate
  report (.introspectionFinished schema.tables.length)
  pure schema

end Work

end SyntheticRows
