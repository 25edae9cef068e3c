import Std.Time.DateTime.Timestamp
import SyntheticRows.Command.Run
import SyntheticRows.Server.ScriptDocument
/-!
The program. It works on the files of the current directory and on a server whose answers are read
from the file that the variable `SERVER_SCRIPT` names; without such a file it is refused. The
variable `LOG_LEVEL` says which events a log keeps.
-/

namespace SyntheticRows.Program

/-- The text of a file, if there is such a file and it holds text. -/
def readText? (path : String) : IO (Option String) := do
  try
    pure (String.fromUTF8? (← IO.FS.readBinFile path))
  catch _ => pure none

def serverScript : IO ServerScript := do
  match ← IO.getEnv "SERVER_SCRIPT" with
  | none => pure { ServerScript.empty with refusal := some "no server answers" }
  | some path =>
      match (← readText? path) >>= Json.read? >>= ServerScript.ofDocument? with
      | some script => pure script
      | none => throw (.userError s!"invalid server script: {path}")

/-- The files that a command line makes the program read. -/
def inputFiles (line : List String) : IO Workspace := do
  let paths := match Command.ofLine line with
    | .ok command => command.reads
    | .error _ => []
  let files ← paths.filterMapM fun path => do
    pure ((← readText? path).map (path, ·))
  pure (.ofFiles files)

def randomWord : IO UInt64 := do
  pure (← IO.rand 0 (UInt64.size - 1)).toUInt64

def surroundings : IO Surroundings := do
  let (name, _) := Draw.uuid (.ofSeed (← randomWord))
  let now := (← Std.Time.Timestamp.now).toNanosecondsSinceUnixEpoch.toInt
  pure {
    runId := String.ofList name
    now := { seconds := now / 1000000000, nanoseconds := (now % 1000000000).toNat }
    freshSeed := ← randomWord
    logFilter := .ofSetting (← IO.getEnv "LOG_LEVEL") }

def writeFile (path text : String) : IO Unit := do
  match Text.cutLast '/' path.toList with
  | some (directory@(_ :: _), _) => IO.FS.createDirAll (String.ofList directory)
  | _ => pure ()
  IO.FS.writeFile path text

def exitCode : Ending → UInt32
  | .succeeded | .usage .versionWanted | .usage .helpWanted => 0
  | .failed _ => 1
  | .usage _ => 2

end SyntheticRows.Program

open SyntheticRows SyntheticRows.Program in
def main (arguments : List String) : IO UInt32 := do
  let line := Command.programName :: arguments
  let before ← inputFiles line
  let (ending, session) := Command.runLine ScriptedServer.connect (← surroundings) line
    (.start (.start (← serverScript)) before)
  for (path, text) in before.changesFrom session.workspace do
    writeFile path text
  IO.print session.output
  if let .failed error := ending then
    IO.eprintln error.message
  pure (exitCode ending)
