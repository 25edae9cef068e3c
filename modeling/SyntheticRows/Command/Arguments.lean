import SyntheticRows.Command.Words
/-!
The commands and what is said to them on the command line.
-/

namespace SyntheticRows

/-- Which database a command works on. -/
structure Target where
  /-- The connection text given with an option. -/
  named : Option String
  /-- The connection text given by position. -/
  positional : Option String
  namespaceName : String
  deriving DecidableEq, Repr

structure GenerateArguments where
  target : Target
  rules : String
  /-- Without a seed the values cannot be repeated. -/
  seed : Option UInt64
  runDirectory : String
  /-- Rows are exported as files and not inserted. -/
  dryRun : Bool
  /-- A dependency on a table that is not there is an error. -/
  strictDependencies : Bool
  deriving DecidableEq, Repr

structure InspectArguments where
  target : Target
  /-- The file to write, in place of the standard output. -/
  out : Option String
  deriving DecidableEq, Repr

inductive Command where
  | generate (arguments : GenerateArguments)
  | inspect (arguments : InspectArguments)
  | rulesSchema
  deriving DecidableEq, Repr

namespace Command

def targetOptions : List (String × OptionKind) :=
  [("help", .help), ("conn", .text), ("schema", .text)]

def generateGrammar : Grammar :=
  { options := targetOptions ++ [("rules", .path), ("seed", .number), ("run-dir", .path),
      ("dry-run", .flag), ("strict-dependencies", .flag)]
    takesWord := true }

def inspectGrammar : Grammar :=
  { options := targetOptions ++ [("out", .path)], takesWord := true }

def rulesSchemaGrammar : Grammar :=
  { options := [("help", .help)], takesWord := false }

/-- The connection text is given once, with its option or by position. -/
def targetOf (given : Given) : Except UsageError Target :=
  let target : Target :=
    { named := given.value? "conn", positional := given.word,
      namespaceName := (given.value? "schema").getD "public" }
  match target.named, target.positional with
  | some _, some _ => .error .conflict
  | none, none => .error .missingArgument
  | _, _ => .ok target

def readGenerate (words : List String) : Except UsageError Command := do
  let given ← generateGrammar.read words
  let target ← targetOf given
  pure (.generate {
    target
    rules := (given.value? "rules").getD "gen_settings.yaml"
    seed := given.value? "seed" >>= fun digits => Text.unsigned64? digits.toList
    runDirectory := (given.value? "run-dir").getD "runs"
    dryRun := given.has "dry-run"
    strictDependencies := given.has "strict-dependencies" })

def readInspect (words : List String) : Except UsageError Command := do
  let given ← inspectGrammar.read words
  let target ← targetOf given
  pure (.inspect { target, out := given.value? "out" })

def readRulesSchema (words : List String) : Except UsageError Command := do
  let _ ← rulesSchemaGrammar.read words
  pure .rulesSchema

/-- The commands by their names. -/
def readers : List (String × (List String → Except UsageError Command)) :=
  [("generate", readGenerate), ("inspect", readInspect), ("rules-schema", readRulesSchema)]

/-- Help may be asked for one command, or for help itself. -/
def helpError : List String → UsageError
  | [] => .helpWanted
  | [name] => if name == "help" || (readers.lookup name).isSome then .helpWanted else .unknownCommand
  | _ => .unknownCommand

/-- What an option in front of the command asks for. -/
def frontOption (name : String) (value : Option String) : UsageError :=
  if name == "help" || name == "version" then
    if value.isSome then .unwantedValue
    else if name == "help" then .helpWanted else .versionWanted
  else .unknownArgument

def frontLetter (letter : Char) : UsageError :=
  if letter = 'h' then .helpWanted else if letter = 'V' then .versionWanted else .unknownArgument

/-- A command does not stand behind a separator. -/
def separatedError : List String → UsageError
  | [] => .nothingGiven
  | name :: _ =>
      if name == "help" || (readers.lookup name).isSome then .unknownArgument else .unknownCommand

/-- The command that the words behind the program's name give. -/
def ofWords : List String → Except UsageError Command
  | [] => .error .nothingGiven
  | word :: words =>
      match WordShape.of word with
      | .separator => .error (separatedError words)
      | .long name value => .error (frontOption name value)
      | .short letter => .error (frontLetter letter)
      | .plain =>
          match readers.lookup word with
          | some read => read words
          | none => .error (if word == "help" then helpError words else .unknownCommand)

/-- The command that a command line gives, the program's name first. -/
def ofLine (line : List String) : Except UsageError Command :=
  ofWords line.tail

end Command

end SyntheticRows
