import SyntheticRows.Text.Cut
import SyntheticRows.Text.Numeral
/-!
The words of a command line: options with and without values, and one word by position. An option
whose value stands in the next word is settled only when another word asks for it, so a fault in
its value may be found late.
-/

namespace SyntheticRows.Command

open Text

inductive UsageError where
  | helpWanted
  | versionWanted
  /-- Nothing was asked for. -/
  | nothingGiven
  | missingArgument
  | unknownArgument
  | unknownCommand
  /-- A value is missing, or empty where a path is wanted. -/
  | missingValue
  | invalidValue
  /-- An option is repeated, or two options exclude each other. -/
  | conflict
  /-- A value for an option that takes none. -/
  | unwantedValue
  deriving DecidableEq, Repr

inductive OptionKind where
  | help
  | flag
  | text
  | path
  | number
  deriving DecidableEq, Repr

def OptionKind.takesValue : OptionKind → Bool
  | help | flag => false
  | text | path | number => true

/-- A value is of the kind that its option wants. -/
def OptionKind.check : OptionKind → String → Except UsageError Unit
  | help, _ | flag, _ | text, _ => .ok ()
  | path, value => if value.isEmpty then .error .missingValue else .ok ()
  | number, value =>
      if (unsigned64? value.toList).isSome then .ok () else .error .invalidValue

/-- What a command understands. -/
structure Grammar where
  options : List (String × OptionKind)
  takesWord : Bool

/-- The options of a command line with their values, and the word that stands by position. -/
structure Given where
  values : List (String × String)
  word : Option String
  deriving DecidableEq, Repr

namespace Given

def empty : Given :=
  { values := [], word := none }

def value? (given : Given) (name : String) : Option String :=
  given.values.lookup name

def has (given : Given) (name : String) : Bool :=
  (given.value? name).isSome

/-- Adds an option, which must not be there yet. -/
def add (given : Given) (name : String) (kind : OptionKind) (value : String) :
    Except UsageError Given :=
  if given.has name then .error .conflict
  else do
    kind.check value
    .ok { given with values := given.values ++ [(name, value)] }

end Given

/-- An option that is not settled yet. -/
structure Pending where
  name : String
  kind : OptionKind
  value : Option String

/-- How a word of a command line looks. -/
inductive WordShape where
  /-- Two hyphens: all words behind it stand by position. -/
  | separator
  | long (name : String) (value : Option String)
  /-- One letter behind a hyphen, and whatever follows. -/
  | short (letter : Char)
  | plain

def WordShape.ofChars : List Char → WordShape
  | ['-', '-'] => separator
  | '-' :: '-' :: rest =>
      match cutFirst '=' rest with
      | some (name, value) => long (String.ofList name) (some (String.ofList value))
      | none => long (String.ofList rest) none
  | '-' :: letter :: _ => short letter
  | _ => plain

def WordShape.of (word : String) : WordShape :=
  ofChars word.toList

/-- A command line that has been read in part. -/
structure Line where
  given : Given
  pending : Option Pending

namespace Line

def start : Line :=
  { given := .empty, pending := none }

/-- Settles the pending option. -/
def settle (line : Line) : Except UsageError Given :=
  match line.pending with
  | none => .ok line.given
  | some { value := none, .. } => .error .missingValue
  | some { name, kind, value := some value } => line.given.add name kind value

/-- Takes an option. -/
def takeOption (grammar : Grammar) (line : Line) (name : String) (value : Option String) :
    Except UsageError Line := do
  match grammar.options.lookup name, value with
  | none, _ => .error .unknownArgument
  | some kind, some value =>
      if kind.takesValue then
        let given ← (← line.settle).add name kind value
        .ok { given, pending := none }
      else .error .unwantedValue
  | some .help, none => do
      let _ ← line.settle
      .error .helpWanted
  | some .flag, none => do
      let given ← (← line.settle).add name .flag ""
      .ok { given, pending := none }
  | some kind, none => do
      .ok { given := ← line.settle, pending := some { name, kind, value := none } }

/-- Takes a letter behind a hyphen: there is one only for help. -/
def takeLetter (line : Line) (letter : Char) : Except UsageError Line := do
  if letter = 'h' then
    let _ ← line.settle
    .error .helpWanted
  else .error .unknownArgument

/-- Takes a word by position. -/
def takeWord (grammar : Grammar) (line : Line) (word : String) : Except UsageError Line := do
  if grammar.takesWord && line.given.word.isNone then
    let given ← line.settle
    .ok { given := { given with word := some word }, pending := none }
  else .error .unknownArgument

/-- Takes a word that looks like no option: the value of the pending option, if it lacks one. -/
def takePlain (grammar : Grammar) (line : Line) (word : String) : Except UsageError Line :=
  match line.pending with
  | some { name, kind, value := none } =>
      .ok { line with pending := some { name, kind, value := some word } }
  | _ => line.takeWord grammar word

/-- Takes the words in turn; behind a separator all of them stand by position. -/
def take (grammar : Grammar) : (separated : Bool) → Line → List String → Except UsageError Given
  | _, line, [] => line.settle
  | true, line, word :: words => do
      take grammar true (← line.takeWord grammar word) words
  | false, line, word :: words =>
      match WordShape.of word with
      | .separator => take grammar true line words
      | .long name value => do take grammar false (← line.takeOption grammar name value) words
      | .short letter => do take grammar false (← line.takeLetter letter) words
      | .plain => do take grammar false (← line.takePlain grammar word) words

end Line

def Grammar.read (grammar : Grammar) (words : List String) : Except UsageError Given :=
  Line.take grammar false .start words

end SyntheticRows.Command
