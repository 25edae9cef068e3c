import SyntheticRows.ColumnType.Fault
import SyntheticRows.Text.Cut
import SyntheticRows.Text.LowerCase
import SyntheticRows.Text.Numeral
/-!
The structure of a type declaration: a name, at most two parameters and a qualifier. The text is
first normalized, so that its letters are small, its words stand one space apart and each type name
of two words is one word.
-/

namespace SyntheticRows

open Text

/-- The parts of a declaration. The qualifier is present only if it has a word. -/
structure Declaration where
  name : List Char
  first : Option UInt32
  second : Option UInt32
  qualifier : Option (List Char)
  deriving DecidableEq, Repr

namespace Declaration

/-- Spellings of two words with the one word that stands for each. -/
def wordPairs : List (String × String) :=
  [("character varying", "varchar"), ("double precision", "float8"), ("bit varying", "varbit")]

def joinWordPairs (text : List Char) : List Char :=
  wordPairs.foldl (fun text pair => replaceText pair.1.toList pair.2.toList text) text

def normalize (raw : List Char) : List Char :=
  joinWordPairs (lower (collapseBlanks raw))

def isNameChar (c : Char) : Bool :=
  c.isAlphanum || c == '_'

def startsName (text : List Char) : Bool :=
  match text with
  | [] => false
  | c :: _ => c.isAlpha || c == '_'

def parameter (text : List Char) : Except DeclarationFault UInt32 :=
  let digits := trim text
  match natural? digits with
  | none => .error (.parameterNotNumber (String.ofList digits))
  | some value =>
      if value < UInt32.size then .ok value.toUInt32
      else .error (.parameterOutOfRange (String.ofList digits))

/-- The parameters between a pair of parentheses. -/
def parameterList (inner : List Char) : Except DeclarationFault (UInt32 × Option UInt32) := do
  match ← (splitAtEach ',' inner).mapM parameter with
  | [first] => pure (first, none)
  | [first, second] => pure (first, some second)
  | _ => throw .parameterCount

/-- The parameters in front of a text, with what follows them. -/
def leadingParameters (text : List Char) :
    Except DeclarationFault (Option UInt32 × Option UInt32 × List Char) :=
  match text with
  | '(' :: opened =>
      match cutFirst ')' opened with
      | none => .error .unclosedParameters
      | some (inner, rest) => do
          let (first, second) ← parameterList inner
          pure (some first, second, trimStart rest)
  | _ => .ok (none, none, text)

/-- Field words and the precision in parentheses behind them, as in `day to second(3)`. -/
def fieldPrecision? (qualifier : List Char) : Option (List Char × List Char) := do
  let (fields, opened) ← cutFirst '(' qualifier
  let inner ← before? [')'] opened
  pure (trimEnd fields, inner)

def isQualifierChar (c : Char) : Bool :=
  c.isAlpha || c == ' '

def checkQualifier (rest qualifier : List Char) : Except DeclarationFault (List Char) :=
  if qualifier.all isQualifierChar then .ok qualifier
  else .error (.trailingText (String.ofList rest))

/-- A name and its leading parameters with the qualifier that the rest of the text is. Only an
interval may have its precision behind the qualifier. -/
def withQualifier (name : List Char) (first second : Option UInt32) (rest : List Char) :
    Except DeclarationFault Declaration :=
  if rest.isEmpty then .ok { name, first, second, qualifier := none }
  else
    let words := trimEnd rest
    match if name == "interval".toList && first.isNone then fieldPrecision? words else none with
    | some (fields, inner) => do
        let precision ← parameter inner
        let qualifier ← checkQualifier rest fields
        pure { name, first := some precision, second, qualifier := some qualifier }
    | none => do
        let qualifier ← checkQualifier rest words
        pure { name, first, second, qualifier := some qualifier }

/-- The parts of a normalized text. -/
def ofNormalized (text : List Char) : Except DeclarationFault Declaration := do
  let name := text.takeWhile isNameChar
  if !startsName name then throw .missingName
  let (first, second, rest) ← leadingParameters (trimStart (text.dropWhile isNameChar))
  withQualifier name first second rest

end Declaration

end SyntheticRows
