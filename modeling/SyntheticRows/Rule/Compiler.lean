import SyntheticRows.Generator.Basic
import SyntheticRows.Rule.Fault
import SyntheticRows.Text.Cut
/-!
The rule language. A rule is a name with values in brackets, as in `oneof[a%80, b%20]` and
`constant[x]`, or the name of a generator with at most two integers in parentheses, as in
`int(1,100)`. Names may be written in any case; values keep theirs.
-/

namespace SyntheticRows.Rule

open Text

/-- A name in small letters with the text between its brackets. -/
def splitBrackets? (rule : List Char) : Option (List Char × List Char) := do
  let (before, opened) ← cutFirst '[' rule
  let body ← before? [']'] opened
  let name := trimEnd before
  if name.isEmpty || !name.all Char.isAlpha then none
  else some (lowerAscii name, body)

def weightedLabel (entry : List Char) : Except RuleFault (String × UInt32) :=
  match splitAtEach '%' entry with
  | [label, weight] =>
      match unsigned32? (trim weight) with
      | some value => .ok (String.ofList (trim label), value)
      | none => .error (.weightNotInteger (String.ofList (trim weight)))
  | _ => .error (.entryForm (String.ofList (trim entry)))

/-- The generator of a rule with brackets, or none if the name is not known. -/
def ofBrackets (name body : List Char) : Except RuleFault (Option Generator) :=
  if allBlank body then .error (.needsValue (String.ofList name))
  else if name = "oneof".toList then do
    let entries ← (splitAtEach ',' body).mapM weightedLabel
    pure (some (.choice entries))
  else if name = "constant".toList then
    match splitAtEach ',' body with
    | [value] => .ok (some (.constant (String.ofList (trim value))))
    | values => .error (.constantCount values.length)
  else .ok none

def isNameChar (c : Char) : Bool :=
  c.isAlphanum || c == '_'

def startsName (text : List Char) : Bool :=
  match text with
  | [] => false
  | c :: _ => c.isAlpha

def argument (text : List Char) : Except RuleFault Int :=
  match signed64? (trim text) with
  | some value => .ok value
  | none => .error (.argumentNotInteger (String.ofList (trim text)))

/-- The integers between a pair of parentheses that a text consists of. -/
def arguments (name rest : List Char) : Except RuleFault (List Int) :=
  match after? ['('] rest >>= before? [')'] with
  | none => .error (.trailingText (String.ofList rest) (String.ofList name))
  | some inner => do
      let values ← (splitAtEach ',' inner).mapM argument
      if values.length > 2 then .error .tooManyArguments else .ok values

/-- The name of a rule without brackets, in small letters, and its arguments. -/
def splitCall (rule : List Char) : Except RuleFault (String × List Int) := do
  let name := rule.takeWhile isNameChar
  if !startsName name then throw .missingName
  let rest := trim (rule.dropWhile isNameChar)
  let values ← if rest.isEmpty then pure [] else arguments name rest
  pure (String.ofList (lowerAscii name), values)

def integerGenerator : List Int → Except RuleFault Generator
  | [] => .ok (.integer 0 (Int64.maxValue.toInt + 1))
  | [bound] => if bound > 0 then .ok (.integer 0 bound) else .error (.boundNotPositive bound)
  | [low, high] => if high > low then .ok (.integer low high) else .error (.emptyRange low high)
  | _ => .error .integerArguments

def sentenceGenerator : List Int → Except RuleFault Generator
  | [] => .ok .sentence
  | [length] => if length > 0 then .ok (.text length.toNat) else .error (.lengthNotPositive length)
  | _ => .error .sentenceArguments

/-- The generator of a name in small letters, or none if the name is not known. -/
def ofName (name : String) (arguments : List Int) : Except RuleFault (Option Generator) :=
  if name = "int" || name = "integer" then some <$> integerGenerator arguments
  else if name = "sentence" || name = "text" then some <$> sentenceGenerator arguments
  else match CatalogEntry.ofSpelling? name with
    | none => .ok none
    | some entry =>
        if arguments.isEmpty then .ok (some (.catalog entry))
        else .error (.takesNoArguments name)

/-- The names that rules may call without brackets. -/
def callableNames : List String :=
  ["int", "integer", "sentence", "text"] ++ CatalogEntry.all.map CatalogEntry.spelling

/-- The generator that a search by name found for a rule. -/
def resolve (rule name : String) :
    Except RuleFault (Option Generator) → Except RuleError Generator
  | .error fault => .error (.malformed rule fault)
  | .ok none => .error (.unknown rule name)
  | .ok (some generator) => .ok generator

/-- The generator of a name; `rule` is quoted in errors. -/
def named (rule name : String) (arguments : List Int) : Except RuleError Generator :=
  resolve rule name (ofName name arguments)

def compile (rule : String) : Except RuleError Generator :=
  let text := trim rule.toList
  if text.isEmpty then .error (.malformed rule .empty)
  else match splitBrackets? text with
    | some (name, body) => resolve rule (String.ofList name) (ofBrackets name body)
    | none =>
        match splitCall text with
        | .error fault => .error (.malformed rule fault)
        | .ok (name, arguments) => named rule name arguments

end SyntheticRows.Rule
