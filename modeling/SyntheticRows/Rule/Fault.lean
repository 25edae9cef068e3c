/-!
Why a text is not a rule.
-/

namespace SyntheticRows

inductive RuleFault where
  | empty
  | needsValue (name : String)
  | entryForm (entry : String)
  | weightNotInteger (weight : String)
  | constantCount (count : Nat)
  | missingName
  | trailingText (rest name : String)
  | argumentNotInteger (argument : String)
  | tooManyArguments
  | boundNotPositive (bound : Int)
  | emptyRange (low high : Int)
  | integerArguments
  | lengthNotPositive (length : Int)
  | sentenceArguments
  | takesNoArguments (name : String)
  deriving DecidableEq, Repr

def RuleFault.message : RuleFault → String
  | empty => "empty rule"
  | needsValue name => name ++ "[] needs a value"
  | entryForm entry => s!"oneof entry '{entry}' must be label%weight"
  | weightNotInteger weight => s!"weight '{weight}' is not an integer"
  | constantCount count => s!"constant takes one value, got {count}"
  | missingName => "expected a generator name"
  | trailingText rest name => s!"unexpected '{rest}' after '{name}'"
  | argumentNotInteger argument => s!"argument '{argument}' is not an integer"
  | tooManyArguments => "at most two arguments"
  | boundNotPositive bound => s!"upper bound must be positive, got {bound}"
  | emptyRange low high => "empty range [" ++ toString low ++ ", " ++ toString high ++ ")"
  | integerArguments => "int takes at most two arguments"
  | lengthNotPositive length => s!"length must be positive, got {length}"
  | sentenceArguments => "sentence takes at most one argument"
  | takesNoArguments name => s!"'{name}' takes no arguments"

inductive RuleError where
  | malformed (rule : String) (fault : RuleFault)
  | unknown (rule name : String)
  deriving DecidableEq, Repr

def RuleError.message : RuleError → String
  | malformed rule fault => s!"malformed rule '{rule}': {fault.message}"
  | unknown rule name => s!"unknown rule '{name}' (from '{rule}')"

end SyntheticRows
