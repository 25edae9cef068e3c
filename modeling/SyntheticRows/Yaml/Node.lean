import SyntheticRows.Text.Cut
import SyntheticRows.Text.Numeral
/-!
What a YAML document holds.
-/

namespace SyntheticRows.Yaml

open Text

inductive Node where
  /-- A text, and whether it stood without quotes. -/
  | scalar (text : String) (plain : Bool)
  | sequence (items : List Node)
  | mapping (entries : List (Node × Node))

namespace Node

/-- What stands where nothing is written. -/
def nothing : Node :=
  scalar "" true

/-- A scalar of any kind is a text. -/
def text? : Node → Option String
  | scalar text _ => some text
  | _ => none

/-- The entries of a mapping whose keys are scalars. Nothing is an empty mapping. -/
def entries? : Node → Option (List (String × Node))
  | mapping entries => entries.mapM fun entry => entry.1.text?.map (·, entry.2)
  | scalar "" true => some []
  | _ => none

end Node

/-- A digit of a base up to sixteen. -/
def digitOf? (base : Nat) (c : Char) : Option Nat := do
  let value ← hexDigitValue? c
  if value < base then some value else none

def digitsValue? (base : Nat) (digits : List Char) : Option Nat :=
  if digits.isEmpty then none
  else digits.foldlM (fun value c => (digitOf? base c).map (base * value + ·)) 0

/-- A numeral whose base is told by its beginning. -/
def prefixedValue? (text : List Char) : Option Nat :=
  match text with
  | '0' :: 'x' :: digits => digitsValue? 16 digits
  | '0' :: 'o' :: digits => digitsValue? 8 digits
  | '0' :: 'b' :: digits => digitsValue? 2 digits
  | _ => none

/-- A decimal numeral that is longer than one digit does not begin with a zero. -/
def decimalNumeral? (text : List Char) : Option Nat :=
  match text with
  | '0' :: _ :: _ => none
  | _ => natural? text

/-- A natural number without quotes, which may carry a plus sign. -/
def Node.natural? : Node → Option Nat
  | scalar text true =>
      let digits := match text.toList with
        | '+' :: digits => digits
        | digits => digits
      (prefixedValue? digits).orElse fun () => decimalNumeral? digits
  | _ => none

def Node.unsigned64? (node : Node) : Option UInt64 := do
  let value ← node.natural?
  if value < UInt64.size then some value.toUInt64 else none

end SyntheticRows.Yaml
