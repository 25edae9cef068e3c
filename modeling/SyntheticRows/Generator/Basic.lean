import SyntheticRows.ColumnType.Spelling
import SyntheticRows.Generator.Catalog
import SyntheticRows.Generator.DefaultValue
/-!
Generators of column values. All generators of a run draw from one random stream.
-/

namespace SyntheticRows

/-- What fills a column: any draw of a value, with a name to know it by. -/
structure Producer where
  id : String
  draw : Draw String

/-- The generators that types and rules stand for. -/
inductive Generator where
  /-- The values that a type has by itself. -/
  | ofType (type : ColumnType)
  /-- Integers from `low` up to but not including `high`. -/
  | integer (low high : Int)
  | sentence
  /-- Text of at most `limit` characters. -/
  | text (limit : Nat)
  /-- One of several labels, each with a weight in percent. -/
  | choice (entries : List (String × UInt32))
  | constant (value : String)
  | catalog (entry : CatalogEntry)
  deriving DecidableEq, Repr

namespace Generator

def id : Generator → String
  | ofType type => type.spelling
  | integer _ _ => "int"
  | sentence | text _ => "sentence"
  | choice _ => "oneof"
  | constant _ => "constant"
  | catalog entry => entry.spelling

/-- Sums of weights stay within a word of 32 bits. -/
def weightLimit : Nat :=
  UInt32.size - 1

/-- The first label at which the sum of the weights exceeds the draw. -/
def firstAbove? (draw : Nat) : (sum : Nat) → List (String × UInt32) → Option String
  | _, [] => none
  | sum, (label, weight) :: entries =>
      let sum := min (sum + weight.toNat) weightLimit
      if draw < sum then some label else firstAbove? draw sum entries

/-- The label that a draw selects; draws beyond all weights select the last one. -/
def choose (entries : List (String × UInt32)) (draw : Nat) : String :=
  (firstAbove? draw 0 entries).getD ((entries.getLast?.map (·.1)).getD "")

def integerText (value : Int) : List Char :=
  Json.integerText value

def draw : Generator → Draw String
  | ofType type => String.ofList <$> Draw.defaultValue type
  | integer low high => (fun value => String.ofList (integerText value)) <$> Draw.integer low high
  | sentence => String.ofList <$> Draw.sentence 3 10
  | text limit => String.ofList <$> Draw.textUpTo limit
  | choice entries => choose entries <$> Draw.range 0 100
  | constant value => pure value
  | catalog entry => String.ofList <$> Draw.catalogValue entry

def producer (generator : Generator) : Producer :=
  { id := generator.id, draw := generator.draw }

end Generator

end SyntheticRows
