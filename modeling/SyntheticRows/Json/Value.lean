/-!
Values of the JSON data format. Objects keep the order of their fields and may repeat a name, so
that a reader can tell what a text said. Whole numbers stand apart from all other numerals.
-/

namespace SyntheticRows

inductive Json where
  | null
  | bool (value : Bool)
  | integer (value : Int)
  | decimal (numeral : String)
  | string (value : String)
  | array (items : List Json)
  | object (fields : List (String × Json))
  deriving Inhabited

namespace Json

def natural (value : Nat) : Json :=
  integer value

def strings (values : List String) : Json :=
  array (values.map string)

def optional {α : Type} (encode : α → Json) : Option α → Json
  | none => null
  | some value => encode value

/-- The first field of a name. -/
def field? (name : String) : Json → Option Json
  | object fields => fields.lookup name
  | _ => none

def string? : Json → Option String
  | string value => some value
  | _ => none

def bool? : Json → Option Bool
  | bool value => some value
  | _ => none

def integer? : Json → Option Int
  | integer value => some value
  | _ => none

def items? : Json → Option (List Json)
  | array items => some items
  | _ => none

def fields? : Json → Option (List (String × Json))
  | object fields => some fields
  | _ => none

end Json

end SyntheticRows
