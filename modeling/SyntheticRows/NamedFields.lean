/-!
Picking known fields out of a list of named ones. Other fields are ignored; a known field must not
be repeated, under whichever of its spellings.
-/

namespace SyntheticRows

variable {α : Type}

/-- The values of one field, under any of its spellings. -/
def fieldValues (fields : List (String × α)) (spellings : List String) : List α :=
  (fields.filter fun field => spellings.contains field.1).map (·.2)

/-- The value of a field that stands at most once. -/
def atMostOne? : List α → Option (Option α)
  | [] => some none
  | [value] => some (some value)
  | _ => none

/-- The known fields in the order of their names. -/
def knownFields? (names : List (List String)) (fields : List (String × α)) :
    Option (List (Option α)) :=
  names.mapM fun spellings => atMostOne? (fieldValues fields spellings)

end SyntheticRows
