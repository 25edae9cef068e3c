import SyntheticRows.Json.Value
import SyntheticRows.NamedFields
/-!
Reading records out of JSON values. A record is an object with known field names, other fields
being ignored, or an array of its fields in order.
-/

namespace SyntheticRows.Json

/-- The fields of an object in the order of their names; a known field must not be repeated. -/
def objectRecord? (names : List (List String)) (value : Json) : Option (List (Option Json)) := do
  let fields ← value.fields?
  knownFields? names fields

/-- The fields of a record. An array must hold at least the first `required` of them. -/
def record? (names : List (List String)) (required : Nat) :
    Json → Option (List (Option Json))
  | array items =>
      if required ≤ items.length && items.length ≤ names.length then
        some (items.map some ++ List.replicate (names.length - items.length) none)
      else none
  | value => objectRecord? names value

def nullable? {α : Type} (decode : Json → Option α) : Option Json → Option (Option α)
  | none | some null => some none
  | some value => (decode value).map some

def defaulted? {α : Type} (decode : Json → Option α) (default : α) : Option Json → Option α
  | none => some default
  | some value => decode value

def list? {α : Type} (decode : Json → Option α) (value : Json) : Option (List α) := do
  let items ← value.items?
  items.mapM decode

def unsigned32? (value : Json) : Option UInt32 := do
  let n ← value.integer?
  if 0 ≤ n && n.toNat < UInt32.size then some n.toNat.toUInt32 else none

def unsigned64? (value : Json) : Option UInt64 := do
  let n ← value.integer?
  if 0 ≤ n && n.toNat < UInt64.size then some n.toNat.toUInt64 else none

/-- The named fields with decoded values, in the order of the text. -/
def entries? {α : Type} (decode : Json → Option α) (value : Json) :
    Option (List (String × α)) := do
  let fields ← value.fields?
  fields.mapM fun field => (decode field.2).map (field.1, ·)

end SyntheticRows.Json
