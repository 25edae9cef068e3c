import SyntheticRows.Json.Value
/-!
Tables of a TOML document while they are being filled, and when a table may be added to.
-/

namespace SyntheticRows.Toml

/-- How a table came to be. -/
inductive TableOrigin where
  /-- By a header of its own. -/
  | header
  /-- By a header of a table inside it. -/
  | implied
  /-- By a dotted key. -/
  | dotted
  deriving DecidableEq, Repr

/-- What stands under a key. Tables written inline are values. -/
inductive Item where
  | value (value : Json)
  | table (origin : TableOrigin) (entries : List (String × Item))
  | tables (elements : List (List (String × Item)))

abbrev Entries : Type :=
  List (String × Item)

mutual

def Item.toJson : Item → Json
  | .value value => value
  | .table _ entries => .object (entriesToFields entries)
  | .tables elements => .array (elementsToItems elements)

def entriesToFields : List (String × Item) → List (String × Json)
  | [] => []
  | (name, item) :: entries => (name, item.toJson) :: entriesToFields entries

def elementsToItems : List (List (String × Item)) → List Json
  | [] => []
  | entries :: elements => .object (entriesToFields entries) :: elementsToItems elements

end

namespace Entries

def toJson (entries : Entries) : Json :=
  .object (entriesToFields entries)

/-- Puts an item under a key, in place of the one that is there. -/
def put (key : String) (item : Item) : Entries → Entries
  | [] => [(key, item)]
  | (name, old) :: entries =>
      if name = key then (name, item) :: entries else (name, old) :: put key item entries

/-- Changes the last of the elements of an array of tables. -/
def alterLast (change : Entries → Option Entries) :
    List Entries → Option (List Entries)
  | [] => none
  | [entries] => (change entries).map ([·])
  | entries :: elements => (alterLast change elements).map (entries :: ·)

/-- Changes the table at the end of a path. Tables that are missing are made with the given origin;
`enters` tells which tables may be entered. -/
def alter (made : TableOrigin) (enters : TableOrigin → Bool) (change : Entries → Option Entries) :
    List String → Entries → Option Entries
  | [], entries => change entries
  | key :: path, entries =>
      match entries.lookup key with
      | none => do
          let inner ← alter made enters change path []
          some (entries.put key (.table made inner))
      | some (.value _) => none
      | some (.table origin inner) =>
          if enters origin then do
            let inner ← alter made enters change path inner
            some (entries.put key (.table origin inner))
          else none
      | some (.tables elements) => do
          let elements ← alterLast (alter made enters change path) elements
          some (entries.put key (.tables elements))

/-- Changes the table that a header names. -/
def alterByHeader (change : Entries → Option Entries) : List String → Entries → Option Entries :=
  alter .implied (fun _ => true) change

/-- Opens a table, which must not have a header or dotted keys yet. -/
def openTable (key : String) (entries : Entries) : Option Entries :=
  match entries.lookup key with
  | none => some (entries.put key (.table .header []))
  | some (.table .implied inner) => some (entries.put key (.table .header inner))
  | some _ => none

/-- Adds an element to an array of tables. -/
def openElement (key : String) (entries : Entries) : Option Entries :=
  match entries.lookup key with
  | none => some (entries.put key (.tables [[]]))
  | some (.tables elements) => some (entries.put key (.tables (elements ++ [[]])))
  | some _ => none

/-- Gives a key a value that it does not have yet. -/
def assignNew (key : String) (value : Json) (entries : Entries) : Option Entries :=
  match entries.lookup key with
  | none => some (entries.put key (.value value))
  | some _ => none

/-- The table at the end of a path was made by dotted keys, or is about to be made by one. -/
def endsDotted : List String → Entries → Bool
  | [], _ => true
  | [key], entries =>
      match entries.lookup key with
      | none | some (.table .dotted _) => true
      | some _ => false
  | key :: path, entries =>
      match entries.lookup key with
      | some (.table _ inner) => endsDotted path inner
      | some (.tables elements) => endsDotted path (elements.getLast?.getD [])
      | _ => true

/-- Assigns a value to a key, in front of which stand the other parts of a dotted key. Tables with a
header are not entered. -/
def assign (path : List String) (key : String) (value : Json) (entries : Entries) :
    Option Entries :=
  if endsDotted path entries then
    alter .dotted (· != .header) (assignNew key value) path entries
  else none

end Entries

end SyntheticRows.Toml
