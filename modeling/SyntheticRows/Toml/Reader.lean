import SyntheticRows.Toml.Table
import SyntheticRows.Toml.Text
/-!
Reading TOML text: headers, dotted keys, inline tables, arrays, strings of all kinds, integers,
floats and booleans. Dates and times are not known.
-/

namespace SyntheticRows.Toml

open Text

def isWordChar (c : Char) : Bool :=
  c.isAlphanum || c == '_' || c == '+' || c == '-' || c == '.'

/-- A value that is written as one word. -/
def wordValue? (word : List Char) : Option Json :=
  if word == "true".toList then some (.bool true)
  else if word == "false".toList then some (.bool false)
  else match integer? word with
    | some value => some (.integer value)
    | none => if isFloat word then some (.decimal (String.ofList word)) else none

mutual

/-- A value at the front of a text. The fuel bounds the number of steps. -/
def value : (fuel : Nat) → List Char → Option (Json × List Char)
  | 0, _ => none
  | fuel + 1, text =>
      match text with
      | '[' :: rest =>
          (items fuel (skipLines true false rest)).map fun (items, rest) => (.array items, rest)
      | '\x7b' :: rest =>
          (pairs fuel [] (skipBlanks rest)).map fun (entries, rest) => (entries.toJson, rest)
      | c :: _ =>
          if c == '"' || c == '\x27' then
            (quotedString text).map fun (chars, rest) => (.string (String.ofList chars), rest)
          else
            let (word, rest) := text.span isWordChar
            (wordValue? word).map (·, rest)
      | [] => none

/-- The items of an array up to its bracket. A comma may stand behind the last one. -/
def items : (fuel : Nat) → List Char → Option (List Json × List Char)
  | 0, _ => none
  | _ + 1, ']' :: rest => some ([], rest)
  | fuel + 1, text => do
      let (item, rest) ← value fuel text
      match skipLines true false rest with
      | ']' :: rest => some ([item], rest)
      | ',' :: rest => do
          let (items, rest) ← items fuel (skipLines true false rest)
          some (item :: items, rest)
      | _ => none

/-- One key with its value, put among the entries that are there. -/
def pair (fuel : Nat) (entries : Entries) (text : List Char) : Option (Entries × List Char) :=
  match fuel with
  | 0 => none
  | fuel + 1 => do
      let (path, key, rest) ← dottedKey (text.length + 1) text
      match rest with
      | '=' :: rest => do
          let (value, rest) ← value fuel (skipBlanks rest)
          let entries ← entries.assign path key value
          some (entries, skipBlanks rest)
      | _ => none

/-- The pairs of an inline table up to its brace. No comma stands behind the last one. -/
def pairs : (fuel : Nat) → Entries → List Char → Option (Entries × List Char)
  | 0, _, _ => none
  | fuel + 1, entries, text =>
      match entries, text with
      | [], '\x7d' :: rest => some ([], rest)
      | _, _ => do
          let (entries, rest) ← pair fuel entries text
          match rest with
          | '\x7d' :: rest => some (entries, rest)
          | ',' :: rest => pairs fuel entries rest
          | _ => none

end

/-- A document that has been read in part, with the path of the table that is open. -/
structure Draft where
  entries : Entries
  path : List String

/-- The full key of a header and what follows it. -/
def headerKey (text : List Char) : Option (List String × String × List Char) :=
  dottedKey (text.length + 1) text

/-- Takes the header of a table, or of an element of an array of tables. -/
def Draft.header (draft : Draft) (isElement : Bool) (text : List Char) :
    Option (Draft × List Char) := do
  let (path, key, rest) ← headerKey text
  let rest ← after? (if isElement then [']', ']'] else [']']) rest
  let change := if isElement then Entries.openElement key else Entries.openTable key
  let entries ← draft.entries.alterByHeader change path
  some ({ entries, path := path ++ [key] }, rest)

/-- Takes a key with its value. -/
def Draft.assignment (draft : Draft) (text : List Char) : Option (Draft × List Char) := do
  let (path, key, rest) ← dottedKey (text.length + 1) text
  match rest with
  | '=' :: rest => do
      let (value, rest) ← value (4 * rest.length + 4) (skipBlanks rest)
      let entries ← draft.entries.alterByHeader (Entries.assign path key value) draft.path
      some ({ draft with entries }, rest)
  | _ => none

/-- Takes what stands on a line. -/
def Draft.line (draft : Draft) (text : List Char) : Option (Draft × List Char) :=
  match text with
  | '[' :: '[' :: rest => draft.header true rest
  | '[' :: rest => draft.header false rest
  | _ => if (endOfLine? text).isSome then some (draft, text) else draft.assignment text

/-- Takes line after line up to the end of the text. -/
def Draft.lines (draft : Draft) : (fuel : Nat) → List Char → Option Entries
  | 0, _ => none
  | _ + 1, [] => some draft.entries
  | fuel + 1, text => do
      let (draft, rest) ← draft.line (skipBlanks text)
      lines draft fuel (← endOfLine? rest)

def withoutOrderMark : List Char → List Char
  | '\ufeff' :: rest => rest
  | text => text

/-- The table that a whole text writes. -/
def read? (text : String) : Option Json := do
  let chars := withoutOrderMark text.toList
  let entries ← Draft.lines { entries := [], path := [] } (chars.length + 1) chars
  some entries.toJson

end SyntheticRows.Toml
