import SyntheticRows.Json.Value
import SyntheticRows.Text.Numeral
/-!
The two written forms of a JSON value: on one line without blanks, and on several lines with two
spaces for each level. Characters beyond ASCII stand for themselves.
-/

namespace SyntheticRows.Json

open Text

/-- The control characters that have an escape of one letter, with that letter. -/
def shortEscape? (c : Char) : Option Char :=
  if c = '"' then some '"'
  else if c = '\\' then some '\\'
  else if c = '\n' then some 'n'
  else if c = '\r' then some 'r'
  else if c = '\t' then some 't'
  else if c = '\x08' then some 'b'
  else if c = '\x0c' then some 'f'
  else none

def escapeChar (c : Char) : List Char :=
  match shortEscape? c with
  | some letter => ['\\', letter]
  | none => if c.toNat < 0x20 then '\\' :: 'u' :: paddedHex 4 c.toNat else [c]

def quoted (value : String) : List Char :=
  '"' :: value.toList.flatMap escapeChar ++ ['"']

def integerText (value : Int) : List Char :=
  match value with
  | .ofNat n => Text.decimal n
  | .negSucc n => '-' :: Text.decimal (n + 1)

def indentation (level : Nat) : List Char :=
  '\n' :: List.replicate (2 * level) ' '

mutual

/-- The form on several lines. The first line carries no indentation of its own. -/
def prettyText (level : Nat) : Json → List Char
  | null => "null".toList
  | bool true => "true".toList
  | bool false => "false".toList
  | integer value => integerText value
  | decimal numeral => numeral.toList
  | string value => quoted value
  | array [] => "[]".toList
  | array (item :: items) =>
      '[' :: indentation (level + 1) ++ prettyText (level + 1) item ++
        prettyItems (level + 1) items ++ indentation level ++ [']']
  | object [] => "\x7b\x7d".toList
  | object ((name, value) :: fields) =>
      '\x7b' :: indentation (level + 1) ++ quoted name ++ ':' :: ' ' ::
        prettyText (level + 1) value ++ prettyFields (level + 1) fields ++
        indentation level ++ ['\x7d']

def prettyItems (level : Nat) : List Json → List Char
  | [] => []
  | item :: items =>
      ',' :: indentation level ++ prettyText level item ++ prettyItems level items

def prettyFields (level : Nat) : List (String × Json) → List Char
  | [] => []
  | (name, value) :: fields =>
      ',' :: indentation level ++ quoted name ++ ':' :: ' ' :: prettyText level value ++
        prettyFields level fields

end

mutual

/-- The form on one line. -/
def compactText : Json → List Char
  | null => "null".toList
  | bool true => "true".toList
  | bool false => "false".toList
  | integer value => integerText value
  | decimal numeral => numeral.toList
  | string value => quoted value
  | array [] => "[]".toList
  | array (item :: items) => '[' :: compactText item ++ compactItems items ++ [']']
  | object [] => "\x7b\x7d".toList
  | object ((name, value) :: fields) =>
      '\x7b' :: quoted name ++ ':' :: compactText value ++ compactFields fields ++ ['\x7d']

def compactItems : List Json → List Char
  | [] => []
  | item :: items => ',' :: compactText item ++ compactItems items

def compactFields : List (String × Json) → List Char
  | [] => []
  | (name, value) :: fields =>
      ',' :: quoted name ++ ':' :: compactText value ++ compactFields fields

end

def pretty (value : Json) : String :=
  String.ofList (prettyText 0 value)

def compact (value : Json) : String :=
  String.ofList (compactText value)

end SyntheticRows.Json
