import SyntheticRows.Store.Basic
import SyntheticRows.Text.Cut
import SyntheticRows.Text.InQuotes
import SyntheticRows.Text.Numeral
/-!
Statements that fill tables and read keys. Names stand in quotes; values are parameters, cast to the
declared types of their columns.
-/

namespace SyntheticRows.Sql

open Text

/-- A table with its namespace. What stands before the first point of a name is its namespace. -/
def qualifiedName (namespaceName table : List Char) : List Char :=
  match cutFirst '.' table with
  | some (before, name) => inQuotes before ++ '.' :: inQuotes name
  | none => inQuotes namespaceName ++ '.' :: inQuotes table

/-- The parameter of a number from one on, cast to a type. -/
def placeholder (number : Nat) (type : String) : List Char :=
  '$' :: decimal number ++ ':' :: ':' :: type.toList

/-- The parameters of columns, the first of which has the given number. -/
def placeholders (number : Nat) : List ColumnBinding → List (List Char)
  | [] => []
  | column :: columns => placeholder number column.sqlType :: placeholders (number + 1) columns

def listed (items : List (List Char)) : List Char :=
  '(' :: joinWith [',', ' '] items ++ [')']

/-- An insert into a table whose full name is `target`. -/
def insertText (target : List Char) (columns : List ColumnBinding) : List Char :=
  "INSERT INTO ".toList ++ target ++
    if columns.isEmpty then " DEFAULT VALUES".toList
    else ' ' :: listed (columns.map fun column => inQuotes column.name.toList) ++
      " VALUES ".toList ++ listed (placeholders 1 columns)

/-- A query for one value of a column, chosen by the server. -/
def sampleText (target column : List Char) : List Char :=
  let column := inQuotes column
  "SELECT ".toList ++ column ++ "::text FROM ".toList ++ target ++ " WHERE ".toList ++ column ++
    " IS NOT NULL ORDER BY random() LIMIT 1".toList

def insertStatement (namespaceName table : String) (columns : List ColumnBinding) : String :=
  String.ofList (insertText (qualifiedName namespaceName.toList table.toList) columns)

def sampleStatement (namespaceName table column : String) : String :=
  String.ofList (sampleText (qualifiedName namespaceName.toList table.toList) column.toList)

end SyntheticRows.Sql
