import SyntheticRows.NameMap
import SyntheticRows.Text.InQuotes
/-!
Tables as comma-separated values. A field is quoted where it holds a quote, a comma or a line
break; a record that would be an empty line is written as a quoted empty field.
-/

namespace SyntheticRows.Csv

def needsQuotes (field : List Char) : Bool :=
  field.any fun c => c == '"' || c == ',' || c == '\n' || c == '\r'

def fieldText (field : List Char) : List Char :=
  if needsQuotes field then Text.inQuotes field else field

/-- The fields of a record with commas between them. -/
def recordText : List (List Char) → List Char
  | [] | [[]] => ['"', '"']
  | fields => [','].intercalate (fields.map fieldText)

/-- Every record ends with a line feed. -/
def recordsText (records : List (List (List Char))) : List Char :=
  records.flatMap fun record => recordText record ++ ['\n']

/-- The fields of a row; a column without a value is empty. -/
def rowFields (columns : List String) (row : NameMap String) : List (List Char) :=
  columns.map fun column => ((row.get? column).getD "").toList

/-- The names of the columns and then the rows. -/
def tableText (columns : List String) (rows : List (NameMap String)) : String :=
  String.ofList (recordsText (columns.map String.toList :: rows.map (rowFields columns)))

end SyntheticRows.Csv
