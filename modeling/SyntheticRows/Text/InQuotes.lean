/-!
A text in double quotes in which each quote of the text is written twice.
-/

namespace SyntheticRows.Text

def doubleQuotes (text : List Char) : List Char :=
  text.flatMap fun c => if c = '"' then ['"', '"'] else [c]

def inQuotes (text : List Char) : List Char :=
  '"' :: doubleQuotes text ++ ['"']

end SyntheticRows.Text
