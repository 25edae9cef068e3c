import SyntheticRows.Text.Blank
import SyntheticRows.Text.CaseTable
import SyntheticRows.Text.Numeral
import SyntheticRows.Text.PrintTable
/-!
Texts in double quotes for a reader's eye: characters without a shape of their own are written by
their codes.
-/

namespace SyntheticRows.Text

def hasShape (c : Char) : Bool :=
  0x20 ≤ c.toNat && !inRanges shapelessRanges c.toNat

def visibleChar (c : Char) : List Char :=
  if c = '\x00' then ['\\', '0']
  else if c = '\t' then ['\\', 't']
  else if c = '\r' then ['\\', 'r']
  else if c = '\n' then ['\\', 'n']
  else if c = '\\' || c = '"' then ['\\', c]
  else if hasShape c then [c]
  else '\\' :: 'u' :: '\x7b' :: lowerHex c.toNat ++ ['\x7d']

def visible (text : String) : List Char :=
  '"' :: text.toList.flatMap visibleChar ++ ['"']

/-- The texts in brackets. -/
def visibleList (texts : List String) : String :=
  String.ofList ('[' :: joinWith [',', ' '] (texts.map visible) ++ [']'])

end SyntheticRows.Text
