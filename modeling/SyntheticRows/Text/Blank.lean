/-!
White space and the ways of trimming and splitting at it. A blank is a character with the Unicode
property `White_Space`.
-/

namespace SyntheticRows.Text

def isBlank (c : Char) : Bool :=
  let n := c.toNat
  (9 ≤ n && n ≤ 13) || n == 32 || n == 0x85 || n == 0xa0 || n == 0x1680 ||
    (0x2000 ≤ n && n ≤ 0x200a) || n == 0x2028 || n == 0x2029 || n == 0x202f ||
    n == 0x205f || n == 0x3000

def trimStart (text : List Char) : List Char :=
  text.dropWhile isBlank

def trimEnd (text : List Char) : List Char :=
  (text.reverse.dropWhile isBlank).reverse

def trim (text : List Char) : List Char :=
  trimEnd (trimStart text)

def allBlank (text : List Char) : Bool :=
  text.all isBlank

/-- The parts between the characters that satisfy a test: always at least one. -/
def splitWhere (separates : Char → Bool) : List Char → List (List Char)
  | [] => [[]]
  | c :: rest =>
      if separates c then [] :: splitWhere separates rest
      else match splitWhere separates rest with
        | [] => [[c]]
        | part :: parts => (c :: part) :: parts

/-- The maximal runs of characters that are not blank. -/
def words (text : List Char) : List (List Char) :=
  (splitWhere isBlank text).filter (!·.isEmpty)

def wordsOf (text : String) : List String :=
  (words text.toList).map String.ofList

def joinWith (separator : List Char) (parts : List (List Char)) : List Char :=
  separator.intercalate parts

/-- The words of a text with one space between neighbours. -/
def collapseBlanks (text : List Char) : List Char :=
  joinWith [' '] (words text)

end SyntheticRows.Text
