/-!
YAML text as a list of characters that know their places. Line breaks of all kinds but two become a
line feed; the two separators keep their codes.
-/

namespace SyntheticRows.Yaml

structure Cell where
  char : Char
  line : Nat
  column : Nat
  deriving DecidableEq, Repr

def isBlank (c : Char) : Bool :=
  c == ' ' || c == '\t'

def isBreak (c : Char) : Bool :=
  c == '\n' || c == '\u2028' || c == '\u2029'

def isSpace (c : Char) : Bool :=
  isBlank c || isBreak c

/-- Characters that a text may hold. -/
def isAllowed (c : Char) : Bool :=
  let n := c.toNat
  n == 9 || n == 10 || n == 13 || (0x20 ≤ n && n ≤ 0x7e) || n == 0x85 ||
    (0xa0 ≤ n && n ≤ 0xd7ff) || (0xe000 ≤ n && n ≤ 0xfffd) || 0x10000 ≤ n

/-- Writes each line break as one character. -/
def unifyBreaks : List Char → List Char
  | [] => []
  | '\r' :: '\n' :: rest => '\n' :: unifyBreaks rest
  | c :: rest => (if c = '\r' || c = '\u0085' then '\n' else c) :: unifyBreaks rest

def place (line column : Nat) : List Char → List Cell
  | [] => []
  | c :: rest =>
      ⟨c, line, column⟩ ::
        if isBreak c then place (line + 1) 0 rest else place line (column + 1) rest

/-- A mark of the byte order may stand in front. -/
def withoutOrderMark : List Char → List Char
  | '\ufeff' :: rest => rest
  | text => text

/-- The cells of a text, if it holds nothing but allowed characters. -/
def cells? (text : String) : Option (List Cell) :=
  let chars := withoutOrderMark text.toList
  if chars.all isAllowed then some (place 0 0 (unifyBreaks chars)) else none

/-- The text ends here or goes on with white space. -/
def startsSpace : List Cell → Bool
  | [] => true
  | cell :: _ => isSpace cell.char

def startsWith (c : Char) : List Cell → Bool
  | [] => false
  | cell :: _ => cell.char == c

/-- Three times a character at the start of a line and then white space. -/
def isMarker (c : Char) : List Cell → Bool
  | x :: y :: z :: rest =>
      x.column == 0 && x.char == c && y.char == c && z.char == c && startsSpace rest
  | _ => false

def isDocumentStart : List Cell → Bool :=
  isMarker '-'

def isDocumentEnd : List Cell → Bool :=
  isMarker '.'

/-- A document ends at a marker and at the end of the text. -/
def endsDocument (cells : List Cell) : Bool :=
  cells.isEmpty || isDocumentStart cells || isDocumentEnd cells

/-- What is passed between two tokens. -/
inductive Gap where
  /-- Blanks, among them tabs where these do not indent. -/
  | blanks (tabs : Bool)
  | comment

/-- Passes blanks, comments and line breaks. The result tells whether a line break was passed. -/
def passGap (inFlow : Bool) : Gap → List Cell → Bool × List Cell
  | _, [] => (false, [])
  | .comment, cell :: rest =>
      if isBreak cell.char then (true, (passGap inFlow (.blanks inFlow) rest).2)
      else passGap inFlow .comment rest
  | .blanks tabs, cell :: rest =>
      if cell.char == ' ' || (tabs && cell.char == '\t') then passGap inFlow (.blanks tabs) rest
      else if cell.char == '#' then passGap inFlow .comment rest
      else if isBreak cell.char then (true, (passGap inFlow (.blanks inFlow) rest).2)
      else (false, cell :: rest)

/-- The next token of a flow collection, where tabs and line breaks are like spaces. -/
def nextInFlow (cells : List Cell) : List Cell :=
  (passGap true (.blanks true) cells).2

/-- A place in block context. On a fresh line a key may begin, and tabs may not indent. -/
structure Place where
  fresh : Bool
  cells : List Cell

/-- The next token in block context. -/
def Place.next (place : Place) : Place :=
  let (broken, cells) := passGap false (.blanks !place.fresh) place.cells
  { fresh := place.fresh || broken, cells }

end SyntheticRows.Yaml
