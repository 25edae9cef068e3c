import SyntheticRows.Text.Numeral
import SyntheticRows.Yaml.Cell
/-!
Scalars of a YAML text: plain, in single quotes and in double quotes. White space inside a scalar
stays as it is on one line; a line break becomes a space, and each further one a line feed.
-/

namespace SyntheticRows.Yaml

/-- White space inside a scalar. -/
inductive Spacing where
  | inline (blanks : List Char)
  /-- The first line break, unless it was escaped, and the further ones. -/
  | broken (first : Option Char) (more : List Char)

namespace Spacing

def empty : Spacing :=
  inline []

def isBroken : Spacing → Bool
  | inline _ => false
  | broken _ _ => true

def add (c : Char) : Spacing → Spacing
  | inline blanks => if isBreak c then broken (some c) [] else inline (blanks ++ [c])
  | broken first more => if isBreak c then broken first (more ++ [c]) else broken first more

/-- What the white space stands for. -/
def folded : Spacing → List Char
  | inline blanks => blanks
  | broken (some '\n') [] => [' ']
  | broken (some '\n') more => more
  | broken first more => first.toList ++ more

end Spacing

def isFlowIndicator (c : Char) : Bool :=
  c == ',' || c == '[' || c == ']' || c == '\x7b' || c == '\x7d'

/-- Characters that begin no plain scalar. -/
def isIndicator (c : Char) : Bool :=
  isFlowIndicator c || "-?:#&*!|>'\"%@`".toList.contains c

/-- A plain scalar begins here. A hyphen may begin one, and in block context a question mark or a
colon, if something other than white space follows. -/
def startsPlain (inFlow : Bool) : List Cell → Bool
  | [] => false
  | cell :: rest =>
      (!isSpace cell.char && !isIndicator cell.char) ||
        (cell.char == '-' && !startsSpace rest) ||
        (!inFlow && (cell.char == '?' || cell.char == ':') && !startsSpace rest)

/-- What ends a plain scalar at a character that is no white space. -/
def endsPlain (inFlow : Bool) (c : Char) (rest : List Cell) : Bool :=
  (c == ':' && startsSpace rest) || (inFlow && isFlowIndicator c)

/-- A colon that neither separates nor belongs to a plain scalar in a flow collection. -/
def isStrayColon (inFlow : Bool) (c : Char) (rest : List Cell) : Bool :=
  inFlow && c == ':' && rest.head?.any fun next => isFlowIndicator next.char || next.char == '?'

/-- Behind white space a plain scalar also ends at a comment, at a marker and, in block context, at
a line that is indented less than `least`. -/
def endsPlainLine (inFlow : Bool) (least : Nat) (cell : Cell) (rest : List Cell) : Bool :=
  cell.char == '#' || (!inFlow && cell.column < least) || endsDocument (cell :: rest)

/-- The rest of a plain scalar, and the place behind it and the white space that follows. -/
def plainText (inFlow : Bool) (least : Nat) (spacing : Spacing) :
    List Cell → Option (List Char × Place)
  | [] => some ([], { fresh := spacing.isBroken, cells := [] })
  | cell :: rest =>
      if isSpace cell.char then
        if spacing.isBroken && cell.char == '\t' && cell.column < least then none
        else plainText inFlow least (spacing.add cell.char) rest
      else if isStrayColon inFlow cell.char rest then none
      else
        let behindSpace := match spacing with
          | .inline [] => false
          | _ => true
        if (behindSpace && endsPlainLine inFlow least cell rest) ||
            endsPlain inFlow cell.char rest then
          some ([], { fresh := spacing.isBroken, cells := cell :: rest })
        else do
          let (text, behind) ← plainText inFlow least .empty rest
          some (spacing.folded ++ cell.char :: text, behind)

/-- The text in single quotes up to the closing quote, which is written twice inside. -/
def singleQuoted (spacing : Spacing) : List Cell → Option (List Char × List Cell)
  | [] => none
  | cell :: rest =>
      if isSpace cell.char then singleQuoted (spacing.add cell.char) rest
      else if endsDocument (cell :: rest) then none
      else if cell.char == '\x27' then
        match rest with
        | next :: behind =>
            if next.char == '\x27' then do
              let (text, behind) ← singleQuoted .empty behind
              some (spacing.folded ++ '\x27' :: text, behind)
            else some (spacing.folded, rest)
        | [] => some (spacing.folded, [])
      else do
        let (text, behind) ← singleQuoted .empty rest
        some (spacing.folded ++ cell.char :: text, behind)

def escapedChar? (c : Char) : Option Char :=
  match c with
  | '0' => some '\x00'
  | 'a' => some '\x07'
  | 'b' => some '\x08'
  | 't' | '\t' => some '\t'
  | 'n' => some '\n'
  | 'v' => some '\x0b'
  | 'f' => some '\x0c'
  | 'r' => some '\r'
  | 'e' => some '\x1b'
  | ' ' | '"' | '/' | '\\' => some c
  | 'N' => some '\u0085'
  | '_' => some '\u00a0'
  | 'L' => some '\u2028'
  | 'P' => some '\u2029'
  | _ => none

/-- How many hexadecimal digits follow the letter of an escape. -/
def codeLength? (c : Char) : Option Nat :=
  match c with
  | 'x' => some 2
  | 'u' => some 4
  | 'U' => some 8
  | _ => none

/-- The character of a code, which must not be half of a surrogate pair. -/
def codedChar? (digits : List Char) : Option Char := do
  let value ← Text.hexValue? digits
  if value.isValidChar then some (Char.ofNat value) else none

/-- How a piece of a text in double quotes begins. -/
inductive Escape where
  /-- The character that is meant, and the number of cells that write it. -/
  | char (c : Char) (length : Nat)
  | lineBreak
  deriving DecidableEq

/-- The escape behind a backslash. -/
def escape? : List Cell → Option Escape
  | [] => none
  | cell :: rest =>
      if isBreak cell.char then some .lineBreak
      else match codeLength? cell.char with
        | some length =>
            let digits := (rest.take length).map (·.char)
            if digits.length = length then
              (codedChar? digits).map fun c => .char c (length + 1)
            else none
        | none => (escapedChar? cell.char).map fun c => .char c 1

/-- The text in double quotes up to the closing quote. `skip` cells belong to an escape that has
been read. -/
def doubleQuoted (skip : Nat) (spacing : Spacing) : List Cell → Option (List Char × List Cell)
  | [] => none
  | cell :: rest =>
      match skip with
      | skip + 1 => doubleQuoted skip spacing rest
      | 0 =>
          if isSpace cell.char then doubleQuoted 0 (spacing.add cell.char) rest
          else if endsDocument (cell :: rest) then none
          else if cell.char == '"' then some (spacing.folded, rest)
          else if cell.char == '\\' then
            match escape? rest with
            | none => none
            | some .lineBreak => do
                let (text, behind) ← doubleQuoted 1 (.broken none []) rest
                some (spacing.folded ++ text, behind)
            | some (.char c length) => do
                let (text, behind) ← doubleQuoted length .empty rest
                some (spacing.folded ++ c :: text, behind)
          else do
            let (text, behind) ← doubleQuoted 0 .empty rest
            some (spacing.folded ++ cell.char :: text, behind)

end SyntheticRows.Yaml
