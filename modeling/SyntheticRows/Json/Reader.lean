import SyntheticRows.Json.Value
import SyntheticRows.Text.Numeral
/-!
Reading JSON text. The text must be one value with JSON white space around it; a character code
that belongs to half of a surrogate pair alone is refused.
-/

namespace SyntheticRows.Json

open Text

def isSpace (c : Char) : Bool :=
  c == ' ' || c == '\t' || c == '\n' || c == '\r'

def skipSpace (text : List Char) : List Char :=
  text.dropWhile isSpace

/-- A piece of a string: a character, or a code of sixteen bits written as an escape. -/
inductive StringPiece where
  | char (c : Char)
  | code (value : Nat)

def shortEscapeChar? : Char → Option Char
  | '"' => some '"'
  | '\\' => some '\\'
  | '/' => some '/'
  | 'b' => some '\x08'
  | 'f' => some '\x0c'
  | 'n' => some '\n'
  | 'r' => some '\r'
  | 't' => some '\t'
  | _ => none

/-- The pieces of a string up to its closing quote, with what follows that quote. -/
def stringPieces : List Char → Option (List StringPiece × List Char)
  | [] => none
  | c :: rest =>
      if c = '"' then some ([], rest)
      else if c = '\\' then
        match rest with
        | 'u' :: d₁ :: d₂ :: d₃ :: d₄ :: rest => do
            let value ← hexValue? [d₁, d₂, d₃, d₄]
            let (pieces, rest) ← stringPieces rest
            some (.code value :: pieces, rest)
        | letter :: rest => do
            let c ← shortEscapeChar? letter
            let (pieces, rest) ← stringPieces rest
            some (.char c :: pieces, rest)
        | [] => none
      else if c.toNat < 0x20 then none
      else do
        let (pieces, rest) ← stringPieces rest
        some (.char c :: pieces, rest)

def isHighSurrogate (code : Nat) : Bool :=
  0xd800 ≤ code && code < 0xdc00

def isLowSurrogate (code : Nat) : Bool :=
  0xdc00 ≤ code && code < 0xe000

/-- The characters of a string; two codes of a surrogate pair make one character. -/
def joinPieces : List StringPiece → Option (List Char)
  | [] => some []
  | .char c :: pieces => (joinPieces pieces).map (c :: ·)
  | .code high :: .code low :: pieces =>
      if isHighSurrogate high then
        if isLowSurrogate low then
          (joinPieces pieces).map
            (Char.ofNat (0x10000 + (high - 0xd800) * 0x400 + (low - 0xdc00)) :: ·)
        else none
      else if isLowSurrogate high then none
      else (joinPieces (.code low :: pieces)).map (Char.ofNat high :: ·)
  | .code value :: pieces =>
      if isHighSurrogate value || isLowSurrogate value then none
      else (joinPieces pieces).map (Char.ofNat value :: ·)

/-- A string whose opening quote has been read. -/
def stringBody (text : List Char) : Option (String × List Char) := do
  let (pieces, rest) ← stringPieces text
  let chars ← joinPieces pieces
  some (String.ofList chars, rest)

/-- The digits of the whole part of a numeral: a zero stands alone. -/
def wholeDigits (text : List Char) : Option (List Char × List Char) :=
  match text with
  | '0' :: rest => some (['0'], rest)
  | _ =>
      let digits := text.takeWhile Char.isDigit
      if digits.isEmpty then none else some (digits, text.dropWhile Char.isDigit)

/-- One or more digits after a mark that has been read. -/
def someDigits (mark text : List Char) : Option (List Char × List Char) :=
  let digits := text.takeWhile Char.isDigit
  if digits.isEmpty then none else some (mark ++ digits, text.dropWhile Char.isDigit)

def fractionPart : List Char → Option (List Char × List Char)
  | '.' :: rest => someDigits ['.'] rest
  | text => some ([], text)

def exponentPart : List Char → Option (List Char × List Char)
  | c :: rest =>
      if c = 'e' || c = 'E' then
        match rest with
        | '+' :: digits => someDigits [c, '+'] digits
        | '-' :: digits => someDigits [c, '-'] digits
        | digits => someDigits [c] digits
      else some ([], c :: rest)
  | [] => some ([], [])

/-- A numeral. Minus zero is no whole number. -/
def numeral (text : List Char) : Option (Json × List Char) := do
  let (sign, unsigned) := match text with
    | '-' :: rest => (['-'], rest)
    | _ => ([], text)
  let (whole, rest) ← wholeDigits unsigned
  let (fraction, rest) ← fractionPart rest
  let (exponent, rest) ← exponentPart rest
  let value := decimalValue whole
  if fraction.isEmpty && exponent.isEmpty && (sign.isEmpty || value != 0) then
    some (.integer (if sign.isEmpty then value else -value), rest)
  else
    some (.decimal (String.ofList (sign ++ whole ++ fraction ++ exponent)), rest)

def word? (text : List Char) : Option (Json × List Char) :=
  match text with
  | 'n' :: 'u' :: 'l' :: 'l' :: rest => some (.null, rest)
  | 't' :: 'r' :: 'u' :: 'e' :: rest => some (.bool true, rest)
  | 'f' :: 'a' :: 'l' :: 's' :: 'e' :: rest => some (.bool false, rest)
  | _ => numeral text

mutual

/-- A value at the front of a text. The fuel bounds the number of steps. -/
def value : (fuel : Nat) → List Char → Option (Json × List Char)
  | 0, _ => none
  | fuel + 1, text =>
      match skipSpace text with
      | [] => none
      | '"' :: rest => (stringBody rest).map fun (value, rest) => (.string value, rest)
      | '[' :: rest =>
          match skipSpace rest with
          | ']' :: rest => some (.array [], rest)
          | rest => (items fuel rest).map fun (items, rest) => (.array items, rest)
      | '\x7b' :: rest =>
          match skipSpace rest with
          | '\x7d' :: rest => some (.object [], rest)
          | rest => (members fuel rest).map fun (fields, rest) => (.object fields, rest)
      | rest => word? rest

/-- One or more values up to the closing bracket. -/
def items : (fuel : Nat) → List Char → Option (List Json × List Char)
  | 0, _ => none
  | fuel + 1, text => do
      let (item, rest) ← value fuel text
      match skipSpace rest with
      | ']' :: rest => some ([item], rest)
      | ',' :: rest =>
          let (items, rest) ← items fuel rest
          some (item :: items, rest)
      | _ => none

/-- One or more fields up to the closing brace. -/
def members : (fuel : Nat) → List Char → Option (List (String × Json) × List Char)
  | 0, _ => none
  | fuel + 1, text => do
      match skipSpace text with
      | '"' :: rest =>
          let (name, rest) ← stringBody rest
          match skipSpace rest with
          | ':' :: rest =>
              let (member, rest) ← value fuel rest
              match skipSpace rest with
              | '\x7d' :: rest => some ([(name, member)], rest)
              | ',' :: rest =>
                  let (fields, rest) ← members fuel rest
                  some ((name, member) :: fields, rest)
              | _ => none
          | _ => none
      | _ => none

end

/-- The value that a whole text writes. Each step takes a character, so the fuel suffices. -/
def read? (text : String) : Option Json := do
  let (value, rest) ← value (2 * text.length + 2) text.toList
  if (skipSpace rest).isEmpty then some value else none

end SyntheticRows.Json
