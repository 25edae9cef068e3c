import SyntheticRows.Text.Cut
import SyntheticRows.Text.Numeral
/-!
Keys, strings and numbers of a TOML text. A reader takes what it reads off the front of a text.
-/

namespace SyntheticRows.Toml

open Text

def isBlank (c : Char) : Bool :=
  c == ' ' || c == '\t'

def skipBlanks (text : List Char) : List Char :=
  text.dropWhile isBlank

/-- What follows a line break. -/
def afterBreak? : List Char → Option (List Char)
  | '\n' :: rest => some rest
  | '\r' :: '\n' :: rest => some rest
  | _ => none

/-- Characters of comments and strings: all but control characters. -/
def isPrintable (c : Char) : Bool :=
  c == '\t' || (0x20 ≤ c.toNat && c.toNat != 0x7f)

/-- Passes a comment, which must hold nothing but printable characters. -/
def skipComment (text : List Char) : List Char :=
  match text with
  | '#' :: rest => rest.dropWhile isPrintable
  | _ => text

/-- What follows the end of a line, in front of which a comment may stand. -/
def endOfLine? (text : List Char) : Option (List Char) :=
  match skipComment (skipBlanks text) with
  | [] => some []
  | rest => afterBreak? rest

def simpleEscape? (c : Char) : Option Char :=
  match c with
  | 'b' => some '\x08'
  | 't' => some '\t'
  | 'n' => some '\n'
  | 'f' => some '\x0c'
  | 'r' => some '\r'
  | '"' | '\\' => some c
  | _ => none

/-- A character with the number of characters that write it, behind a backslash. -/
def escape? : List Char → Option (Char × Nat)
  | [] => none
  | c :: rest =>
      if c == 'u' || c == 'U' then do
        let length := if c == 'u' then 4 else 8
        let digits := rest.take length
        let value ← hexValue? digits
        if digits.length = length && value.isValidChar then some (Char.ofNat value, length + 1)
        else none
      else (simpleEscape? c).map (·, 1)

/-- A string up to its closing quote. `skip` characters belong to an escape that has been read. -/
def basicBody (skip : Nat) : List Char → Option (List Char × List Char)
  | [] => none
  | c :: rest =>
      match skip with
      | skip + 1 => basicBody skip rest
      | 0 =>
          if c == '"' then some ([], rest)
          else if c == '\\' then do
            let (meant, length) ← escape? rest
            let (body, rest) ← basicBody length rest
            some (meant :: body, rest)
          else if isPrintable c then do
            let (body, rest) ← basicBody 0 rest
            some (c :: body, rest)
          else none

/-- A string without escapes up to its closing quote. -/
def literalBody : List Char → Option (List Char × List Char)
  | [] => none
  | c :: rest =>
      if c == '\x27' then some ([], rest)
      else if isPrintable c then do
        let (body, rest) ← literalBody rest
        some (c :: body, rest)
      else none

/-- Passes blanks, line breaks and, if wanted, comments. -/
def skipLines (comments inComment : Bool) : List Char → List Char
  | [] => []
  | c :: rest =>
      if c == '\n' then skipLines comments false rest
      else if c == '\r' && rest.head? == some '\n' then skipLines comments false rest
      else if inComment then
        if isPrintable c then skipLines comments true rest else c :: rest
      else if isBlank c then skipLines comments false rest
      else if comments && c == '#' then skipLines comments true rest
      else c :: rest

/-- How many characters a backslash at the end of a line leaves out behind it. -/
def lineEscapeLength? (text : List Char) : Option Nat := do
  let rest ← afterBreak? (skipBlanks text)
  some (text.length - (skipLines false false rest).length)

/-- A string of several lines up to the three quotes that close it. Up to two more quotes in front
of them belong to the string. -/
def linesBody (escapes : Bool) (quote : Char) (skip : Nat) :
    List Char → Option (List Char × List Char)
  | [] => none
  | c :: rest =>
      match skip with
      | skip + 1 => linesBody escapes quote skip rest
      | 0 =>
          let quotes := ((c :: rest).takeWhile (· == quote)).length
          if 3 ≤ quotes then
            let taken := min quotes 5
            some (List.replicate (taken - 3) quote, (c :: rest).drop taken)
          else if c == '\r' then
            if rest.head? == some '\n' then linesBody escapes quote 0 rest else none
          else if escapes && c == '\\' then
            match lineEscapeLength? rest with
            | some length => linesBody escapes quote length rest
            | none => do
                let (meant, length) ← escape? rest
                let (body, rest) ← linesBody escapes quote length rest
                some (meant :: body, rest)
          else if c == '\n' || isPrintable c then do
            let (body, rest) ← linesBody escapes quote 0 rest
            some (c :: body, rest)
          else none

/-- A line break right behind the opening quotes does not count. -/
def withoutFirstBreak (text : List Char) : List Char :=
  (afterBreak? text).getD text

/-- A string at its opening quote. -/
def quotedString : List Char → Option (List Char × List Char)
  | '"' :: '"' :: '"' :: rest => linesBody true '"' 0 (withoutFirstBreak rest)
  | '\x27' :: '\x27' :: '\x27' :: rest => linesBody false '\x27' 0 (withoutFirstBreak rest)
  | '"' :: rest => basicBody 0 rest
  | '\x27' :: rest => literalBody rest
  | _ => none

def isBareKeyChar (c : Char) : Bool :=
  c.isAlphanum || c == '_' || c == '-'

/-- A key: bare, or a string of one line. -/
def simpleKey (text : List Char) : Option (String × List Char) :=
  let (key, rest) := text.span isBareKeyChar
  if !key.isEmpty then some (String.ofList key, rest)
  else do
    let (key, rest) ← match text with
      | '"' :: rest => basicBody 0 rest
      | '\x27' :: rest => literalBody rest
      | _ => none
    some (String.ofList key, rest)

/-- A key of one or more parts with points between them. Blanks around it are passed. -/
def dottedKey : (fuel : Nat) → List Char → Option (List String × String × List Char)
  | 0, _ => none
  | fuel + 1, text => do
      let (key, rest) ← simpleKey (skipBlanks text)
      match skipBlanks rest with
      | '.' :: rest => do
          let (path, last, rest) ← dottedKey fuel rest
          some (key :: path, last, rest)
      | rest => some ([], key, rest)

/-- Digits between which single underscores may stand. -/
def groupedDigits? (isDigit : Char → Bool) (text : List Char) : Option (List Char) :=
  let groups := splitAtEach '_' text
  if groups.all fun group => !group.isEmpty && group.all isDigit then some groups.flatten else none

/-- The value of digits in a base up to sixteen. -/
def baseValue? (base : Nat) (text : List Char) : Option Nat := do
  let isDigit := fun c => (hexDigitValue? c).any (· < base)
  let digits ← groupedDigits? isDigit text
  digits.foldlM (fun value c => (hexDigitValue? c).map (base * value + ·)) 0

/-- Decimal digits without a zero in front. -/
def wholeDigits? (text : List Char) : Option (List Char) := do
  let digits ← groupedDigits? Char.isDigit text
  match digits with
  | '0' :: _ :: _ => none
  | _ => some digits

/-- What follows a sign, and whether it is a minus. -/
def splitSign : List Char → Bool × List Char
  | '-' :: rest => (true, rest)
  | '+' :: rest => (false, rest)
  | text => (false, text)

def unboundedInteger? (text : List Char) : Option Int :=
  match text with
  | '0' :: 'x' :: digits => (baseValue? 16 digits).map Int.ofNat
  | '0' :: 'o' :: digits => (baseValue? 8 digits).map Int.ofNat
  | '0' :: 'b' :: digits => (baseValue? 2 digits).map Int.ofNat
  | _ => do
      let (negative, digits) := splitSign text
      let value := decimalValue (← wholeDigits? digits)
      some (if negative then -value else value)

/-- An integer of 64 bits. -/
def integer? (text : List Char) : Option Int := do
  let value ← unboundedInteger? text
  if isWord64 value then some value else none

def isExponent (text : List Char) : Bool :=
  (groupedDigits? Char.isDigit (splitSign text).2).isSome

/-- A number with a fraction, an exponent or both. -/
def isFloat (text : List Char) : Bool :=
  let digits := (splitSign text).2
  let (mantissa, exponent) := match digits.span fun c => c != 'e' && c != 'E' with
    | (mantissa, _ :: exponent) => (mantissa, some exponent)
    | (mantissa, []) => (mantissa, none)
  let (whole, fraction) := match cutFirst '.' mantissa with
    | some (whole, fraction) => (whole, some fraction)
    | none => (mantissa, none)
  digits == "inf".toList || digits == "nan".toList ||
    ((fraction.isSome || exponent.isSome) && (wholeDigits? whole).isSome &&
      fraction.all (fun digits => (groupedDigits? Char.isDigit digits).isSome) &&
      exponent.all isExponent)

end SyntheticRows.Toml
