import SyntheticRows.Text.Blank
/-!
Decimal and hexadecimal numerals with ASCII digits.
-/

namespace SyntheticRows.Text

def digitValue (c : Char) : Nat :=
  c.toNat - '0'.toNat

def decimalValue (digits : List Char) : Nat :=
  digits.foldl (fun value c => 10 * value + digitValue c) 0

/-- One or more digits and nothing else. -/
def isNumeral (text : List Char) : Bool :=
  !text.isEmpty && text.all Char.isDigit

def natural? (text : List Char) : Option Nat :=
  if isNumeral text then some (decimalValue text) else none

/-- A natural number that may carry a plus sign. -/
def unsigned? : List Char → Option Nat
  | '+' :: rest => natural? rest
  | text => natural? text

/-- An integer that may carry a sign. -/
def signed? : List Char → Option Int
  | '-' :: rest => (natural? rest).map fun n => -(n : Int)
  | text => (unsigned? text).map Int.ofNat

def unsigned32? (text : List Char) : Option UInt32 := do
  let n ← unsigned? text
  if n < UInt32.size then some n.toUInt32 else none

def unsigned64? (text : List Char) : Option UInt64 := do
  let n ← unsigned? text
  if n < UInt64.size then some n.toUInt64 else none

def isWord64 (value : Int) : Bool :=
  Int64.minValue.toInt ≤ value && value ≤ Int64.maxValue.toInt

def signed64? (text : List Char) : Option Int := do
  let value ← signed? text
  if isWord64 value then some value else none

def hexDigitValue? (c : Char) : Option Nat :=
  if c.isDigit then some (c.toNat - '0'.toNat)
  else if 'a' ≤ c && c ≤ 'f' then some (c.toNat - 'a'.toNat + 10)
  else if 'A' ≤ c && c ≤ 'F' then some (c.toNat - 'A'.toNat + 10)
  else none

def hexValue? (digits : List Char) : Option Nat :=
  digits.foldlM (fun value c => (hexDigitValue? c).map (16 * value + ·)) 0

/-- The decimal digits of a number. -/
def decimal (n : Nat) : List Char :=
  Nat.toDigits 10 n

/-- The decimal digits of a number, with zeros in front up to a width. -/
def paddedDecimal (width n : Nat) : List Char :=
  List.replicate (width - (decimal n).length) '0' ++ decimal n

def lowerHex (n : Nat) : List Char :=
  Nat.toDigits 16 n

def upperHex (n : Nat) : List Char :=
  (lowerHex n).map Char.toUpper

def paddedHex (width n : Nat) : List Char :=
  List.replicate (width - (lowerHex n).length) '0' ++ lowerHex n

end SyntheticRows.Text
