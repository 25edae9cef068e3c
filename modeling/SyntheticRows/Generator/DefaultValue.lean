import SyntheticRows.ColumnType.Basic
import SyntheticRows.Generator.Filler
import SyntheticRows.Json.Printer
import SyntheticRows.Lexicon.Listing
import SyntheticRows.Random.Fraction
/-!
The values that a column gets by its type alone, in the form that the database reads. No value is
empty.
-/

namespace SyntheticRows.Draw

open Text

def naturalText (draw : Draw Nat) : Draw (List Char) :=
  decimal <$> draw

/-- How many digits stand after the point of a `numeric` value. -/
def numericScale (precision scale : Option UInt32) : Nat :=
  match scale with
  | some scale => scale.toNat
  | none => if precision.isSome then 0 else 2

/-- How many digits the whole part of a `numeric` value may have: at most three. -/
def numericWholeDigits (precision : Option UInt32) (scale : Nat) : Nat :=
  match precision with
  | some precision => min (precision.toNat - scale) 3
  | none => 3

/-- How many digits behind the point must be zero, where the scale exceeds the precision. -/
def numericLeadingZeros (precision : Option UInt32) (scale : Nat) : Nat :=
  match precision with
  | some precision => scale - precision.toNat
  | none => 0

def numericValue (precision scale : Option UInt32) : Draw (List Char) := do
  let places := numericScale precision scale
  let wholeDigits := numericWholeDigits precision places
  let whole ← if wholeDigits = 0 then pure 0 else range 0 (Nat.pow 10 wholeDigits)
  if places = 0 then pure (decimal whole)
  else
    let zeros := numericLeadingZeros precision places
    let fraction ← digits (places - zeros)
    pure (decimal whole ++ '.' :: List.replicate zeros '0' ++ fraction)

def letter : Draw Char := do
  let position ← range 0 26
  pure (Char.ofNat ('a'.toNat + position))

def bit : Draw Char := do
  let one ← bool
  pure (if one then '1' else '0')

/-- The length that a type declares; a missing length and zero count otherwise. -/
def declaredLength (missing : Nat) (length : Option UInt32) : Nat :=
  max ((length.map UInt32.toNat).getD missing) 1

/-- The digits behind the seconds, at most six, with the point before them. -/
def secondFraction (precision : Option UInt32) : Draw (List Char) := do
  let count := min ((precision.map UInt32.toNat).getD 0) 6
  if count = 0 then pure []
  else
    let fraction ← digits count
    pure ('.' :: fraction)

def zoneOffset (withTimeZone : Bool) : List Char :=
  if withTimeZone then "+00".toList else []

def coordinate : Draw (List Char) :=
  naturalText (range 0 100)

def point : Draw (List Char) := do
  let x ← coordinate
  let y ← coordinate
  pure ('(' :: x ++ ',' :: y ++ [')'])

def points (count : Nat) : Draw (List Char) :=
  joinWith [','] <$> times point count

def enclosed (opening closing : Char) (draw : Draw (List Char)) : Draw (List Char) := do
  let text ← draw
  pure (opening :: text ++ [closing])

def hexBytes (count : Nat) : Draw (List (List Char)) := do
  let bytes ← times byte count
  pure (bytes.map (paddedHex 2))

def hardwareAddress (count : Nat) : Draw (List Char) :=
  joinWith [':'] <$> hexBytes count

/-- Sixteen bytes that carry the version and variant marks of a random identifier. -/
def uuid : Draw (List Char) := do
  let bytes ← times byte 16
  let marked := bytes.mapIdx fun position byte =>
    if position = 6 then 0x40 + byte % 0x10
    else if position = 8 then 0x80 + byte % 0x40
    else byte
  let text := marked.flatMap (paddedHex 2)
  pure (joinWith ['-'] [text.take 8, (text.drop 8).take 4, (text.drop 12).take 4,
    (text.drop 16).take 4, text.drop 20])

def plainValue : PlainType → Draw (List Char)
  | .smallInt => naturalText (range 0 100)
  | .integer => naturalText (range 0 1000)
  | .bigInt => naturalText (below64 (UInt64.size / 2))
  | .smallSerial => naturalText (range 1 (UInt16.size / 2))
  | .serial => naturalText (range 1 (UInt32.size / 2))
  | .bigSerial => naturalText ((1 + ·) <$> below64 (UInt64.size / 2 - 1))
  | .real => do return ((← singleUpTo 1000).toFixed 4).toList
  | .double => do return ((← doubleUpTo 1000).toFixed 6).toList
  | .money => do return ((← doubleUpTo 1000).toFixed 2).toList
  | .text => sentence 3 10
  | .boolean => do return (if ← bool then "true" else "false").toList
  | .date => date
  | .bytea => do return '\\' :: 'x' :: (← hexBytes 8).flatten
  | .point => point
  | .line => do
      let a ← naturalText (range 1 100)
      let b ← coordinate
      let c ← coordinate
      pure ('\x7b' :: a ++ ',' :: b ++ ',' :: c ++ ['\x7d'])
  | .lineSegment => enclosed '[' ']' (points 2)
  | .box => points 2
  | .path => enclosed '(' ')' (points 2)
  | .polygon => enclosed '(' ')' (points 3)
  | .circle => enclosed '<' '>' do
      let center ← point
      let radius ← naturalText (range 1 100)
      pure (center ++ ',' :: radius)
  | .inet => addressV4
  | .cidr => do
      let parts ← times byte 3
      pure (joinWith ['.'] (parts.map decimal) ++ ".0/24".toList)
  | .macAddr => hardwareAddress 6
  | .macAddr8 => hardwareAddress 8
  | .json | .jsonb => do
      let id ← range 1 10000
      let label ← loremWord
      pure (Json.compactText
        (.object [("id", Json.natural id), ("label", .string label)]))
  | .xml => do return "<item>".toList ++ (← loremWord).toList ++ "</item>".toList
  | .uuid => uuid
  | .tsVector => do return '\x27' :: (← loremWord).toList ++ "':1".toList
  | .tsQuery => do return (← loremWord).toList
  | .pgLsn => do
      let high ← range 0 16
      let low ← word
      pure (upperHex high ++ '/' :: upperHex low.toNat)
  | .pgSnapshot => do
      let oldest ← range 1 1000
      let span ← range 0 100
      pure (decimal oldest ++ ':' :: decimal (oldest + span) ++ [':'])

def defaultValue : ColumnType → Draw (List Char)
  | .plain type => plainValue type
  | .numeric precision scale => numericValue precision scale
  | .char length => times letter (declaredLength 1 length)
  | .varChar maxLength => textUpTo (declaredLength 255 maxLength)
  | .bit length => times bit (declaredLength 1 length)
  | .varBit maxLength => times bit (declaredLength 8 maxLength)
  | .time precision withTimeZone => do
      let time ← timeOfDay
      let fraction ← secondFraction precision
      pure (time ++ fraction ++ zoneOffset withTimeZone)
  | .timestamp precision withTimeZone => do
      let dateTime ← dateTime
      let fraction ← secondFraction precision
      pure (dateTime ++ fraction ++ zoneOffset withTimeZone)
  | .interval _ => String.toList <$> pickText Lexicon.intervals

end SyntheticRows.Draw
