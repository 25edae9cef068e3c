import SyntheticRows.Generator.Filler
import SyntheticRows.Lexicon.Contact
import SyntheticRows.Lexicon.Listing
import SyntheticRows.Lexicon.Person
import SyntheticRows.Lexicon.Place
import SyntheticRows.Random.Fraction
import SyntheticRows.Text.LowerCase
/-!
The generators that rules call by name and that take no arguments.
-/

namespace SyntheticRows

inductive CatalogEntry where
  | firstName | name | lastName | email | username
  | currency | cardNumber | cardType
  | country | city | address | state | postalCode
  | latitude | lat | longitude | lon
  | phone
  | date | dayOfWeek | month | year | time | dateTime | timestamp
  | bloodType | bloodRhFactor | bloodGroup
  | paragraph
  | ipv4 | ipv6 | mac | url | userAgent
  deriving DecidableEq, Repr

namespace CatalogEntry

def all : List CatalogEntry :=
  [firstName, name, lastName, email, username, currency, cardNumber, cardType, country, city,
    address, state, postalCode, latitude, lat, longitude, lon, phone, date, dayOfWeek, month, year,
    time, dateTime, timestamp, bloodType, bloodRhFactor, bloodGroup, paragraph, ipv4, ipv6, mac,
    url, userAgent]

def spelling : CatalogEntry → String
  | firstName => "firstname"
  | name => "name"
  | lastName => "lastname"
  | email => "email"
  | username => "username"
  | currency => "currency"
  | cardNumber => "ccnumber"
  | cardType => "cctype"
  | country => "country"
  | city => "city"
  | address => "address"
  | state => "state"
  | postalCode => "postalcode"
  | latitude => "latitude"
  | lat => "lat"
  | longitude => "longitude"
  | lon => "lon"
  | phone => "phone"
  | date => "date"
  | dayOfWeek => "dayofweek"
  | month => "month"
  | year => "year"
  | time => "time"
  | dateTime => "datetime"
  | timestamp => "timestamp"
  | bloodType => "bloodtype"
  | bloodRhFactor => "bloodrhfactor"
  | bloodGroup => "bloodgroup"
  | paragraph => "paragraph"
  | ipv4 => "ipv4"
  | ipv6 => "ipv6"
  | mac => "mac"
  | url => "url"
  | userAgent => "useragent"

def ofSpelling? (text : String) : Option CatalogEntry :=
  all.find? fun entry => entry.spelling == text

end CatalogEntry

namespace Draw

open Text Lexicon

def chars (draw : Draw String) : Draw (List Char) :=
  String.toList <$> draw

def firstName : Draw (List Char) :=
  chars (pickText firstNames)

def lastName : Draw (List Char) :=
  chars (pickText lastNames)

def smallFirstName : Draw (List Char) :=
  lowerAscii <$> firstName

def email : Draw (List Char) := do
  let name ← smallFirstName
  let domain ← chars (pickText safeEmailDomains)
  pure (name ++ "@example.".toList ++ domain)

/-- A first name, alone or with a word or a number. -/
def username : Draw (List Char) := do
  let form ← byte
  if form = 0 then smallFirstName
  else if form ≤ 2 then do
    let word ← chars loremWord
    let name ← smallFirstName
    pure (word ++ '.' :: name)
  else if form ≤ 4 then do
    let name ← smallFirstName
    let number ← byte
    pure (name ++ decimal number)
  else do
    let name ← smallFirstName
    let word ← chars loremWord
    pure (name ++ '_' :: word)

/-- The start of a card number: its first digit, the choices for the second, and how many digits
stand before the check digit. -/
structure CardFormat where
  first : Char
  seconds : List Char
  lengths : List Nat

def cardFormats : List CardFormat :=
  [⟨'3', ['4', '7'], [13]⟩, ⟨'4', [], [12, 15]⟩, ⟨'5', ['1', '2', '3', '4', '5'], [14]⟩]

/-- What a digit adds to the check sum; digits at even positions are doubled. -/
def checkTerm (position : Nat) (digit : Char) : Nat :=
  let value := digitValue digit
  if position % 2 = 0 then (if value > 4 then 2 * value - 9 else 2 * value) else value

def checkDigit (digits : List Char) : Char :=
  Nat.digitChar ((100000 - (digits.mapIdx checkTerm).foldl (· + ·) 0) % 10)

def cardNumber : Draw (List Char) := do
  let format ← pick ⟨'3', [], []⟩ cardFormats
  let length ← pick 0 format.lengths
  let second ← if format.seconds.isEmpty then pure [] else (fun c => [c]) <$> pick '0' format.seconds
  let middle ← digits (length - 1)
  let body := format.first :: second ++ middle
  pure (body ++ [checkDigit body])

def city : Draw (List Char) := do
  let form ← range 0 5
  if form = 0 then do
    let start ← chars (pickText cityStarts)
    let first ← firstName
    let last ← lastName
    let ending ← chars (pickText cityEndings)
    pure (joinWith [' '] [start, first, last, ending])
  else do
    let name ← if form = 1 then firstName else lastName
    let ending ← chars (pickText cityEndings)
    pure (name ++ ' ' :: ending)

/-- Replaces the marks of a format by digits. -/
def numbered : List Char → Draw (List Char)
  | [] => pure []
  | c :: format => do
      let first ←
        if c = '^' then Nat.digitChar <$> range 1 10
        else if c = '#' then digit
        else pure c
      let rest ← numbered format
      pure (first :: rest)

def numberedFrom (formats : List String) : Draw (List Char) := do
  let format ← pickText formats
  numbered format.toList

def address : Draw (List Char) := do
  let number ← numberedFrom buildingNumberFormats
  let isFirst ← coin
  let name ← if isFirst then firstName else lastName
  let ending ← chars (pickText streetEndings)
  pure (joinWith [' '] [number, name, ending])

def paragraph : Draw (List Char) := do
  let count ← size 3 6
  joinWith ['\n'] <$> times (sentence 4 10) count

def addressV6 : Draw (List Char) := do
  let parts ← times half 8
  pure (joinWith [':'] (parts.map upperHex))

def upperHardwareAddress : Draw (List Char) := do
  let bytes ← times byte 6
  pure (joinWith [':'] (bytes.map fun byte => (paddedHex 2 byte).map Char.toUpper))

def url : Draw (List Char) := do
  let word ← chars loremWord
  let ending ← chars (pickText domainEndings)
  pure ("https://www.".toList ++ word ++ '.' :: ending ++ ['/'])

def degrees (limit : Int) : Draw (List Char) := do
  let value ← doubleBetween (-limit) limit
  pure (value.toFixed 6).toList

def catalogValue : CatalogEntry → Draw (List Char)
  | .firstName | .name => firstName
  | .lastName => lastName
  | .email => email
  | .username => username
  | .currency => chars (pickText currencyCodes)
  | .cardNumber => cardNumber
  | .cardType => chars (pickText cardTypes)
  | .country => chars (pickText countries)
  | .city => city
  | .address => address
  | .state => chars (pickText states)
  | .postalCode => numberedFrom postalCodeFormats
  | .latitude | .lat => degrees 90
  | .longitude | .lon => degrees 180
  | .phone => numberedFrom phoneFormats
  | .date => date
  | .dayOfWeek => chars (pickText weekdays)
  | .month => chars (pickText months)
  | .year => decimal <$> range 1970 2031
  | .time => timeOfDay
  | .dateTime | .timestamp => dateTime
  | .bloodType => chars (pickText bloodTypes)
  | .bloodRhFactor => chars (pickText bloodRhFactors)
  | .bloodGroup => chars (pickText bloodGroups)
  | .paragraph => paragraph
  | .ipv4 => addressV4
  | .ipv6 => addressV6
  | .mac => upperHardwareAddress
  | .url => url
  | .userAgent => chars (pickText userAgents)

end Draw

end SyntheticRows
