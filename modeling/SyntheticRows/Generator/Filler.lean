import SyntheticRows.Lexicon.Lorem
import SyntheticRows.Random.Draw
import SyntheticRows.Text.Blank
import SyntheticRows.Text.Numeral
import SyntheticRows.Time.Clock
import SyntheticRows.Time.Instant
/-!
Draws of filler text, of digits and of points in time.
-/

namespace SyntheticRows.Draw

open Text

def loremWord : Draw String :=
  pickText Lexicon.loremWords

/-- At least `low` and fewer than `high` words, with a full stop. -/
def sentence (low high : Nat) : Draw (List Char) := do
  let count ← size low high
  let words ← times loremWord count
  pure (joinWith [' '] (words.map String.toList) ++ ['.'])

/-- Appends sentences from a source until a text has `limit` characters. The space in front of each
adds a character, so that `limit` rounds suffice. -/
def growText (source : Draw (List Char)) (limit : Nat) :
    (rounds : Nat) → List Char → Draw (List Char)
  | 0, text => pure text
  | rounds + 1, text =>
      if text.length < limit then do
        let more ← source
        growText source limit rounds (text ++ ' ' :: more)
      else pure text

/-- At most `limit` characters of the sentences of a source. -/
def textFrom (source : Draw (List Char)) (limit : Nat) : Draw (List Char) := do
  let first ← source
  let text ← growText source limit limit first
  pure (trimEnd (text.take limit))

/-- Filler text of at most `limit` characters. -/
def textUpTo (limit : Nat) : Draw (List Char) :=
  textFrom (sentence 3 10) limit

def digit : Draw Char := do
  let value ← range 0 10
  pure (Nat.digitChar value)

def digits (count : Nat) : Draw (List Char) :=
  times digit count

/-- A day of the years 1970 to 2030 that every month has. -/
def calendarDate : Draw Date := do
  let year ← range 1970 2031
  let month ← range 1 13
  let day ← range 1 29
  pure { year, month, day }

def date : Draw (List Char) := do
  let date ← calendarDate
  pure (Instant.dateText date.orEpoch)

def clockTime : Draw ClockTime := do
  let hour ← range 0 24
  let minute ← range 0 60
  let second ← range 0 60
  pure { hour, minute, second }

def timeOfDay : Draw (List Char) := do
  let time ← clockTime
  pure time.orMidnight.text

def dateTime : Draw (List Char) := do
  let date ← date
  let time ← timeOfDay
  pure (date ++ ' ' :: time)

/-- Four numbers of eight bits with points between them. -/
def addressV4 : Draw (List Char) := do
  let parts ← times byte 4
  pure (joinWith ['.'] (parts.map decimal))

end SyntheticRows.Draw
