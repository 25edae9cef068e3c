import SyntheticRows.Text.Numeral
/-!
Times of day to the second, written as a clock of twenty-four hours shows them.
-/

namespace SyntheticRows

structure ClockTime where
  hour : Nat
  minute : Nat
  second : Nat
  deriving DecidableEq, Repr

namespace ClockTime

def isValid (time : ClockTime) : Bool :=
  time.hour < 24 && time.minute < 60 && time.second < 60

def midnight : ClockTime :=
  { hour := 0, minute := 0, second := 0 }

/-- Midnight stands in for a time that no clock shows. -/
def orMidnight (time : ClockTime) : ClockTime :=
  if time.isValid then time else midnight

def text (time : ClockTime) : List Char :=
  Text.paddedDecimal 2 time.hour ++ ':' :: Text.paddedDecimal 2 time.minute ++
    ':' :: Text.paddedDecimal 2 time.second

end ClockTime

end SyntheticRows
