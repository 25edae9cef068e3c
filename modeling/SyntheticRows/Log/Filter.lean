import SyntheticRows.Json.Printer
import SyntheticRows.Log.Event
import SyntheticRows.Text.LowerCase
/-!
The log of a run: which events it keeps, and its lines.
-/

namespace SyntheticRows

namespace LogLevel

def all : List LogLevel :=
  [error, warn, info, debug, trace]

/-- Severe levels have a low rank. -/
def rank : LogLevel → Nat
  | error => 1
  | warn => 2
  | info => 3
  | debug => 4
  | trace => 5

end LogLevel

structure LogFilter where
  /-- The least severe level that is kept, if any is. -/
  threshold : Option LogLevel
  deriving DecidableEq, Repr

namespace LogFilter

def admits (filter : LogFilter) (event : Event) : Bool :=
  match filter.threshold with
  | none => false
  | some least => event.level.rank ≤ least.rank

def standard : LogFilter :=
  { threshold := some .info }

/-- The filters by their names and numbers. -/
def choices : List (LogFilter × String × Nat) :=
  ({ threshold := none }, "OFF", 0) ::
    LogLevel.all.map fun level => ({ threshold := some level }, level.name, level.rank)

def sameLetters (left right : String) : Bool :=
  Text.lowerAscii left.toList == Text.lowerAscii right.toList

/-- The filter of a name in any case, or of a number. -/
def ofName? (text : String) : Option LogFilter :=
  (choices.find? fun (_, name, number) =>
    sameLetters name text || toString number == text).map (·.1)

/-- A setting that is not understood counts as none; an empty one keeps errors only. -/
def ofSetting : Option String → LogFilter
  | none => standard
  | some text => if text.isEmpty then { threshold := some .error } else (ofName? text).getD standard

/-- The lines of a log: a JSON document for each event that is kept. -/
def lines (filter : LogFilter) (events : List Event) : String :=
  String.join ((events.filter filter.admits).map fun event => event.toDocument.compact ++ "\n")

end LogFilter

end SyntheticRows
