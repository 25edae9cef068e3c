import SyntheticRows.Generator.DefaultValue
import SyntheticRows.Proofs.Random.Yields
/-!
# Values of temporal columns are well-formed

Dates are drawn from the days that every month has, and times of day from the hours, minutes and seconds
of a clock, so that what would stand in for one that does not exist is never needed. What is written is
read back as what was drawn, and a fraction of a second and an offset follow where the type asks for
them.
-/

namespace SyntheticRows

open Text

/-! ### Dates and times as texts -/

/-- Year, month and day of a date, in four, two and two digits. -/
inductive DateText : Date → List Char → Prop
  | numerals {year month day : List Char} (hyear : FixedDigits 4 year) (hmonth : FixedDigits 2 month)
      (hday : FixedDigits 2 day) :
      DateText
        { year := decimalValue year, month := decimalValue month, day := decimalValue day }
        (year ++ '-' :: month ++ '-' :: day)

/-- Hour, minute and second of a time of day, in two digits each. -/
inductive ClockText : ClockTime → List Char → Prop
  | numerals {hour minute second : List Char} (hhour : FixedDigits 2 hour)
      (hminute : FixedDigits 2 minute) (hsecond : FixedDigits 2 second) :
      ClockText
        { hour := decimalValue hour, minute := decimalValue minute, second := decimalValue second }
        (hour ++ ':' :: minute ++ ':' :: second)

/-- What stands behind the seconds for a declared precision: a point and as many digits as declared,
but six at most, and nothing where none are declared. -/
inductive FractionText : Option UInt32 → List Char → Prop
  | undeclared : FractionText none []
  | zero : FractionText (some 0) []
  | digits {precision : UInt32} {digits : List Char} (hprecision : precision ≠ 0)
      (hdigits : FixedDigits (min precision.toNat 6) digits) :
      FractionText (some precision) ('.' :: digits)

theorem Date.dateText_of_bounds {year month day : Nat} (hyear : year < 10000) (hmonth : month < 100)
    (hday : day < 100) :
    DateText { year, month, day } (Instant.dateText { year, month, day }) := by
  have hfits : (0 ≤ (year : Int) && (year : Int) ≤ 9999) = true := by
    simp only [Bool.and_eq_true, decide_eq_true_eq]
    omega
  have htext := DateText.numerals (fixedDigits_paddedDecimal (by decide) hyear)
    (fixedDigits_paddedDecimal (by decide) hmonth) (fixedDigits_paddedDecimal (by decide) hday)
  simp only [decimalValue_paddedDecimal] at htext
  rwa [Instant.dateText, Instant.yearText, if_pos hfits]

/-- The twenty-eighth is the last day that every month has. -/
theorem Date.daysInMonth_ge (year month : Int) : 28 ≤ Date.daysInMonth year month := by
  unfold Date.daysInMonth
  repeat' split
  all_goals decide

theorem ClockTime.clockText {time : ClockTime} (h : time.isValid = true) :
    ClockText time time.text := by
  have hbounds : (time.hour < 24 ∧ time.minute < 60) ∧ time.second < 60 := by
    simpa [ClockTime.isValid] using h
  have hlt : ∀ {n}, n < 60 → n < Nat.pow 10 2 := fun h => Nat.lt_trans h (by decide)
  have htext := ClockText.numerals
    (fixedDigits_paddedDecimal (by decide) (hlt (Nat.lt_trans hbounds.1.1 (by decide))))
    (fixedDigits_paddedDecimal (by decide) (hlt hbounds.1.2))
    (fixedDigits_paddedDecimal (by decide) (hlt hbounds.2))
  simp only [decimalValue_paddedDecimal] at htext
  exact htext

namespace Draw

/-! ### What is drawn -/

/-- A date of the calendar within the years that dates are drawn from, and how it is written. -/
structure PlausibleDate (date : Date) (text : List Char) : Prop where
  valid : date.isValid = true
  year_ge : 1970 ≤ date.year
  year_le : date.year ≤ 2030
  text : DateText date text

theorem yields_calendarDate :
    Yields calendarDate fun date => PlausibleDate date (Instant.dateText date) := by
  refine (yields_range (by decide)).bind fun year hyear => ?_
  refine (yields_range (by decide)).bind fun month hmonth => ?_
  refine (yields_range (by decide)).bind fun day hday => .pure ?_
  have hdays := Date.daysInMonth_ge year month
  refine ⟨?_, ?_, ?_, Date.dateText_of_bounds (by omega) (by omega) (by omega)⟩
  · simp only [Date.isValid, Bool.and_eq_true, decide_eq_true_eq]
    omega
  · dsimp only
    omega
  · dsimp only
    omega

theorem yields_clockTime : Yields clockTime fun time => time.isValid = true := by
  refine (yields_range (by decide)).bind fun hour hhour => ?_
  refine (yields_range (by decide)).bind fun minute hminute => ?_
  refine (yields_range (by decide)).bind fun second hsecond => .pure ?_
  simp [ClockTime.isValid, hhour.2, hminute.2, hsecond.2]

theorem yields_date : Yields date fun text => ∃ date, PlausibleDate date text := by
  refine yields_calendarDate.bind fun date hdate => .pure ⟨date, ?_⟩
  rwa [Date.orEpoch, if_pos hdate.valid]

theorem yields_timeOfDay :
    Yields timeOfDay fun text => ∃ time : ClockTime, time.isValid = true ∧ ClockText time text := by
  refine yields_clockTime.bind fun time htime => .pure ⟨time, htime, ?_⟩
  rw [ClockTime.orMidnight, if_pos htime]
  exact ClockTime.clockText htime

theorem yields_secondFraction (precision : Option UInt32) :
    Yields (secondFraction precision) (FractionText precision) := by
  unfold secondFraction
  dsimp only
  cases precision with
  | none => exact .pure .undeclared
  | some precision =>
      split
      next hzero =>
        have hprecision : precision = 0 := UInt32.toNat_inj.mp (by simpa using hzero)
        exact .pure (hprecision ▸ .zero)
      next hcount =>
        refine (yields_digits _).bind fun digits hdigits => .pure (.digits ?_ hdigits)
        rintro rfl
        exact hcount rfl

/-- A time of day of a clock, then what stands behind the seconds, then the offset where the type has
a time zone. -/
inductive ZonedTime (precision : Option UInt32) (withTimeZone : Bool) : List Char → Prop
  | parts {time : ClockTime} {clock fraction : List Char} (hvalid : time.isValid = true)
      (hclock : ClockText time clock) (hfraction : FractionText precision fraction) :
      ZonedTime precision withTimeZone
        (clock ++ fraction ++ if withTimeZone then ['+', '0', '0'] else [])

/-- A date and a time of day with one space between them. -/
inductive ZonedTimestamp (precision : Option UInt32) (withTimeZone : Bool) : List Char → Prop
  | parts {date : Date} {day time : List Char} (hdate : PlausibleDate date day)
      (htime : ZonedTime precision withTimeZone time) :
      ZonedTimestamp precision withTimeZone (day ++ ' ' :: time)

theorem ZonedTime.ne_nil {precision : Option UInt32} {withTimeZone : Bool} {text : List Char}
    (h : ZonedTime precision withTimeZone text) : text ≠ [] := by
  obtain ⟨-, hclock, -⟩ := h
  cases hclock
  simp

theorem ZonedTimestamp.ne_nil {precision : Option UInt32} {withTimeZone : Bool} {text : List Char}
    (h : ZonedTimestamp precision withTimeZone text) : text ≠ [] := by
  cases h
  simp

theorem yields_time (precision : Option UInt32) (withTimeZone : Bool) :
    Yields (defaultValue (.time precision withTimeZone)) (ZonedTime precision withTimeZone) := by
  refine yields_timeOfDay.bind fun clock ⟨time, hvalid, hclock⟩ => ?_
  refine (yields_secondFraction precision).bind fun fraction hfraction => .pure ?_
  exact .parts hvalid hclock hfraction

theorem yields_timestamp (precision : Option UInt32) (withTimeZone : Bool) :
    Yields (defaultValue (.timestamp precision withTimeZone))
      (ZonedTimestamp precision withTimeZone) := by
  have hdateTime : Yields dateTime fun text => ∃ date day time clock, PlausibleDate date day ∧
      ClockTime.isValid time = true ∧ ClockText time clock ∧ text = day ++ ' ' :: clock := by
    refine yields_date.bind fun day ⟨date, hdate⟩ => ?_
    refine yields_timeOfDay.bind fun clock ⟨time, hvalid, hclock⟩ => .pure ?_
    exact ⟨date, day, time, clock, hdate, hvalid, hclock, rfl⟩
  refine hdateTime.bind fun text ⟨date, day, time, clock, hdate, hvalid, hclock, htext⟩ => ?_
  refine (yields_secondFraction precision).bind fun fraction hfraction => .pure ?_
  have htime : ZonedTime precision withTimeZone (clock ++ fraction ++ zoneOffset withTimeZone) :=
    .parts hvalid hclock hfraction
  have hstamp := ZonedTimestamp.parts hdate htime
  rw [htext]
  simpa using hstamp

/-- **Temporal values are well-formed.** Neither a drawn date nor a drawn time of day needs what would
stand in for one that does not exist. A value of `date` is a date of the calendar in the years 1970 to
2030, a value of `time` is a time of day, and one of `timestamp` is both with a space between them. The
latter two go on with a point and as many digits as the precision says, but six at most, where it is
declared and positive, then with the offset where the type has a time zone, and end there. -/
theorem temporal_values_are_well_formed (precision : Option UInt32) (withTimeZone : Bool)
    (stream : RandomStream) :
    ((calendarDate stream).1.isValid = true ∧ (clockTime stream).1.isValid = true) ∧
    (∃ date, PlausibleDate date (defaultValue (.plain .date) stream).1) ∧
    ZonedTime precision withTimeZone (defaultValue (.time precision withTimeZone) stream).1 ∧
    ZonedTimestamp precision withTimeZone
      (defaultValue (.timestamp precision withTimeZone) stream).1 :=
  ⟨⟨(yields_calendarDate stream).valid, yields_clockTime stream⟩, yields_date stream,
    yields_time precision withTimeZone stream, yields_timestamp precision withTimeZone stream⟩

end Draw

end SyntheticRows
