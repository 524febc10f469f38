import FilePlacement.Text.Numeral

/-!
# Calendar

The Gregorian calendar, extended to all years, over days counted from 1970-01-01. Days are
computed in cycles of 400 years that begin in March, so that the leap day is the last of its year.
-/

namespace FilePlacement.Time

/-- A date of the calendar. -/
structure Date where
  year : Int
  month : Nat
  day : Nat
deriving DecidableEq, Repr

/-- A time of the day. Second 60 is a leap second. -/
structure Clock where
  hour : Nat
  minute : Nat
  second : Nat
deriving DecidableEq, Repr

def isLeapYear (y : Int) : Bool := y % 4 = 0 && (y % 100 ≠ 0 || y % 400 = 0)

def daysInMonth (y : Int) (m : Nat) : Nat :=
  match m with
  | 2 => if isLeapYear y then 29 else 28
  | 4 | 6 | 9 | 11 => 30
  | _ => 31

/-- The years whose dates can be computed with. -/
def minYear : Int := -262143
def maxYear : Int := 262142

namespace Date

def IsValid (d : Date) : Prop :=
  minYear ≤ d.year ∧ d.year ≤ maxYear ∧ 1 ≤ d.month ∧ d.month ≤ 12 ∧ 1 ≤ d.day ∧ d.day ≤ daysInMonth d.year d.month

instance (d : Date) : Decidable d.IsValid := by unfold IsValid; infer_instance

/-- Days since 1970-01-01. -/
def toDays (d : Date) : Int :=
  let y : Int := if d.month ≤ 2 then d.year - 1 else d.year
  let era : Int := y / 400
  let yearOfEra : Int := y % 400
  let monthFromMarch : Nat := if d.month > 2 then d.month - 3 else d.month + 9
  let dayOfYear : Int := (153 * monthFromMarch + 2) / 5 + d.day - 1
  let dayOfEra : Int := yearOfEra * 365 + yearOfEra / 4 - yearOfEra / 100 + dayOfYear
  era * 146097 + dayOfEra - 719468

/-- The date of a day. -/
def ofDays (n : Int) : Date :=
  let z : Int := n + 719468
  let era : Int := z / 146097
  let dayOfEra : Nat := (z % 146097).toNat
  let yearOfEra : Nat := (dayOfEra - dayOfEra / 1460 + dayOfEra / 36524 - dayOfEra / 146096) / 365
  let dayOfYear : Nat := dayOfEra - (365 * yearOfEra + yearOfEra / 4 - yearOfEra / 100)
  let monthFromMarch : Nat := (5 * dayOfYear + 2) / 153
  let day : Nat := dayOfYear - (153 * monthFromMarch + 2) / 5 + 1
  let month : Nat := if monthFromMarch < 10 then monthFromMarch + 3 else monthFromMarch - 9
  ⟨yearOfEra + era * 400 + (if month ≤ 2 then 1 else 0), month, day⟩

/-- The day of the week, Monday being 0. -/
def weekday (d : Date) : Nat := ((d.toDays + 3) % 7).toNat

end Date

/-- A moment in whole seconds since 1970-01-01 in UTC. -/
structure Instant where
  seconds : Int
  /-- The leap second that follows the second. -/
  leap : Bool
deriving DecidableEq, Repr

namespace Instant

def secondsPerDay : Int := 86400

def ofUnix (seconds : Int) : Instant := ⟨seconds, false⟩

/-- The moment of a date and time in UTC. -/
def ofDateClock (d : Date) (c : Clock) : Instant :=
  let second := if c.second = 60 then 59 else c.second
  ⟨d.toDays * secondsPerDay + (c.hour * 3600 + c.minute * 60 + second : Nat), c.second = 60⟩

def date (t : Instant) : Date := Date.ofDays (t.seconds / secondsPerDay)

def clock (t : Instant) : Clock :=
  let s := (t.seconds % secondsPerDay).toNat
  ⟨s / 3600, s / 60 % 60, s % 60 + (if t.leap then 1 else 0)⟩

/-- The moment so many seconds later. -/
def plus (t : Instant) (seconds : Int) : Instant := { t with seconds := t.seconds + seconds }

/-- A year of four digits, or with a sign outside of those. -/
def yearText (y : Int) : String :=
  if y < 0 then "-" ++ Text.decimalWide 4 y.natAbs
  else if y > 9999 then "+" ++ Text.decimal y.natAbs
  else Text.decimalWide 4 y.natAbs

/-- Date and time as RFC 3339 has them, in UTC. -/
def rfc3339 (t : Instant) : String :=
  let d := t.date
  let c := t.clock
  yearText d.year ++ "-" ++ Text.decimalWide 2 d.month ++ "-" ++ Text.decimalWide 2 d.day ++ "T"
    ++ Text.decimalWide 2 c.hour ++ ":" ++ Text.decimalWide 2 c.minute ++ ":" ++ Text.decimalWide 2 c.second ++ "Z"

end Instant

end FilePlacement.Time
