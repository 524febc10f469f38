import FilePlacement.Proofs.CivilCalendar
import FilePlacement.Proofs.Numerals
import FilePlacement.Time.HttpDate
import Mathlib.Data.List.TakeWhile

/-!
# Timestamps

The date and the clock of a moment lead back to the moment (`Instant.ofDateClock_date_clock`). So a timestamp of
RFC 3339 says which moment it is of: `Instant.ofTimestamp?` reads it back (`Instant.ofTimestamp?_rfc3339`), and moments
with the same timestamp are the same (`Instant.eq_of_rfc3339_eq`).
-/

namespace FilePlacement.Time

/-! ## Fields of fixed width -/

theorem isDigit_of_isDigitOf {c : Char} (hc : Text.isDigitOf 10 c = true) : HttpDate.isDigit c = true := by
  simpa [HttpDate.isDigit] using Text.isDigitOf_ten_iff.1 hc

section
variable {width n : Nat} (hwidth : 0 < width) (hn : n < 10 ^ width) (rest : List Char)

theorem isDigit_of_mem_decimalWide {c : Char} (hc : c ∈ (Text.decimalWide width n).toList) :
    HttpDate.isDigit c = true := by
  rw [Text.decimalWide, String.toList_ofList] at hc
  exact isDigit_of_isDigitOf (Text.isDigitOf_of_mem_zeroPadded (by decide) (by decide) hc)

theorem valueOf_decimalWide : Text.valueOf 10 (Text.decimalWide width n).toList = n := by
  rw [Text.decimalWide, String.toList_ofList]
  exact Text.valueOf_zeroPadded (by decide) (by decide) width n

include hwidth hn

theorem length_decimalWide : (Text.decimalWide width n).toList.length = width := by
  rw [Text.decimalWide, String.toList_ofList]
  exact Text.length_zeroPadded (by decide) hwidth hn

theorem readDigits_decimalWide :
    HttpDate.readDigits width ((Text.decimalWide width n).toList ++ rest) = some (n, rest) := by
  have hlength := length_decimalWide hwidth hn
  have htake : ((Text.decimalWide width n).toList ++ rest).take width = (Text.decimalWide width n).toList :=
    List.take_left' hlength
  have hdigits : (Text.decimalWide width n).toList.takeWhile HttpDate.isDigit = (Text.decimalWide width n).toList :=
    List.takeWhile_eq_self_iff.2 fun c hc => isDigit_of_mem_decimalWide hc
  have hne : (Text.decimalWide width n).toList.isEmpty = false := by
    rw [List.isEmpty_eq_false_iff, ← List.length_pos_iff, hlength]
    exact hwidth
  unfold HttpDate.readDigits
  dsimp only
  rw [htake, hdigits, hne, valueOf_decimalWide, List.drop_left]
  rfl

end

/-! ## Moments by date and clock -/

namespace Instant

/-- A leap second comes at the end of a minute only. -/
def IsRegular (t : Instant) : Prop := t.leap = true → t.seconds % 60 = 59

theorem clock_lt (t : Instant) : t.clock.hour < 24 ∧ t.clock.minute < 60 ∧ t.clock.second ≤ 60 := by
  unfold clock secondsPerDay
  dsimp only
  refine ⟨by omega, by omega, ?_⟩
  split <;> omega

/-- A moment is found again by its date and its clock. -/
theorem ofDateClock_date_clock {t : Instant} (ht : t.IsRegular) : ofDateClock t.date t.clock = t := by
  obtain ⟨seconds, leap⟩ := t
  unfold ofDateClock date clock secondsPerDay
  dsimp only
  rw [Date.toDays_ofDays]
  cases leap with
  | false =>
    have hsecond : (seconds % 86400).toNat % 60 ≠ 60 := by omega
    simp only [Bool.false_eq_true, if_false, Nat.add_zero, hsecond, decide_false, mk.injEq, and_true]
    omega
  | true =>
    have hend : seconds % 60 = 59 := ht rfl
    have hsecond : (seconds % 86400).toNat % 60 + 1 = 60 := by omega
    simp only [if_true, hsecond, decide_true, mk.injEq, and_true]
    omega

end Instant

/-! ## Reading timestamps -/

/-- Reads a number of just so many digits. -/
def readExactly (width : Nat) : HttpDate.Reader Nat := fun cs =>
  if (cs.take width).length = width ∧ (cs.take width).all HttpDate.isDigit then
    some (Text.valueOf 10 (cs.take width), cs.drop width)
  else none

theorem readExactly_decimalWide {width n : Nat} (hwidth : 0 < width) (hn : n < 10 ^ width) (rest : List Char) :
    readExactly width ((Text.decimalWide width n).toList ++ rest) = some (n, rest) := by
  have hlength := length_decimalWide hwidth hn
  have htake : ((Text.decimalWide width n).toList ++ rest).take width = (Text.decimalWide width n).toList :=
    List.take_left' hlength
  have hdigits : (Text.decimalWide width n).toList.all HttpDate.isDigit = true :=
    List.all_eq_true.2 fun c hc => isDigit_of_mem_decimalWide hc
  unfold readExactly
  rw [htake, if_pos ⟨hlength, hdigits⟩, valueOf_decimalWide, List.drop_left' hlength]

theorem readChar_cons (c : Char) (rest : List Char) : HttpDate.readChar c (c :: rest) = some ((), rest) := if_pos rfl

namespace Instant

/-- What a timestamp has behind the year. -/
def withinYear (t : Instant) : List Char :=
  '-' :: (Text.decimalWide 2 t.date.month).toList ++ '-' :: (Text.decimalWide 2 t.date.day).toList ++
    'T' :: (Text.decimalWide 2 t.clock.hour).toList ++ ':' :: (Text.decimalWide 2 t.clock.minute).toList ++
      ':' :: (Text.decimalWide 2 t.clock.second).toList ++ ['Z']

/-- Reads month, day and time, with nothing behind them. -/
def readWithinYear (cs : List Char) : Option (Nat × Nat × Clock) := do
  let (_, cs) ← HttpDate.readChar '-' cs
  let (month, cs) ← readExactly 2 cs
  let (_, cs) ← HttpDate.readChar '-' cs
  let (day, cs) ← readExactly 2 cs
  let (_, cs) ← HttpDate.readChar 'T' cs
  let (hour, cs) ← readExactly 2 cs
  let (_, cs) ← HttpDate.readChar ':' cs
  let (minute, cs) ← readExactly 2 cs
  let (_, cs) ← HttpDate.readChar ':' cs
  let (second, cs) ← readExactly 2 cs
  let (_, cs) ← HttpDate.readChar 'Z' cs
  if cs = [] then some (month, day, ⟨hour, minute, second⟩) else none

/-- Reads a timestamp of a whole second in UTC, as RFC 3339 has it: the year has four digits. -/
def ofTimestamp? (cs : List Char) : Option Instant := do
  let (year, cs) ← readExactly 4 cs
  let (month, day, clock) ← readWithinYear cs
  let date : Date := ⟨year, month, day⟩
  if date.IsValid ∧ clock.hour ≤ 23 ∧ clock.minute ≤ 59 ∧ clock.second ≤ 60 then some (ofDateClock date clock)
  else none

theorem isValid_date {t : Instant} (hlow : minYear ≤ t.date.year) (hhigh : t.date.year ≤ maxYear) : t.date.IsValid :=
  have hcivil := Date.isCivil_ofDays (t.seconds / secondsPerDay)
  ⟨hlow, hhigh, hcivil.month_pos, hcivil.month_le, hcivil.day_pos, hcivil.day_le⟩

/-- Whatever stands behind the year has two digits. -/
theorem fields_lt (t : Instant) : t.date.month < 100 ∧ t.date.day < 100 ∧
    t.clock.hour < 100 ∧ t.clock.minute < 100 ∧ t.clock.second < 100 := by
  have hcivil := Date.isCivil_ofDays (t.seconds / secondsPerDay)
  have hmonth : t.date.month ≤ 12 := hcivil.month_le
  have hday : t.date.day ≤ 31 := hcivil.day_le.trans (Date.daysInMonth_le _ _)
  obtain ⟨hhour, hminute, hsecond⟩ := t.clock_lt
  omega

theorem toList_rfc3339 (t : Instant) : t.rfc3339.toList = (yearText t.date.year).toList ++ t.withinYear := by
  unfold rfc3339 withinYear
  simp

theorem readWithinYear_withinYear (t : Instant) :
    readWithinYear t.withinYear = some (t.date.month, t.date.day, t.clock) := by
  obtain ⟨hmonth, hday, hhour, hminute, hsecond⟩ := t.fields_lt
  have htwo : ∀ n < 100, ∀ rest, readExactly 2 ((Text.decimalWide 2 n).toList ++ rest) = some (n, rest) :=
    fun n hn rest => readExactly_decimalWide (by decide) hn rest
  unfold readWithinYear withinYear
  simp only [List.append_assoc, List.cons_append, htwo _ hmonth, htwo _ hday, htwo _ hhour, htwo _ hminute,
    htwo _ hsecond, readChar_cons, Option.bind_eq_bind, Option.bind_some, if_true]

theorem length_withinYear (t : Instant) : t.withinYear.length = 16 := by
  obtain ⟨hmonth, hday, hhour, hminute, hsecond⟩ := t.fields_lt
  have htwo : ∀ n < 100, (Text.decimalWide 2 n).toList.length = 2 := fun n hn => length_decimalWide (by decide) hn
  unfold withinYear
  simp only [List.length_append, List.length_cons, List.length_nil, htwo _ hmonth, htwo _ hday, htwo _ hhour,
    htwo _ hminute, htwo _ hsecond]

theorem rfc3339_ne_empty (t : Instant) : t.rfc3339 ≠ "" := by
  intro hempty
  have hlength := congrArg (·.toList.length) hempty
  rw [toList_rfc3339, List.length_append, length_withinYear, String.toList_empty, List.length_nil] at hlength
  omega

/-- A timestamp is of the moment that it has been made for. -/
theorem ofTimestamp?_rfc3339 {t : Instant} (ht : t.IsRegular) (hlow : 0 ≤ t.date.year) (hhigh : t.date.year ≤ 9999) :
    ofTimestamp? t.rfc3339.toList = some t := by
  have hdate := isValid_date (t := t) (by unfold minYear; omega) (by unfold maxYear; omega)
  obtain ⟨hhour, hminute, hsecond⟩ := t.clock_lt
  have hyear : yearText t.date.year = Text.decimalWide 4 t.date.year.toNat := by
    unfold yearText
    rw [if_neg (by omega), if_neg (by omega), show t.date.year.natAbs = t.date.year.toNat by omega]
  have hfour : ∀ rest, readExactly 4 ((Text.decimalWide 4 t.date.year.toNat).toList ++ rest) =
      some (t.date.year.toNat, rest) := readExactly_decimalWide (by decide) (by omega)
  have hnat : ((t.date.year.toNat : Nat) : Int) = t.date.year := by omega
  rw [toList_rfc3339, hyear]
  unfold ofTimestamp?
  simp only [hfour, readWithinYear_withinYear, Option.bind_eq_bind, Option.bind_some, hnat]
  rw [if_pos ⟨hdate, by omega, by omega, hsecond⟩]
  exact congrArg some (ofDateClock_date_clock ht)

/-- A year is found again, also one with a sign. -/
theorem ofSigned?_yearText (year : Int) : Text.ofSigned? (yearText year).toList = some year := by
  have hread : ∀ width, Text.ofDigits? 10 (Text.zeroPadded width (Text.digits 10 year.natAbs)) = some year.natAbs :=
    fun width => Text.ofDigits?_zeroPadded (by decide) (by decide) width year.natAbs
  have hminus : "-".toList = ['-'] := by decide
  have hplus : "+".toList = ['+'] := by decide
  unfold yearText
  split
  · simp only [String.toList_append, hminus, Text.decimalWide, String.toList_ofList, List.singleton_append,
      Text.ofSigned?_minus, hread, Option.map_some, Option.some.injEq]
    omega
  · split
    · simp only [String.toList_append, hplus, Text.decimal, String.toList_ofList, List.singleton_append,
        Text.ofSigned?_plus]
      rw [show Text.digits 10 year.natAbs = Text.zeroPadded 0 (Text.digits 10 year.natAbs) by simp [Text.zeroPadded]]
      rw [hread]
      simp only [Option.map_some, Option.some.injEq, Int.ofNat_eq_natCast]
      omega
    · rw [Text.decimalWide, String.toList_ofList, Text.ofSigned?_zeroPadded]
      simp only [Option.some.injEq]
      omega

/-- Moments with the same timestamp are the same, of whatever year. -/
theorem eq_of_rfc3339_eq {t u : Instant} (ht : t.IsRegular) (hu : u.IsRegular) (h : t.rfc3339 = u.rfc3339) : t = u := by
  have hlist := congrArg String.toList h
  rw [toList_rfc3339, toList_rfc3339] at hlist
  obtain ⟨hyears, hrest⟩ := List.append_inj' hlist ((length_withinYear t).trans (length_withinYear u).symm)
  have hyear := ofSigned?_yearText t.date.year
  rw [hyears, ofSigned?_yearText] at hyear
  have hfields := readWithinYear_withinYear t
  rw [hrest, readWithinYear_withinYear] at hfields
  simp only [Option.some.injEq, Prod.mk.injEq] at hyear hfields
  obtain ⟨hmonth, hday, hclock⟩ := hfields
  have hdate : u.date = t.date := by
    have hu' : u.date = ⟨u.date.year, u.date.month, u.date.day⟩ := rfl
    rw [hu', hyear, hmonth, hday]
  rw [← ofDateClock_date_clock ht, ← ofDateClock_date_clock hu, hdate, hclock]

end Instant

end FilePlacement.Time
