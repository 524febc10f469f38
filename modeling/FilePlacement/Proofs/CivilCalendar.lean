import FilePlacement.Time.Calendar
import Mathlib.Tactic.IntervalCases

/-!
# Days and dates

A day counted from 1970-01-01 has one date, and a date has one day: `Date.ofDays` and `Date.toDays` undo each other
(`Date.toDays_ofDays`, `Date.ofDays_toDays`), before 1970 as well as after it. The date of the next day is the next
date of the calendar (`Date.ofDays_succ`), so that with `Date.ofDays_zero` no other dates are possible.

The years of a cycle begin in March here; `daysBefore` says where, and `yearOfEra_eq` that the year of a day is found
again by counting the leap days in front of it.
-/

namespace FilePlacement.Time

/-! ## The years of a cycle -/

/-- The days of a cycle in front of one of its years. -/
def daysBefore (year : Nat) : Nat := 365 * year + year / 4 - year / 100

/-- The days in a year of a cycle. The last one may be a leap day. -/
def daysIn (year : Nat) : Nat :=
  if (year + 1) % 4 = 0 ∧ ((year + 1) % 100 ≠ 0 ∨ (year + 1) % 400 = 0) then 366 else 365

section
variable {a b c d m : Nat} (ha : a ≤ 3) (hb : b ≤ 24) (hc : c ≤ 3)

include hb hc in
theorem daysBefore_eq : daysBefore (100 * a + 4 * b + c) = 36524 * a + 1461 * b + 365 * c := by
  have hfour : (100 * a + 4 * b + c) / 4 = 25 * a + b := by omega
  have hhundred : (100 * a + 4 * b + c) / 100 = a := by omega
  unfold daysBefore
  rw [hfour, hhundred]
  omega

include ha hb hc in
theorem daysIn_eq : daysIn (100 * a + 4 * b + c) = if c = 3 ∧ (b ≠ 24 ∨ a = 3) then 366 else 365 := by
  unfold daysIn
  congr 1
  simp only [eq_iff_iff]
  omega

include ha in
/-- Only the last day of the cycle lies behind its four centuries. -/
theorem century_eq (hm : m ≤ 36524) (hlast : m = 36524 → a = 3) :
    (36524 * a + m) / 36524 = a + (36524 * a + m) / 146096 := by
  omega

include ha hb hc in
/-- Leap days are counted by 1460 days from the second leap day on, and a year is not left by that. -/
theorem leapDays_le (hd : d ≤ 365) (hlast : d = 365 → c = 3) :
    (24 * a + b + 365 * c + d) / 1460 ≤ d ∧ d < 365 + (24 * a + b + 365 * c + d) / 1460 := by
  by_cases hlt : 24 * a + b + 365 * c + d < 1460
  · rw [Nat.div_eq_of_lt hlt]
    omega
  · have hone : (24 * a + b + 365 * c + d) / 1460 = 1 := by omega
    rw [hone]
    omega

end

/-- Every day of a cycle lies in one of its years. -/
theorem exists_year {n : Nat} (hn : n < 146097) : ∃ y k, y < 400 ∧ k < daysIn y ∧ n = daysBefore y + k := by
  obtain ⟨a, m, ha, hm, hlast, rfl⟩ : ∃ a m, a ≤ 3 ∧ m ≤ 36524 ∧ (m = 36524 → a = 3) ∧ n = 36524 * a + m := by
    by_cases h : n = 146096
    · exact ⟨3, 36524, by omega⟩
    · exact ⟨n / 36524, n % 36524, by omega⟩
  obtain ⟨b, k, hb, hk, rfl⟩ : ∃ b k, b ≤ 24 ∧ k ≤ 1460 ∧ m = 1461 * b + k := ⟨m / 1461, m % 1461, by omega⟩
  obtain ⟨c, d, hc, hd, hleap, rfl⟩ : ∃ c d, c ≤ 3 ∧ d ≤ 365 ∧ (d = 365 → c = 3) ∧ k = 365 * c + d := by
    by_cases h : k = 1460
    · exact ⟨3, 365, by omega⟩
    · exact ⟨k / 365, k % 365, by omega⟩
  refine ⟨100 * a + 4 * b + c, d, by omega, ?_, ?_⟩
  · rw [daysIn_eq ha hb hc]
    split <;> omega
  · rw [daysBefore_eq hb hc]
    omega

/-- The year of a day is found again. -/
theorem yearOfEra_eq {y k n : Nat} (hy : y < 400) (hk : k < daysIn y) (hn : n = daysBefore y + k) :
    (n - n / 1460 + n / 36524 - n / 146096) / 365 = y := by
  obtain ⟨a, b, c, ha, hb, hc, rfl⟩ : ∃ a b c, a ≤ 3 ∧ b ≤ 24 ∧ c ≤ 3 ∧ y = 100 * a + 4 * b + c :=
    ⟨y / 100, y % 100 / 4, y % 4, by omega⟩
  rw [daysIn_eq ha hb hc] at hk
  rw [daysBefore_eq hb hc] at hn
  obtain ⟨hk, hleap⟩ : k ≤ 365 ∧ (k = 365 → c = 3 ∧ (b ≠ 24 ∨ a = 3)) := by split at hk <;> omega
  obtain ⟨m, hm⟩ : ∃ m, m = 1461 * b + 365 * c + k := ⟨_, rfl⟩
  obtain rfl : n = 36524 * a + m := by omega
  have hcentury := century_eq ha (m := m) (by omega) (by omega)
  have hleaps := leapDays_le ha hb hc hk fun h => (hleap h).1
  have hfour : (36524 * a + m) / 1460 = 25 * a + b + (24 * a + b + 365 * c + k) / 1460 := by
    rw [show 36524 * a + m = 1460 * (25 * a + b) + (24 * a + b + 365 * c + k) by omega, Nat.mul_add_div (by decide)]
  rw [hcentury, hfour]
  generalize (36524 * a + m) / 146096 = last
  generalize (24 * a + b + 365 * c + k) / 1460 = leaps at hleaps
  have hsum : 36524 * a + m - (25 * a + b + leaps) + (a + last) - last =
      365 * (100 * a + 4 * b + c) + (k - leaps) := by
    clear hn hcentury hfour hleap
    omega
  rw [hsum, Nat.mul_add_div (by decide), Nat.div_eq_of_lt (by omega), Nat.add_zero]

theorem daysBefore_add_lt {y k : Nat} (hy : y < 400) (hk : k < daysIn y) : daysBefore y + k < 146097 := by
  unfold daysIn at hk
  unfold daysBefore
  split at hk <;> omega

/-! ## Years that begin in March -/

namespace Date

/-- The date is one of the calendar, of whatever year. -/
structure IsCivil (d : Date) : Prop where
  month_pos : 1 ≤ d.month
  month_le : d.month ≤ 12
  day_pos : 1 ≤ d.day
  day_le : d.day ≤ daysInMonth d.year d.month

/-- The year in which the year of a date begins in March. -/
def marchYear (d : Date) : Int := if d.month ≤ 2 then d.year - 1 else d.year

/-- The months from March to a month. -/
def monthFromMarch (month : Nat) : Nat := if month > 2 then month - 3 else month + 9

/-- The month so many months from March. -/
def monthOf (months : Nat) : Nat := if months < 10 then months + 3 else months - 9

/-- The days of a year that begins in March in front of a date. -/
def dayOfYear (d : Date) : Nat := (153 * monthFromMarch d.month + 2) / 5 + (d.day - 1)

/-- The date of a day of a year that begins in March. -/
def ofMarch (year : Int) (k : Nat) : Date :=
  let months := (5 * k + 2) / 153
  ⟨year + (if monthOf months ≤ 2 then 1 else 0), monthOf months, k - (153 * months + 2) / 5 + 1⟩

theorem toDays_eq {d : Date} (hd : 1 ≤ d.day) :
    d.toDays = d.marchYear / 400 * 146097 +
      ((daysBefore (d.marchYear % 400).toNat + d.dayOfYear : Nat) : Int) - 719468 := by
  unfold toDays marchYear dayOfYear monthFromMarch daysBefore
  dsimp only
  split <;> split <;> omega

theorem ofDays_eq {e : Int} {y k : Nat} (hy : y < 400) (hk : k < daysIn y) :
    ofDays (e * 146097 + ((daysBefore y + k : Nat) : Int) - 719468) = ofMarch (e * 400 + y) k := by
  have hlt := daysBefore_add_lt hy hk
  have hyear := yearOfEra_eq hy hk rfl
  obtain ⟨n, hn⟩ : ∃ n, n = daysBefore y + k := ⟨_, rfl⟩
  rw [← hn] at hlt hyear ⊢
  have hera : (e * 146097 + (n : Int) - 719468 + 719468) / 146097 = e := by omega
  have hday : ((e * 146097 + (n : Int) - 719468 + 719468) % 146097).toNat = n := by omega
  have hrest : n - (365 * y + y / 4 - y / 100) = k := by
    unfold daysBefore at hn
    omega
  unfold ofDays ofMarch monthOf
  dsimp only
  rw [hera, hday, hyear, hrest, Int.add_comm (y : Int)]

theorem isLeapYear_iff (y : Int) : isLeapYear y = true ↔ y % 4 = 0 ∧ (y % 100 ≠ 0 ∨ y % 400 = 0) := by
  simp [isLeapYear]

section
variable {year : Int} {k : Nat}

theorem marchYear_ofMarch (hk : k < 366) : (ofMarch year k).marchYear = year := by
  unfold ofMarch marchYear monthOf
  dsimp only
  split <;> omega

theorem dayOfYear_ofMarch (hk : k < 366) : (ofMarch year k).dayOfYear = k := by
  unfold ofMarch dayOfYear monthFromMarch monthOf
  dsimp only
  split <;> split <;> omega

/-- A year ends with February. -/
theorem daysIn_year (year : Int) : daysIn (year % 400).toNat = 337 + daysInMonth (year + 1) 2 := by
  have hleap := isLeapYear_iff (year + 1)
  simp only [daysInMonth]
  unfold daysIn
  split
  · rw [if_pos (hleap.2 (by omega))]
  · rw [if_neg (fun h => by have hrule := hleap.1 h; omega)]

theorem lt_of_lt_daysIn (hk : k < daysIn (year % 400).toNat) : k < 366 := by
  unfold daysIn at hk
  split at hk <;> omega

/-- The months from March on follow each other; the last one is February. -/
theorem daysInMonth_eq (year : Int) {months : Nat} (hm : months < 11) :
    (153 * months + 2) / 5 + daysInMonth year (monthOf months) = (153 * (months + 1) + 2) / 5 := by
  interval_cases months <;> rfl

theorem isCivil_ofMarch (hk : k < daysIn (year % 400).toNat) : (ofMarch year k).IsCivil := by
  have hlt := lt_of_lt_daysIn hk
  obtain ⟨months, hmonths⟩ : ∃ months, months = (5 * k + 2) / 153 := ⟨_, rfl⟩
  have hmonth : 1 ≤ monthOf months ∧ monthOf months ≤ 12 := by
    unfold monthOf
    split <;> omega
  unfold ofMarch
  dsimp only
  rw [← hmonths]
  refine ⟨hmonth.1, hmonth.2, Nat.le_add_left 1 _, ?_⟩
  by_cases hm : months < 11
  · have hlength := daysInMonth_eq (year + if monthOf months ≤ 2 then 1 else 0) hm
    dsimp only
    omega
  · obtain rfl : months = 11 := by omega
    have hfebruary : monthOf 11 = 2 := rfl
    rw [daysIn_year] at hk
    simp only [hfebruary, Nat.le_refl, if_true]
    omega

end

section
variable {d : Date} (hd : d.IsCivil)

include hd

theorem monthOf_monthFromMarch : monthFromMarch d.month ≤ 11 ∧ monthOf (monthFromMarch d.month) = d.month := by
  obtain ⟨hpos, hle, -, -⟩ := hd
  unfold monthOf monthFromMarch
  split <;> split <;> omega

/-- February is the last month. -/
theorem february_of_not_lt (hm : ¬ monthFromMarch d.month < 11) :
    monthFromMarch d.month = 11 ∧ d.month = 2 ∧ d.marchYear = d.year - 1 := by
  obtain ⟨hle, hmonth⟩ := monthOf_monthFromMarch hd
  have hlast : monthFromMarch d.month = 11 := by omega
  have htwo : d.month = 2 := by
    rw [← hmonth, hlast]
    rfl
  exact ⟨hlast, htwo, if_pos htwo.le⟩

/-- The month of a date is found again. -/
theorem months_dayOfYear : (5 * d.dayOfYear + 2) / 153 = monthFromMarch d.month := by
  obtain ⟨hle, hmonth⟩ := monthOf_monthFromMarch hd
  have hpos := hd.day_pos
  have hday := hd.day_le
  unfold dayOfYear
  by_cases hm : monthFromMarch d.month < 11
  · have hlength := daysInMonth_eq d.year hm
    rw [hmonth] at hlength
    omega
  · obtain ⟨hlast, htwo, -⟩ := february_of_not_lt hd hm
    have hlength : daysInMonth d.year 2 ≤ 29 := by
      simp only [daysInMonth]
      split <;> omega
    rw [htwo] at hday
    rw [hlast]
    omega

theorem ofMarch_self : ofMarch d.marchYear d.dayOfYear = d := by
  have hmonths := months_dayOfYear hd
  have hmonth := (monthOf_monthFromMarch hd).2
  have hday : d.dayOfYear - (153 * monthFromMarch d.month + 2) / 5 + 1 = d.day := by
    have hpos := hd.day_pos
    unfold dayOfYear
    omega
  have hyear : d.marchYear + (if d.month ≤ 2 then 1 else 0) = d.year := by
    unfold marchYear
    split <;> omega
  unfold ofMarch
  dsimp only
  rw [hmonths, hmonth, hday, hyear]

theorem dayOfYear_lt : d.dayOfYear < daysIn (d.marchYear % 400).toNat := by
  by_cases hm : monthFromMarch d.month < 11
  · have hmonths := months_dayOfYear hd
    have hleast : 365 ≤ daysIn (d.marchYear % 400).toNat := by
      unfold daysIn
      split <;> omega
    omega
  · obtain ⟨hlast, htwo, hyear⟩ := february_of_not_lt hd hm
    have hpos := hd.day_pos
    have hday := hd.day_le
    rw [htwo] at hday
    rw [hyear, daysIn_year, Int.sub_add_cancel]
    unfold dayOfYear
    rw [hlast]
    omega

end

/-! ## Days and dates -/

theorem ofDays_toDays {d : Date} (hd : d.IsCivil) : ofDays d.toDays = d := by
  have hy : (d.marchYear % 400).toNat < 400 := by omega
  have hyear : d.marchYear / 400 * 400 + ((d.marchYear % 400).toNat : Int) = d.marchYear := by omega
  rw [toDays_eq hd.day_pos, ofDays_eq hy (dayOfYear_lt hd), hyear, ofMarch_self hd]

/-- Every day is one of a year that begins in March. -/
theorem exists_march (n : Int) : ∃ year k, k < daysIn (year % 400).toNat ∧ ofDays n = ofMarch year k ∧
    n = year / 400 * 146097 + ((daysBefore (year % 400).toNat + k : Nat) : Int) - 719468 := by
  obtain ⟨y, k, hy, hk, hn⟩ := exists_year (n := ((n + 719468) % 146097).toNat) (by omega)
  have heq : n = (n + 719468) / 146097 * 146097 + ((daysBefore y + k : Nat) : Int) - 719468 := by omega
  have hrest : (((n + 719468) / 146097 * 400 + (y : Int)) % 400).toNat = y := by omega
  have hera : ((n + 719468) / 146097 * 400 + (y : Int)) / 400 = (n + 719468) / 146097 := by omega
  refine ⟨(n + 719468) / 146097 * 400 + y, k, ?_, ?_, ?_⟩
  · rwa [hrest]
  · exact (congrArg ofDays heq).trans (ofDays_eq hy hk)
  · rwa [hrest, hera]

theorem isCivil_ofDays (n : Int) : (ofDays n).IsCivil := by
  obtain ⟨year, k, hk, hdate, -⟩ := exists_march n
  rw [hdate]
  exact isCivil_ofMarch hk

theorem toDays_ofDays (n : Int) : (ofDays n).toDays = n := by
  obtain ⟨year, k, hk, hdate, hn⟩ := exists_march n
  have hlt := lt_of_lt_daysIn hk
  rw [toDays_eq (isCivil_ofDays n).day_pos, hdate, marchYear_ofMarch hlt, dayOfYear_ofMarch hlt, ← hn]

/-! ## The next day -/

/-- The date of the next day. -/
def next (d : Date) : Date :=
  if d.day < daysInMonth d.year d.month then ⟨d.year, d.month, d.day + 1⟩
  else if d.month < 12 then ⟨d.year, d.month + 1, 1⟩
  else ⟨d.year + 1, 1, 1⟩

theorem daysInMonth_pos (year : Int) (month : Nat) : 1 ≤ daysInMonth year month := by
  unfold daysInMonth
  split
  · split <;> decide
  all_goals decide

theorem daysInMonth_le (year : Int) (month : Nat) : daysInMonth year month ≤ 31 := by
  unfold daysInMonth
  split
  · split <;> decide
  all_goals decide

theorem isCivil_next {d : Date} (hd : d.IsCivil) : d.next.IsCivil := by
  obtain ⟨hpos, hle, hday, hday'⟩ := hd
  unfold next
  split
  · rename_i hlt
    exact ⟨hpos, hle, Nat.le_add_left 1 _, hlt⟩
  · split
    · rename_i hlt
      exact ⟨Nat.le_add_left 1 _, hlt, Nat.le_refl 1, daysInMonth_pos _ _⟩
    · exact ⟨Nat.le_refl 1, Nat.le_add_left 1 11, Nat.le_refl 1, daysInMonth_pos _ _⟩

/-- The years of a cycle follow each other, and so do cycles. -/
theorem daysBefore_succ (year : Int) :
    (year + 1) / 400 * 146097 + (daysBefore ((year + 1) % 400).toNat : Int) =
      year / 400 * 146097 + (daysBefore (year % 400).toNat : Int) + (daysIn (year % 400).toNat : Int) := by
  unfold daysBefore daysIn
  split <;> omega

/-- Behind the last day of a month comes the first one of the next month. -/
theorem next_of_last {d : Date} (hd : d.IsCivil) (hday : ¬ d.day < daysInMonth d.year d.month) :
    d.next.day = 1 ∧ if d.month = 2 then d.next.month = 3 ∧ d.next.year = d.year
      else d.next.marchYear = d.marchYear ∧ monthFromMarch d.next.month = monthFromMarch d.month + 1 := by
  have hpos := hd.month_pos
  have hle := hd.month_le
  unfold next marchYear monthFromMarch
  rw [if_neg hday]
  by_cases hmonth : d.month < 12
  · rw [if_pos hmonth]
    refine ⟨rfl, ?_⟩
    split
    · rename_i htwo
      exact ⟨congrArg (· + 1) htwo, rfl⟩
    · dsimp only
      constructor <;> split <;> split <;> omega
  · rw [if_neg hmonth, if_neg (show d.month ≠ 2 by omega)]
    refine ⟨rfl, ?_⟩
    dsimp only
    constructor <;> split <;> split <;> omega

theorem toDays_next {d : Date} (hd : d.IsCivil) : d.next.toDays = d.toDays + 1 := by
  rw [toDays_eq (isCivil_next hd).day_pos, toDays_eq hd.day_pos]
  have hpos := hd.day_pos
  have hle := hd.day_le
  by_cases hday : d.day < daysInMonth d.year d.month
  · have hnext : d.next = ⟨d.year, d.month, d.day + 1⟩ := if_pos hday
    have hyear : d.next.marchYear = d.marchYear := by rw [hnext]; rfl
    have hmore : d.next.dayOfYear = d.dayOfYear + 1 := by
      rw [hnext]
      unfold dayOfYear
      dsimp only
      omega
    rw [hyear, hmore]
    omega
  · obtain ⟨hone, hmonth⟩ := next_of_last hd hday
    by_cases htwo : d.month = 2
    · obtain ⟨hthree, hsame⟩ := (if_pos htwo).mp hmonth
      have hyear : d.marchYear = d.year - 1 := if_pos htwo.le
      have hnext : d.next.marchYear = d.year := by
        unfold marchYear
        rw [hthree, hsame]
        rfl
      have hlast : d.dayOfYear + 1 = daysIn ((d.year - 1) % 400).toNat := by
        rw [daysIn_year, Int.sub_add_cancel]
        unfold dayOfYear
        rw [htwo] at hday hle ⊢
        rw [show monthFromMarch 2 = 11 from rfl]
        omega
      have hfirst : d.next.dayOfYear = 0 := by
        unfold dayOfYear
        rw [hone, hthree]
        rfl
      have hcycle := daysBefore_succ (d.year - 1)
      rw [Int.sub_add_cancel] at hcycle
      rw [hnext, hyear, hfirst]
      omega
    · rw [if_neg htwo] at hmonth
      obtain ⟨hyear, hmonths⟩ := hmonth
      have hlt : monthFromMarch d.month < 11 := by
        by_contra hlast
        exact htwo (february_of_not_lt hd hlast).2.1
      have hlength := daysInMonth_eq d.year hlt
      rw [(monthOf_monthFromMarch hd).2] at hlength
      have hmore : d.next.dayOfYear = d.dayOfYear + 1 := by
        unfold dayOfYear
        rw [hone, hmonths]
        omega
      rw [hyear, hmore]
      omega

/-- The days of the years that can be computed with. -/
theorem toDays_bounds {d : Date} (hd : d.IsValid) : -10 ^ 8 < d.toDays ∧ d.toDays < 10 ^ 8 := by
  obtain ⟨hlow, hhigh, hpos, hle, hday, hday'⟩ := hd
  have hlength := daysInMonth_le d.year d.month
  have hmonths : monthFromMarch d.month ≤ 11 := by
    unfold monthFromMarch
    split <;> omega
  have hwithin : d.dayOfYear ≤ 400 := by
    unfold dayOfYear
    omega
  have hyear : minYear - 1 ≤ d.marchYear ∧ d.marchYear ≤ maxYear := by
    unfold marchYear
    split <;> omega
  rw [toDays_eq hday]
  unfold minYear maxYear at hyear
  unfold daysBefore
  omega

/-- The day after a day has the date after its date. -/
theorem ofDays_succ (n : Int) : ofDays (n + 1) = (ofDays n).next := by
  have hnext := toDays_next (isCivil_ofDays n)
  rw [toDays_ofDays] at hnext
  rw [← hnext, ofDays_toDays (isCivil_next (isCivil_ofDays n))]

theorem ofDays_zero : ofDays 0 = ⟨1970, 1, 1⟩ := rfl

end Date

end FilePlacement.Time
