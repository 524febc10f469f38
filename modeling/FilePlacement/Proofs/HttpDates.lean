import FilePlacement.Drift
import FilePlacement.Proofs.Texts
import FilePlacement.Proofs.Timestamps
import Mathlib.Algebra.Ring.Int.Defs
import Mathlib.Data.List.Basic

/-!
# Spellings of dates

A moment has many spellings as the date of a header: its fields in UTC with any word as zone, or its fields at an offset
of whole minutes with that offset. All of them are read as that moment (`HttpDate.parse_spelling`), so what a header
tells is the moment and no more.

A stamp that is no moment, as its weekday is another one or its day is not in the month, is refused with the text of the
header, in every zone (`HttpDate.parse_eq_error`).
-/

namespace FilePlacement

namespace Time.HttpDate

/-! ## Reading fields -/

theorem isBlank_of_isDigit {c : Char} (hc : isDigit c = true) : Text.isBlank c = false :=
  Text.isBlank_of_digit (by simpa [isDigit] using hc)

theorem isBlank_of_isAlpha {c : Char} (hc : c.isAlpha = true) : Text.isBlank c = false := by
  change (decide (65 ≤ c.val ∧ c.val ≤ 90) || decide (97 ≤ c.val) && decide (c.val ≤ 122)) = true at hc
  simp only [Bool.or_eq_true, Bool.and_eq_true, decide_eq_true_eq, UInt32.le_iff_toNat_le] at hc
  have htoNat : c.toNat = c.val.toNat := rfl
  simp only [Text.isBlank, htoNat, Bool.or_eq_false_iff, Bool.and_eq_false_iff, decide_eq_false_iff_not]
  simp at hc
  omega

theorem skipBlank_of_head {c : Char} (hc : Text.isBlank c = false) (cs : List Char) : skipBlank (c :: cs) = c :: cs :=
  List.dropWhile_cons_of_neg (by simp [hc])

theorem skipBlank_space (cs : List Char) : skipBlank (' ' :: cs) = skipBlank cs := List.dropWhile_cons_of_pos rfl

section
variable {width n : Nat} (hwidth : 0 < width) (hn : n < 10 ^ width) (rest : List Char)

include hwidth hn

theorem exists_digit_decimalWide : ∃ c cs, (Text.decimalWide width n).toList = c :: cs ∧ isDigit c = true := by
  have hlength := length_decimalWide hwidth hn
  cases hcs : (Text.decimalWide width n).toList with
  | nil =>
    rw [hcs] at hlength
    exact absurd hlength (Nat.ne_of_lt hwidth)
  | cons c cs =>
    have hmem : c ∈ (Text.decimalWide width n).toList := hcs ▸ List.mem_cons_self
    exact ⟨c, cs, rfl, isDigit_of_mem_decimalWide hmem⟩

theorem skipBlank_decimalWide :
    skipBlank ((Text.decimalWide width n).toList ++ rest) = (Text.decimalWide width n).toList ++ rest := by
  obtain ⟨c, cs, hcs, hc⟩ := exists_digit_decimalWide hwidth hn
  rw [hcs]
  exact skipBlank_of_head (isBlank_of_isDigit hc) _

end

theorem readNumber_decimalWide {n : Nat} (hn : n < 100) (rest : List Char) :
    readNumber ((Text.decimalWide 2 n).toList ++ rest) = some (n, rest) := by
  unfold readNumber
  rw [skipBlank_decimalWide (by decide) hn, readDigits_decimalWide (by decide) hn]

theorem readYear_decimalWide {n : Nat} (hn : n < 10000) (rest : List Char) :
    readYear ((Text.decimalWide 4 n).toList ++ rest) = some ((n : Int), rest) := by
  obtain ⟨c, cs, hcs, hc⟩ := exists_digit_decimalWide (show 0 < 4 by decide) hn
  have hread := readDigits_decimalWide (show 0 < 4 by decide) hn rest
  unfold readYear
  rw [skipBlank_decimalWide (by decide) hn]
  rw [hcs] at hread ⊢
  split
  · rename_i heq
    obtain ⟨rfl, -⟩ := List.cons.inj heq
    exact absurd hc (by decide)
  · rename_i heq
    obtain ⟨rfl, -⟩ := List.cons.inj heq
    exact absurd hc (by decide)
  · rw [hread]
    rfl

/-! ## Readers before a space -/

/-- A reader needs something to read, and does not read on behind a space where it has stopped in front of it. -/
def Stops {α : Type} (read : Reader α) : Prop :=
  read [] = none ∧ ∀ cs a rest tail, read cs = some (a, rest) → read (cs ++ ' ' :: tail) = some (a, rest ++ ' ' :: tail)

namespace Stops

theorem name (names : List String) : Stops (readName names) := by
  refine ⟨rfl, fun cs a rest tail h => ?_⟩
  unfold readName at h
  split at h
  · rename_i x y z r
    cases hi : names.idxOf? (String.ofList ([x, y, z].map Char.toLower)) with
    | none => simp only [hi, reduceCtorEq] at h
    | some i =>
      simp only [hi, Option.some.injEq, Prod.mk.injEq] at h
      obtain ⟨rfl, rfl⟩ := h
      simp only [List.cons_append, readName, hi]
  · cases h

theorem char (c : Char) : Stops (readChar c) := by
  refine ⟨rfl, fun cs a rest tail h => ?_⟩
  cases cs with
  | nil => cases h
  | cons d r =>
    simp only [readChar, List.cons_append] at h ⊢
    split at h
    · rename_i hd
      obtain ⟨-, rfl⟩ := Prod.mk.inj (Option.some.inj h)
      exact if_pos hd
    · cases h

theorem takeWhile_take (cs tail : List Char) (width : Nat) :
    ((cs ++ ' ' :: tail).take width).takeWhile isDigit = (cs.take width).takeWhile isDigit := by
  induction cs generalizing width with
  | nil => cases width <;> rfl
  | cons c cs ih =>
    cases width with
    | zero => rfl
    | succ width => simp only [List.cons_append, List.take_succ_cons, List.takeWhile_cons, ih]

/-- The width does not matter where it reaches behind the text. -/
theorem readDigits_append {width wider : Nat} {cs rest : List Char} {n : Nat} (tail : List Char)
    (hwider : cs.take wider = cs.take width) (h : readDigits width cs = some (n, rest)) :
    readDigits wider (cs ++ ' ' :: tail) = some (n, rest ++ ' ' :: tail) := by
  unfold readDigits at h ⊢
  dsimp only at h ⊢
  rw [takeWhile_take, hwider]
  have hlength : ((cs.take width).takeWhile isDigit).length ≤ cs.length :=
    (List.takeWhile_prefix _).length_le.trans (List.length_take_le' _ _)
  split at h
  · cases h
  · rename_i hne
    obtain ⟨rfl, rfl⟩ := Prod.mk.inj (Option.some.inj h)
    rw [if_neg hne, List.drop_append_of_le_length hlength]

theorem digits (width : Nat) : Stops (readDigits width) := by
  refine ⟨by simp [readDigits], fun cs n rest tail h => readDigits_append tail rfl h⟩

/-- White space in front is no reason to read on behind a space. -/
theorem afterBlank {α : Type} {read : Reader α} (hread : Stops read) : Stops fun cs => read (skipBlank cs) := by
  refine ⟨hread.1, fun cs a rest tail h => ?_⟩
  dsimp only at h ⊢
  have hskip : skipBlank (cs ++ ' ' :: tail) = skipBlank cs ++ ' ' :: tail := by
    have hne : skipBlank cs ≠ [] := by
      intro hnil
      rw [hnil, hread.1] at h
      cases h
    unfold skipBlank at hne ⊢
    rw [List.dropWhile_append, if_neg (by simpa [List.isEmpty_iff] using hne)]
  rw [hskip]
  exact hread.2 _ _ _ _ h

theorem number : Stops readNumber := (digits 2).afterBlank

/-- Reads a year from its first character on. -/
def signedYear : Reader Int
  | '-' :: r => (readDigits r.length r).map fun (n, r) => (-(n : Int), r)
  | '+' :: r => (readDigits r.length r).map fun (n, r) => ((n : Int), r)
  | r => (readDigits 4 r).map fun (n, r) => ((n : Int), r)

theorem signedYear_append {cs rest : List Char} {y : Int} (tail : List Char) (h : signedYear cs = some (y, rest)) :
    signedYear (cs ++ ' ' :: tail) = some (y, rest ++ ' ' :: tail) := by
  have hall : ∀ r : List Char, r.take (r ++ ' ' :: tail).length = r.take r.length := fun r => by
    rw [List.take_length, List.take_of_length_le (by simp)]
  unfold signedYear at h
  split at h
  · rename_i r
    obtain ⟨⟨n, rest⟩, hread, hn⟩ := Option.map_eq_some_iff.1 h
    obtain ⟨rfl, rfl⟩ := Prod.mk.inj hn
    simp only [List.cons_append, signedYear, readDigits_append tail (hall r) hread, Option.map_some]
  · rename_i r
    obtain ⟨⟨n, rest⟩, hread, hn⟩ := Option.map_eq_some_iff.1 h
    obtain ⟨rfl, rfl⟩ := Prod.mk.inj hn
    simp only [List.cons_append, signedYear, readDigits_append tail (hall r) hread, Option.map_some]
  · rename_i hminus hplus
    obtain ⟨⟨n, rest⟩, hread, hn⟩ := Option.map_eq_some_iff.1 h
    obtain ⟨rfl, rfl⟩ := Prod.mk.inj hn
    have hne : cs ≠ [] := by
      rintro rfl
      rw [(digits 4).1] at hread
      cases hread
    obtain ⟨c, r, rfl⟩ := List.exists_cons_of_ne_nil hne
    have hmore := readDigits_append tail rfl hread
    rw [List.cons_append] at hmore ⊢
    unfold signedYear
    split
    · rename_i heq
      exact absurd (congrArg (· :: r) (List.cons.inj heq).1) (hminus r)
    · rename_i heq
      exact absurd (congrArg (· :: r) (List.cons.inj heq).1) (hplus r)
    · rw [hmore]
      rfl

theorem year : Stops readYear :=
  have hsigned : Stops signedYear :=
    ⟨by simp [signedYear, readDigits], fun _ _ _ tail h => signedYear_append tail h⟩
  hsigned.afterBlank

theorem stamp : Stops readStamp := by
  refine ⟨by simp [readStamp, readName], fun cs s rest tail h => ?_⟩
  unfold readStamp at h ⊢
  simp only [Option.bind_eq_bind, Option.bind_eq_some_iff, Prod.exists] at h
  obtain ⟨_, _, hweekday, _, _, hcomma, _, _, hday, _, _, hmonth, _, _, hyear, _, _, hhour, _, _, hcolon, _, _, hminute,
    _, _, hcolon', _, _, hsecond, hs⟩ := h
  obtain ⟨rfl, rfl⟩ := Prod.mk.inj (Option.some.inj hs)
  simp only [Option.bind_eq_bind, (name _).2 _ _ _ tail hweekday, Option.bind_some, (char _).2 _ _ _ tail hcomma,
    number.afterBlank.2 _ _ _ tail hday, (name _).afterBlank.2 _ _ _ tail hmonth, year.afterBlank.2 _ _ _ tail hyear,
    number.afterBlank.2 _ _ _ tail hhour, (char _).2 _ _ _ tail hcolon, number.2 _ _ _ tail hminute,
    (char _).2 _ _ _ tail hcolon', number.2 _ _ _ tail hsecond, Option.pure_def]

end Stops

/-! ## Stamps as text -/

def weekdayTexts : List String := ["Mon", "Tue", "Wed", "Thu", "Fri", "Sat", "Sun"]

def monthTexts : List String :=
  ["Jan", "Feb", "Mar", "Apr", "May", "Jun", "Jul", "Aug", "Sep", "Oct", "Nov", "Dec"]

theorem readName_weekdayTexts {i : Nat} (hi : i < 7) (rest : List Char) :
    readName weekdayNames ((weekdayTexts.getD i "").toList ++ rest) = some (i, rest) := by
  interval_cases i <;> rfl

theorem readName_monthTexts {i : Nat} (hi : i < 12) (rest : List Char) :
    readName monthNames ((monthTexts.getD i "").toList ++ rest) = some (i, rest) := by
  interval_cases i <;> rfl

theorem skipBlank_monthTexts {i : Nat} (hi : i < 12) (rest : List Char) :
    skipBlank ((monthTexts.getD i "").toList ++ rest) = (monthTexts.getD i "").toList ++ rest := by
  interval_cases i <;> rfl

/-- A stamp as headers have it. -/
def Stamp.text (s : Stamp) : String :=
  weekdayTexts.getD s.weekday "" ++ ", " ++ Text.decimalWide 2 s.date.day ++ " "
    ++ monthTexts.getD (s.date.month - 1) "" ++ " " ++ Text.decimalWide 4 s.date.year.toNat ++ " "
    ++ Text.decimalWide 2 s.clock.hour ++ ":" ++ Text.decimalWide 2 s.clock.minute ++ ":"
    ++ Text.decimalWide 2 s.clock.second

/-- The fields of a stamp fit their places in the text, whether or not there is such a moment. -/
structure Stamp.IsWritable (s : Stamp) : Prop where
  weekday_lt : s.weekday < 7
  year_nonneg : 0 ≤ s.date.year
  year_le : s.date.year ≤ 9999
  month_pos : 1 ≤ s.date.month
  month_le : s.date.month ≤ 12
  day_lt : s.date.day < 100
  hour_lt : s.clock.hour < 100
  minute_lt : s.clock.minute < 100
  second_lt : s.clock.second < 100

theorem readStamp_text {s : Stamp} (hs : s.IsWritable) (rest : List Char) :
    readStamp (s.text.toList ++ rest) = some (s, rest) := by
  have hcomma : ", ".toList = [',', ' '] := by decide
  have hspace : " ".toList = [' '] := by decide
  have hcolon : ":".toList = [':'] := by decide
  have hmonth : s.date.month - 1 + 1 = s.date.month := Nat.sub_add_cancel hs.month_pos
  have hyear : (s.date.year.toNat : Int) = s.date.year := Int.toNat_of_nonneg hs.year_nonneg
  have hfour : s.date.year.toNat < 10000 := by
    have hle := hs.year_le
    omega
  have htwelve : s.date.month - 1 < 12 := by
    have hle := hs.month_le
    omega
  have htwo : ∀ n < 100, ∀ cs, skipBlank ((Text.decimalWide 2 n).toList ++ cs) = (Text.decimalWide 2 n).toList ++ cs :=
    fun n hn cs => skipBlank_decimalWide (by decide) hn cs
  unfold readStamp Stamp.text
  simp only [String.toList_append, hcomma, hspace, hcolon, List.append_assoc, List.cons_append, List.nil_append,
    Option.bind_eq_bind, Option.bind_some, readName_weekdayTexts hs.weekday_lt, readChar_cons, skipBlank_space,
    htwo _ hs.day_lt, readNumber_decimalWide hs.day_lt, skipBlank_monthTexts htwelve, readName_monthTexts htwelve,
    skipBlank_decimalWide (show 0 < 4 by decide) hfour, readYear_decimalWide hfour,
    htwo _ hs.hour_lt, readNumber_decimalWide hs.hour_lt, readNumber_decimalWide hs.minute_lt,
    readNumber_decimalWide hs.second_lt, hyear, hmonth, Option.pure_def]

theorem Stamp.exists_head_text {s : Stamp} (hs : s.weekday < 7) :
    ∃ c, s.text.toList.head? = some c ∧ Text.isBlank c = false := by
  have hname : ∃ c cs, (weekdayTexts.getD s.weekday "").toList = c :: cs ∧ Text.isBlank c = false := by
    generalize s.weekday = i at hs
    interval_cases i <;> exact ⟨_, _, rfl, by decide⟩
  obtain ⟨c, cs, hcs, hc⟩ := hname
  refine ⟨c, ?_, hc⟩
  unfold Stamp.text
  simp only [String.toList_append, List.append_assoc, hcs, List.cons_append, List.head?_cons]

/-! ## Zones -/

/-- How a header says which clocks its stamp is from. -/
inductive Zone where
  /-- A word. It stands for UTC, whatever it is. -/
  | named (word : String)
  /-- So many minutes behind or ahead of UTC. -/
  | offset (behind : Bool) (minutes : Nat)

theorem exists_twoDigits {n : Nat} (hn : n < 100) : ∃ a b, (Text.decimalWide 2 n).toList = [a, b] ∧
    isDigit a = true ∧ isDigit b = true ∧ twoDigits? a b = some n := by
  have hlength := length_decimalWide (show 0 < 2 by decide) hn
  obtain ⟨a, b, hab⟩ := List.length_eq_two.1 hlength
  have hdigit : ∀ c ∈ [a, b], isDigit c = true := by
    intro c hc
    rw [← hab] at hc
    exact isDigit_of_mem_decimalWide hc
  have ha := hdigit a (by simp)
  have hb := hdigit b (by simp)
  refine ⟨a, b, hab, ha, hb, ?_⟩
  unfold twoDigits?
  rw [ha, hb, ← hab, valueOf_decimalWide]
  rfl

namespace Zone

def text : Zone → String
  | named word => word
  | offset behind minutes =>
    (if behind then "-" else "+") ++ Text.decimalWide 2 (minutes / 60) ++ Text.decimalWide 2 (minutes % 60)

/-- By how many seconds the clocks of a zone are ahead of UTC. -/
def seconds : Zone → Int
  | named _ => 0
  | offset behind minutes => (if behind then -1 else 1) * (60 * minutes)

/-- A word has letters only and at least one, an offset is less than a day. -/
def IsProper : Zone → Prop
  | named word => word ≠ "" ∧ ∀ c ∈ word.toList, c.isAlpha = true
  | offset _ minutes => minutes < 1440

theorem exists_last_text {z : Zone} (hz : z.IsProper) :
    ∃ front c, z.text.toList = front ++ [c] ∧ Text.isBlank c = false := by
  cases z with
  | named word =>
    obtain ⟨hne, halpha⟩ := hz
    have hword : word.toList ≠ [] := fun hnil => hne (String.toList_eq_nil_iff.1 hnil)
    obtain ⟨front, c, hword⟩ := (List.eq_nil_or_concat' word.toList).resolve_left hword
    exact ⟨front, c, hword, isBlank_of_isAlpha (halpha c (hword ▸ by simp))⟩
  | offset behind minutes =>
    obtain ⟨a, b, hab, -, hb, -⟩ := exists_twoDigits (n := minutes % 60) (by omega)
    refine ⟨((if behind then "-" else "+") ++ Text.decimalWide 2 (minutes / 60)).toList ++ [a], b, ?_,
      isBlank_of_isDigit hb⟩
    unfold text
    rw [String.toList_append, hab]
    simp

/-- No separator in front of a zone is part of it. -/
theorem space_not_mem_text {z : Zone} (hz : z.IsProper) : ' ' ∉ z.text.toList := by
  cases z with
  | named word => exact fun hmem => absurd (hz.2 ' ' hmem) (by decide)
  | offset behind minutes =>
    have hminutes : minutes < 1440 := hz
    have hdigits : ∀ n : Nat, ' ' ∉ (Text.decimalWide 2 n).toList := fun n hmem =>
      absurd (isDigit_of_mem_decimalWide hmem) (by decide)
    unfold text
    simp only [String.toList_append, List.mem_append, hdigits, or_false]
    cases behind <;> decide

theorem readOffset_text (behind : Bool) {minutes : Nat} (hminutes : minutes < 1440) :
    readOffset (offset behind minutes).text.toList = some ((offset behind minutes).seconds, []) := by
  obtain ⟨a, b, hab, ha, hb, hhours⟩ := exists_twoDigits (n := minutes / 60) (by omega)
  obtain ⟨c, d, hcd, hc, hd, hrest⟩ := exists_twoDigits (n := minutes % 60) (by omega)
  have hsign : (if behind then "-" else "+").toList = [if behind then '-' else '+'] := by cases behind <;> decide
  have hsign' : offsetSign? (if behind then '-' else '+') = some (if behind then -1 else 1) := by
    cases behind <;> decide
  have hskip : [c, d].dropWhile (fun c => c = ':' || Text.isBlank c) = [c, d] := by
    have hcolon : c ≠ ':' := fun h => absurd (h ▸ hc) (by decide)
    exact List.dropWhile_cons_of_neg (by simp [hcolon, isBlank_of_isDigit hc])
  have hseconds : minutes / 60 * 3600 + minutes % 60 * 60 = 60 * minutes := by omega
  unfold text seconds
  simp only [String.toList_append, hsign, hab, hcd, List.cons_append, List.nil_append]
  unfold readOffset
  simp only [hsign', hhours, hskip, hrest, Option.bind_eq_bind, Option.bind_some]
  rw [if_pos (by omega), hseconds]
  rfl

theorem all_isAlpha_offset (behind : Bool) (minutes : Nat) :
    (offset behind minutes).text.toList.all Char.isAlpha = false := by
  unfold text
  rw [String.toList_append, String.toList_append, List.all_append, List.all_append]
  cases behind <;> rfl

theorem readOffset_of_isAlpha {c : Char} (hc : c.isAlpha = true) (cs : List Char) : readOffset (c :: cs) = none := by
  have hsign : offsetSign? c = none := by
    have hplus : c ≠ '+' := fun h => absurd (h ▸ hc) (by decide)
    have hhyphen : c ≠ '-' := fun h => absurd (h ▸ hc) (by decide)
    have hminus : c ≠ '\u2212' := fun h => absurd (h ▸ hc) (by decide)
    simp [offsetSign?, hplus, hhyphen, hminus]
  unfold readOffset
  split
  · rename_i heq
    obtain ⟨rfl, -⟩ := List.cons.inj heq
    simp only [hsign, Option.bind_eq_bind, Option.bind_none]
  · rfl

theorem seconds_emod (z : Zone) : z.seconds % 60 = 0 := by
  cases z with
  | named word => rfl
  | offset behind minutes =>
    unfold seconds
    cases behind <;> simp only [Bool.false_eq_true, if_true, if_false] <;> omega

end Zone

/-! ## Headers -/

/-- A stamp in a zone, with something in front and behind. -/
def spelling (before : String) (s : Stamp) (z : Zone) (after : String) : String :=
  before ++ s.text ++ " " ++ z.text ++ after

section
variable {before after : String} {s : Stamp} {z : Zone}

theorem trim_spelling (hbefore : ∀ c ∈ before.toList, Text.isBlank c = true)
    (hafter : ∀ c ∈ after.toList, Text.isBlank c = true) (hs : s.IsWritable) (hz : z.IsProper) :
    Text.trim (spelling before s z after).toList = s.text.toList ++ ' ' :: z.text.toList := by
  obtain ⟨a, hfirst, ha⟩ := Stamp.exists_head_text hs.weekday_lt
  obtain ⟨front, b, hlast, hb⟩ := Zone.exists_last_text hz
  have hspace : " ".toList = [' '] := by decide
  have htext : (spelling before s z after).toList =
      before.toList ++ (s.text.toList ++ ' ' :: z.text.toList) ++ after.toList := by
    unfold spelling
    simp only [String.toList_append, hspace, List.append_assoc, List.singleton_append]
  rw [htext]
  refine Text.trimBy_append hbefore hafter (a := a) (z := b) ?_ ?_ ha hb
  · rw [List.head?_append, hfirst]
    rfl
  · rw [hlast, ← List.cons_append, ← List.append_assoc, List.getLast?_concat]

/-- The zone decides which of the two readers takes the header, and the other one refuses it. -/
theorem read_spelling (hs : s.IsWritable) (hz : z.IsProper) :
    (inNamedZone? (s.text.toList ++ ' ' :: z.text.toList)).or (atOffset? (s.text.toList ++ ' ' :: z.text.toList)) =
      s.instant? z.seconds := by
  have hcut := Text.cutLast_append s.text.toList (Zone.space_not_mem_text hz)
  have hstamp := readStamp_text hs []
  rw [List.append_nil] at hstamp
  cases z with
  | named word =>
    obtain ⟨hne, halpha⟩ := hz
    have hnamed : inNamedZone? (s.text.toList ++ ' ' :: word.toList) = s.instant? 0 := by
      have hproper : (word.toList.isEmpty || !word.toList.all Char.isAlpha) = false := by
        simp [List.all_eq_true.2 halpha, hne]
      unfold inNamedZone?
      simp only [show (Zone.named word).text = word from rfl] at hcut
      simp only [hcut, Option.bind_eq_bind, Option.bind_some, hproper, hstamp]
      rfl
    have hoffset : atOffset? (s.text.toList ++ ' ' :: word.toList) = none := by
      have hrefused : readOffset (skipBlank (' ' :: word.toList)) = none := by
        cases hword : word.toList with
        | nil => exact absurd (String.toList_eq_nil_iff.1 hword) hne
        | cons c cs =>
          have hc : c.isAlpha = true := halpha c (hword ▸ List.mem_cons_self)
          rw [skipBlank_space, skipBlank_of_head (isBlank_of_isAlpha hc)]
          exact Zone.readOffset_of_isAlpha hc cs
      unfold atOffset?
      simp only [readStamp_text hs, Option.bind_eq_bind, Option.bind_some, hrefused, Option.bind_none]
    exact (congrArg₂ Option.or hnamed hoffset).trans Option.or_none
  | offset behind minutes =>
    have hnamed : inNamedZone? (s.text.toList ++ ' ' :: (Zone.offset behind minutes).text.toList) = none := by
      unfold inNamedZone?
      simp only [hcut, Option.bind_eq_bind, Option.bind_some, Zone.all_isAlpha_offset, Bool.not_false, Bool.or_true,
        if_true]
    have hoffset : atOffset? (s.text.toList ++ ' ' :: (Zone.offset behind minutes).text.toList) =
        s.instant? (Zone.offset behind minutes).seconds := by
      obtain ⟨a, b, hab, hb⟩ : ∃ a b, (Zone.offset behind minutes).text.toList = a :: b ∧ Text.isBlank a = false := by
        unfold Zone.text
        cases behind <;> exact ⟨_, _, by simp only [String.toList_append]; rfl, by decide⟩
      have hread := Zone.readOffset_text behind hz
      rw [hab] at hread ⊢
      unfold atOffset?
      simp only [readStamp_text hs, Option.bind_eq_bind, Option.bind_some, skipBlank_space, skipBlank_of_head hb, hread]
      rfl
    rw [hnamed, hoffset, Option.none_or]

/-- What a header that spells a stamp is read as. -/
theorem parse_spelling (hbefore : ∀ c ∈ before.toList, Text.isBlank c = true)
    (hafter : ∀ c ∈ after.toList, Text.isBlank c = true) (hs : s.IsWritable) (hz : z.IsProper) :
    parse (spelling before s z after) = match s.instant? z.seconds with
      | some t => .ok t
      | none => .error (.invalidDateHeader (spelling before s z after)) := by
  unfold parse
  dsimp only
  rewrite [trim_spelling hbefore hafter hs hz, read_spelling hs hz]
  cases s.instant? z.seconds <;> rfl

end

/-! ## Moments -/

/-- What the clocks of a zone show at a moment. -/
def stampAt (t : Instant) (z : Zone) : Stamp :=
  let shown := t.plus z.seconds
  ⟨shown.date.weekday, shown.date, shown.clock⟩

/-- A year that is written with four digits, and is not the year zero. -/
def IsCommonYear (year : Int) : Prop := 1 ≤ year ∧ year ≤ 9999

theorem isRegular_plus {t : Instant} (ht : t.IsRegular) {seconds : Int} (hseconds : seconds % 60 = 0) :
    (t.plus seconds).IsRegular := by
  intro hleap
  have hend := ht hleap
  unfold Instant.plus
  dsimp only
  omega

theorem isWritable_stampAt {t : Instant} {z : Zone} (hyear : IsCommonYear (t.plus z.seconds).date.year) :
    (stampAt t z).IsWritable := by
  have hcivil := Date.isCivil_ofDays ((t.plus z.seconds).seconds / Instant.secondsPerDay)
  obtain ⟨-, hday, hhour, hminute, hsecond⟩ := (t.plus z.seconds).fields_lt
  obtain ⟨hlow, hhigh⟩ := hyear
  refine ⟨?_, Int.le_trans (by decide) hlow, hhigh, hcivil.month_pos, hcivil.month_le, hday, hhour, hminute, hsecond⟩
  unfold stampAt Date.weekday
  dsimp only
  omega

/-- The clocks of a zone lead back to the moment at which they have been read. -/
theorem instant?_stampAt {t : Instant} {z : Zone} (ht : t.IsRegular) (hyear : IsCommonYear t.date.year)
    (hlocal : IsCommonYear (t.plus z.seconds).date.year) : (stampAt t z).instant? z.seconds = some t := by
  obtain ⟨hlow, hhigh⟩ := hyear
  obtain ⟨hlow', hhigh'⟩ := hlocal
  obtain ⟨hhour, hminute, hsecond⟩ := (t.plus z.seconds).clock_lt
  have hvalid : (stampAt t z).IsValid :=
    ⟨Instant.isValid_date (by unfold minYear; omega) (by unfold maxYear; omega), rfl, Nat.le_of_lt_succ hhour,
      Nat.le_of_lt_succ hminute, hsecond⟩
  have hback : ((t.plus z.seconds).plus (-z.seconds)) = t := by
    unfold Instant.plus
    simp
  have hmoment : Instant.ofDateClock (stampAt t z).date (stampAt t z).clock = t.plus z.seconds :=
    Instant.ofDateClock_date_clock (isRegular_plus ht z.seconds_emod)
  unfold Stamp.instant?
  rw [if_pos hvalid, hmoment, hback]
  exact if_pos ⟨by unfold minYear; omega, by unfold maxYear; omega⟩

/-- A text gives a moment in a zone, perhaps with white space around it. -/
structure Spells (value : String) (t : Instant) (z : Zone) : Prop where
  isRegular : t.IsRegular
  isProper : z.IsProper
  year : IsCommonYear t.date.year
  localYear : IsCommonYear (t.plus z.seconds).date.year
  text : ∃ before after, (∀ c ∈ before.toList, Text.isBlank c = true) ∧ (∀ c ∈ after.toList, Text.isBlank c = true) ∧
    value = spelling before (stampAt t z) z after

theorem emod_of_readOffset {cs rest : List Char} {offset : Int} (h : readOffset cs = some (offset, rest)) :
    offset % 60 = 0 := by
  unfold readOffset at h
  split at h
  · simp only [Option.bind_eq_bind, Option.bind_eq_some_iff] at h
    obtain ⟨sign, hsign, hours, -, h⟩ := h
    split at h
    · obtain ⟨minutes, -, h⟩ := Option.bind_eq_some_iff.1 h
      split at h
      · obtain ⟨rfl, -⟩ := Prod.mk.inj (Option.some.inj h)
        have hminutes : ((hours * 3600 + minutes * 60 : Nat) : Int) = 60 * (hours * 60 + minutes) := by omega
        rw [hminutes, mul_left_comm]
        exact Int.mul_emod_right _ _
      · cases h
    · cases h
  · cases h

/-- What a header is read as comes from a stamp at its front, at an offset of whole minutes. -/
theorem exists_stamp_of_parse {value : String} {t : Instant} (h : parse value = .ok t) :
    ∃ s rest offset, readStamp (Text.trim value.toList) = some (s, rest) ∧ s.instant? offset = some t ∧
      offset % 60 = 0 := by
  unfold parse at h
  dsimp only at h
  split at h
  · rename_i u hread
    obtain rfl : u = t := Except.ok.inj h
    rcases Option.or_eq_some_iff.1 hread with hnamed | ⟨-, hoffset⟩
    · unfold inNamedZone? at hnamed
      obtain ⟨⟨stamp, zone⟩, hcut, hnamed⟩ := Option.bind_eq_some_iff.1 hnamed
      dsimp only at hnamed
      split at hnamed
      · cases hnamed
      · obtain ⟨⟨s, rest⟩, hstamp, hs⟩ := Option.bind_eq_some_iff.1 hnamed
        dsimp only at hs
        split at hs
        · rename_i hrest
          obtain rfl := List.isEmpty_iff.1 hrest
          have hmore := Stops.stamp.2 _ _ _ zone hstamp
          rw [← Text.eq_of_cutLast hcut] at hmore
          exact ⟨s, _, 0, hmore, hs, rfl⟩
        · cases hs
    · unfold atOffset? at hoffset
      obtain ⟨⟨s, rest⟩, hstamp, hoffset⟩ := Option.bind_eq_some_iff.1 hoffset
      obtain ⟨⟨offset, rest'⟩, hread, hs⟩ := Option.bind_eq_some_iff.1 hoffset
      dsimp only at hs
      split at hs
      · exact ⟨s, rest, offset, hstamp, hs, emod_of_readOffset hread⟩
      · cases hs
  · cases h

theorem instant?_isValid {s : Stamp} {offset : Int} {t : Instant} (h : s.instant? offset = some t) : s.IsValid := by
  unfold Stamp.instant? at h
  split at h
  · assumption
  · cases h

/-- A header that is not read as a moment is named by the fault. -/
theorem parse_eq_error_of_ne {value : String} (h : ∀ t, parse value ≠ .ok t) :
    parse value = .error (.invalidDateHeader value) := by
  cases hread : parse value with
  | ok t => exact absurd hread (h t)
  | error f =>
    unfold parse at hread
    dsimp only at hread
    split at hread
    · cases hread
    · rw [Except.error.inj hread]

/-- A stamp that is no moment is refused, however it is written and whatever follows it. -/
theorem parse_eq_error {value : String} {s : Stamp} {rest : List Char}
    (hread : readStamp (Text.trim value.toList) = some (s, rest)) (hs : ¬ s.IsValid) :
    parse value = .error (.invalidDateHeader value) := by
  refine parse_eq_error_of_ne fun t h => ?_
  obtain ⟨s', rest', offset, hread', ht, -⟩ := exists_stamp_of_parse h
  rw [hread] at hread'
  obtain ⟨rfl, -⟩ := Prod.mk.inj (Option.some.inj hread')
  exact absurd (instant?_isValid ht) hs

/-- Offsets are of whole minutes, so that leap seconds stay where they can be. -/
theorem isRegular_of_parse {value : String} {t : Instant} (h : parse value = .ok t) : t.IsRegular := by
  obtain ⟨s, -, offset, -, ht, hoffset⟩ := exists_stamp_of_parse h
  unfold Stamp.instant? at ht
  split at ht
  · dsimp only at ht
    split at ht
    · obtain rfl := Option.some.inj ht
      refine isRegular_plus (fun hleap => ?_) (by omega)
      have hsecond : s.clock.second = 60 := of_decide_eq_true hleap
      unfold Instant.ofDateClock Instant.secondsPerDay
      dsimp only
      rw [if_pos hsecond]
      omega
    · cases ht
  · cases ht

theorem parse_of_spells {value : String} {t : Instant} {z : Zone} (h : Spells value t z) : parse value = .ok t := by
  obtain ⟨before, after, hbefore, hafter, rfl⟩ := h.text
  rw [parse_spelling hbefore hafter (isWritable_stampAt h.localYear) h.isProper,
    instant?_stampAt h.isRegular h.year h.localYear]

theorem dateOfHeader_of_parse {value : String} {t : Instant} (h : parse value = .ok t) :
    Drift.dateOfHeader value = .ok t.rfc3339 := by
  have hne : value.isEmpty = false := by
    rw [Bool.eq_false_iff]
    intro hempty
    obtain ⟨s, rest, -, hread, -⟩ := exists_stamp_of_parse h
    rw [String.isEmpty_iff.1 hempty] at hread
    cases hread
  unfold Drift.dateOfHeader
  rw [hne, h]
  rfl

/-- The weekday is the one of the date, and the month has the day. -/
def Stamp.Exists (s : Stamp) : Prop :=
  s.date.weekday = s.weekday ∧ 1 ≤ s.date.day ∧ s.date.day ≤ daysInMonth s.date.year s.date.month

theorem Stamp.IsValid.exists {s : Stamp} (hs : s.IsValid) : s.Exists :=
  ⟨hs.2.1, hs.1.2.2.2.2.1, hs.1.2.2.2.2.2⟩

/-- **A header tells a moment, and no more.** Every spelling of a moment is read as that moment, so two headers are
observed as the same date just if they are spellings of one moment. A header whose stamp does not exist is refused: one
in which such a stamp is read, in whatever form, and so every spelling of such a stamp. -/
theorem headers_tell_moments {v w : String} {t u : Instant} {y z : Zone} (hv : Spells v t y) (hw : Spells w u z) :
    parse v = .ok t ∧ Drift.dateOfHeader v = .ok t.rfc3339 ∧
    (Drift.dateOfHeader v = Drift.dateOfHeader w ↔ t = u) ∧
    (∀ (value : String) (s : Stamp) (rest : List Char), readStamp (Text.trim value.toList) = some (s, rest) →
      ¬ s.Exists → parse value = .error (.invalidDateHeader value)) ∧
    (∀ (before after : String) (s : Stamp) (x : Zone), s.IsWritable → x.IsProper →
      (∀ c ∈ before.toList, Text.isBlank c = true) → (∀ c ∈ after.toList, Text.isBlank c = true) → ¬ s.Exists →
      parse (spelling before s x after) = .error (.invalidDateHeader (spelling before s x after))) := by
  have ht := dateOfHeader_of_parse (parse_of_spells hv)
  have hu := dateOfHeader_of_parse (parse_of_spells hw)
  refine ⟨parse_of_spells hv, ht, ⟨fun h => ?_, fun h => ?_⟩, fun value s rest hread hs => ?_,
    fun before after s x hw hx hbefore hafter hs => ?_⟩
  · rw [ht, hu] at h
    exact Instant.eq_of_rfc3339_eq hv.isRegular hw.isRegular (Except.ok.inj h)
  · rw [ht, hu, h]
  · exact parse_eq_error hread fun hvalid => hs hvalid.exists
  · have hread := readStamp_text hw (' ' :: x.text.toList)
    rw [← trim_spelling hbefore hafter hw hx] at hread
    exact parse_eq_error hread fun hvalid => hs hvalid.exists

/-- One hour before the clocks of UTC, the year 1970 has not begun. -/
theorem headers_tell_epoch :
    Spells "Thu, 01 Jan 1970 00:00:00 GMT" ⟨0, false⟩ (.named "GMT") ∧
    Spells " Wed, 31 Dec 1969 23:00:00 -0100" ⟨0, false⟩ (.offset true 60) ∧
    Drift.dateOfHeader "Thu, 01 Jan 1970 00:00:00 GMT" = Drift.dateOfHeader " Wed, 31 Dec 1969 23:00:00 -0100" ∧
    parse "Fri, 01 Jan 1970 00:00:00 GMT" = .error (.invalidDateHeader "Fri, 01 Jan 1970 00:00:00 GMT") := by
  have hnamed : Spells "Thu, 01 Jan 1970 00:00:00 GMT" ⟨0, false⟩ (.named "GMT") :=
    ⟨nofun, ⟨by decide, List.all_eq_true.1 (by decide)⟩, ⟨by decide, by decide⟩, ⟨by decide, by decide⟩,
      "", "", nofun, nofun, by decide +kernel⟩
  have hoffset : Spells " Wed, 31 Dec 1969 23:00:00 -0100" ⟨0, false⟩ (.offset true 60) :=
    ⟨nofun, (by decide : 60 < 1440), ⟨by decide, by decide⟩, ⟨by decide, by decide⟩,
      " ", "", List.all_eq_true.1 (by decide), nofun, by decide +kernel⟩
  obtain ⟨-, -, hsame, hrefused, -⟩ := headers_tell_moments hnamed hoffset
  refine ⟨hnamed, hoffset, hsame.2 rfl, hrefused _ ⟨4, ⟨1970, 1, 1⟩, ⟨0, 0, 0⟩⟩ " GMT".toList (by decide +kernel) ?_⟩
  rintro ⟨hweekday, -⟩
  exact absurd hweekday (by decide)

end Time.HttpDate

end FilePlacement
