import FilePlacement.Drift
import FilePlacement.Proofs.Timestamps
import FilePlacement.Proofs.DriftHistory
import FilePlacement.Proofs.TimeLimits

/-!
# What is observed of a local file

The observation of a local file is made of the second in which it was last changed and of its size, and both can be
read off it again: the tag holds the two numbers (`Drift.numbersOfTag?_ofStat`), and the date is the one of that second.
So two observations are the same just if second and size are (`Drift.ofStat_eq_iff`), whatever the nanoseconds.
-/

namespace FilePlacement

/-- The nanoseconds from 1970 to a time, negative ones before it. -/
def FileTime.nanoseconds (t : FileTime) : Int := t.seconds * 10 ^ 9 + t.nanos

/-- The last second that has begun. -/
def FileTime.second (t : FileTime) : Int := t.nanoseconds / 10 ^ 9

/-- The nanoseconds are within their second, whose date can be computed with, and the size fits its place. -/
structure FileStat.IsObservable (s : FileStat) : Prop where
  nanos_lt : s.changed.nanos < 10 ^ 9
  minYear_le : Time.minYear ≤ (Time.Instant.ofUnix s.changed.second).date.year
  le_maxYear : (Time.Instant.ofUnix s.changed.second).date.year ≤ Time.maxYear
  size_lt : s.size < 2 ^ 63

/-! ## Words of 64 bits -/

/-- The number of 64 bits that stands for a number in two's complement. -/
def wordOf (n : Int) : Nat := if 0 ≤ n then n.toNat else (n + 2 ^ 64).toNat

/-- The number that a number of 64 bits stands for. -/
def ofWord (w : Nat) : Int := if w < 2 ^ 63 then w else w - 2 ^ 64

section
variable {n : Int} (hlow : -2 ^ 63 ≤ n) (hhigh : n < 2 ^ 63)

include hlow hhigh

theorem ofWord_wordOf : ofWord (wordOf n) = n := by
  unfold ofWord wordOf
  split <;> split <;> omega

theorem hexadecimal64_eq : Drift.hexadecimal64 n = Text.hexadecimal (wordOf n) := by
  unfold Drift.hexadecimal64 wordOf
  rw [BitVec.toNat_ofInt]
  congr 1
  split <;> omega

end

namespace FileStat

variable {a b s : FileStat}

theorem IsObservable.second_eq (hs : s.IsObservable) : s.changed.second = s.changed.seconds := by
  have hnanos := hs.nanos_lt
  unfold FileTime.second FileTime.nanoseconds
  omega

/-- Seconds of years that can be computed with are far from the ends of 64 bits. -/
theorem IsObservable.second_bounds (hs : s.IsObservable) : -2 ^ 63 ≤ s.changed.second ∧ s.changed.second < 2 ^ 63 := by
  have hvalid := Time.Instant.isValid_date hs.minYear_le hs.le_maxYear
  have hdays := Time.Date.toDays_bounds hvalid
  have hday : (Time.Instant.ofUnix s.changed.second).date.toDays = s.changed.second / 86400 := Time.Date.toDays_ofDays _
  rw [hday] at hdays
  omega

end FileStat

namespace Drift

/-! ## What is read off an observation -/

/-- The two numbers of a tag. -/
def numbersOfTag? (tag : String) : Option (Int × Int) := do
  let (a, b) ← Text.cut '-' tag.toList
  return (ofWord (← Text.ofDigits? 16 a), ofWord (← Text.ofDigits? 16 b))

theorem ofDigits?_hexadecimal (n : Nat) : Text.ofDigits? 16 (Text.hexadecimal n).toList = some n := by
  have hread : Text.ofDigits? 16 (Text.zeroPadded 0 (Text.digits 16 n)) = some n :=
    Text.ofDigits?_zeroPadded (by decide) (by decide) 0 n
  rw [Text.zeroPadded, Nat.zero_sub, List.replicate_zero, List.nil_append] at hread
  rwa [Text.hexadecimal, String.toList_ofList]

theorem hyphen_not_mem_hexadecimal (n : Nat) : '-' ∉ (Text.hexadecimal n).toList := by
  intro hmem
  rw [Text.hexadecimal, String.toList_ofList] at hmem
  exact absurd (Text.isDigitOf_of_mem_digits (by decide) (by decide) hmem) (by decide)

section
variable {s : FileStat} (hs : s.IsObservable)

include hs

theorem modificationDate_ofStat :
    (ofStat s).modificationDate = (Time.Instant.ofUnix s.changed.second).rfc3339 := by
  rw [hs.second_eq]
  rfl

theorem tag_ofStat :
    (ofStat s).tag = Text.hexadecimal (wordOf s.changed.second) ++ "-" ++ Text.hexadecimal s.size := by
  have hsize := hs.size_lt
  obtain ⟨hlow, hhigh⟩ := hs.second_bounds
  have hword : wordOf (s.size : Int) = s.size := by
    unfold wordOf
    rw [if_pos (Int.natCast_nonneg _), Int.toNat_natCast]
  unfold ofStat
  dsimp only
  rw [← hs.second_eq, hexadecimal64_eq hlow hhigh, hexadecimal64_eq (n := s.size) (by omega) (by omega), hword]

theorem numbersOfTag?_ofStat : numbersOfTag? (ofStat s).tag = some (s.changed.second, (s.size : Int)) := by
  have hsize := hs.size_lt
  obtain ⟨hlow, hhigh⟩ := hs.second_bounds
  have hhyphen : "-".toList = ['-'] := by decide
  have hcut : Text.cut '-' (ofStat s).tag.toList =
      some ((Text.hexadecimal (wordOf s.changed.second)).toList, (Text.hexadecimal s.size).toList) := by
    rw [tag_ofStat hs]
    refine Text.cut_eq_some_iff.2 ⟨?_, hyphen_not_mem_hexadecimal _⟩
    simp only [String.toList_append, hhyphen, List.append_assoc, List.singleton_append]
  have hword : ofWord s.size = (s.size : Int) := if_pos hsize
  unfold numbersOfTag?
  simp only [hcut, ofDigits?_hexadecimal, Option.bind_eq_bind, Option.bind_some, ofWord_wordOf hlow hhigh, hword,
    Option.pure_def]

theorem toInt_size_ofStat : (ofStat s).size.toInt = s.size := by
  have hsize := hs.size_lt
  exact Int64.toInt_ofInt_of_le (by omega) (by omega)

/-- Everything is known of a file that is not empty. -/
theorem isComplete_ofStat : (ofStat s).isComplete = true ↔ s.size ≠ 0 := by
  have hdate : (ofStat s).modificationDate ≠ "" := Time.Instant.rfc3339_ne_empty _
  have htag : (ofStat s).tag ≠ "" := by
    intro hempty
    have hread := numbersOfTag?_ofStat hs
    rw [hempty] at hread
    cases hread
  have hsize : (ofStat s).size = 0 ↔ s.size = 0 := by
    rw [← Int64.toInt_inj, toInt_size_ofStat hs, Int64.toInt_zero]
    exact Int.natCast_eq_zero
  simp only [Observation.isComplete, Bool.and_eq_true, Bool.not_eq_true', bne_iff_ne, ne_eq, hsize,
    String.isEmpty_eq_false_iff, hdate, htag, not_false_eq_true, true_and, and_true]

end

/-- Observations of local files are the same just if second and size are. -/
theorem ofStat_eq_iff {a b : FileStat} (ha : a.IsObservable) (hb : b.IsObservable) :
    ofStat a = ofStat b ↔ a.changed.second = b.changed.second ∧ a.size = b.size := by
  constructor
  · intro h
    have hread := numbersOfTag?_ofStat ha
    rw [h, numbersOfTag?_ofStat hb] at hread
    obtain ⟨hsecond, hsize⟩ := Prod.mk.inj (Option.some.inj hread)
    exact ⟨hsecond.symm, (Int.natCast_inj.1 hsize).symm⟩
  · rintro ⟨hsecond, hsize⟩
    rw [ha.second_eq, hb.second_eq] at hsecond
    unfold ofStat
    rw [hsecond, hsize]

theorem hasChanged_ofStat_iff {a b : FileStat} (ha : a.IsObservable) (hb : b.IsObservable) :
    (ofStat a).hasChanged (ofStat b) = true ↔
      a.size ≠ 0 ∧ (a.changed.second ≠ b.changed.second ∨ a.size ≠ b.size) := by
  rw [hasChanged_iff, isComplete_ofStat ha, ne_eq (ofStat a), ofStat_eq_iff ha hb, not_and_or]

/-- The date of a year of four digits and the tag are of the same second. -/
theorem ofTimestamp?_ofStat {s : FileStat} (hs : s.IsObservable)
    (hlow : 0 ≤ (Time.Instant.ofUnix s.changed.second).date.year)
    (hhigh : (Time.Instant.ofUnix s.changed.second).date.year ≤ 9999) :
    Time.Instant.ofTimestamp? (ofStat s).modificationDate.toList = some (.ofUnix s.changed.second) := by
  rw [modificationDate_ofStat hs]
  exact Time.Instant.ofTimestamp?_rfc3339 nofun hlow hhigh

/-! ## Observing -/

variable {σ : Type} {h : Host Reconciling σ}

theorem runInTime_observe_local {f : SourceFile} {a : FileStat} {s t : σ} (hf : f.isUrl = false)
    (hstat : h.answerInTime (Call.here (.stat f.path)) s = (some (.ok a), t)) :
    Program.runInTime h (observe f) s = (some (.ok (ofStat a)), t) := by
  have hlift := Task.runInTime_lift h (Reconciling.stat f.path) s
  rw [show Program.runInTime h (Reconciling.stat f.path) s = (some (.ok a), t) from
    (Program.runInTime_request h (Call.here (.stat f.path)) s).trans hstat] at hlift
  unfold observe observeLocal
  rw [hf]
  exact Task.runInTime_bind_ok hlift _

/-- **An observation of a local file is its last second and its size.** Date and tag are both of that second, which is
found by rounding down before 1970 too; two observations are the same just if second and size are, and a file that is
not empty has changed just if one of them is different. -/
theorem local_observation_exact {f g : SourceFile} {a b : FileStat} {s s' t t' : σ} (hf : f.isUrl = false)
    (hg : g.isUrl = false) (hstat : h.answerInTime (Call.here (.stat f.path)) s = (some (.ok a), t))
    (hstat' : h.answerInTime (Call.here (.stat g.path)) s' = (some (.ok b), t'))
    (ha : a.IsObservable) (hb : b.IsObservable) :
    ∃ o o' : Observation, Program.runInTime h (observe f) s = (some (.ok o), t) ∧
      Program.runInTime h (observe g) s' = (some (.ok o'), t') ∧
      o.modificationDate = (Time.Instant.ofUnix a.changed.second).rfc3339 ∧
      o.size.toInt = a.size ∧
      o.tag = Text.hexadecimal (wordOf a.changed.second) ++ "-" ++ Text.hexadecimal a.size ∧
      numbersOfTag? o.tag = some (a.changed.second, (a.size : Int)) ∧
      (0 ≤ (Time.Instant.ofUnix a.changed.second).date.year →
        (Time.Instant.ofUnix a.changed.second).date.year ≤ 9999 →
        Time.Instant.ofTimestamp? o.modificationDate.toList = some (.ofUnix a.changed.second)) ∧
      (o = o' ↔ a.changed.second = b.changed.second ∧ a.size = b.size) ∧
      (o.hasChanged o' = true ↔ a.size ≠ 0 ∧ (a.changed.second ≠ b.changed.second ∨ a.size ≠ b.size)) :=
  ⟨ofStat a, ofStat b, runInTime_observe_local hf hstat, runInTime_observe_local hg hstat', modificationDate_ofStat ha,
    toInt_size_ofStat ha, tag_ofStat ha, numbersOfTag?_ofStat ha, ofTimestamp?_ofStat ha, ofStat_eq_iff ha hb,
    hasChanged_ofStat_iff ha hb⟩

end Drift

namespace Memory

/-- A store on a machine whose `notes.iso` has last been changed half a second before 1970. -/
def early : Memory :=
  ⟨.ofTree (FileTree.empty.put ["work", "notes.iso"] (.file ⟨"text".toUTF8, ⟨-1, 500000000⟩, 0o644⟩)),
    ⟨"local", .ok .minimum, none, [], []⟩, [], []⟩

end Memory

/-- A file of the last second before 1970, and a longer one of a later year. -/
theorem local_observation_exact_early :
    (⟨4, ⟨-1, 500000000⟩⟩ : FileStat).IsObservable ∧ (⟨6, ⟨1700000000, 0⟩⟩ : FileStat).IsObservable ∧
    ∃ o o' : Observation, (Program.runInTime Memory.host (Drift.observe ⟨"notes.iso", none, none, false, none⟩)
        Memory.early).1 = some (.ok o) ∧
      (Program.runInTime Memory.host (Drift.observe ⟨"notes.iso", none, none, false, none⟩)
        (Memory.besides [] (some "longer".toUTF8))).1 = some (.ok o') ∧
      o.tag = "ffffffffffffffff-4" ∧ Time.Instant.ofTimestamp? o.modificationDate.toList = some (.ofUnix (-1)) ∧
      o.hasChanged o' = true := by
  have hearly : (⟨4, ⟨-1, 500000000⟩⟩ : FileStat).IsObservable := ⟨by decide, by decide, by decide, by decide⟩
  have hlater : (⟨6, ⟨1700000000, 0⟩⟩ : FileStat).IsObservable := ⟨by decide, by decide, by decide, by decide⟩
  have hstat : Memory.host.answerInTime (Call.here (.stat "notes.iso")) Memory.early =
      (some (.ok ⟨4, ⟨-1, 500000000⟩⟩), Memory.early) := rfl
  have hstat' : Memory.host.answerInTime (Call.here (.stat "notes.iso")) (Memory.besides [] (some "longer".toUTF8)) =
      (some (.ok ⟨6, ⟨1700000000, 0⟩⟩), Memory.besides [] (some "longer".toUTF8)) := rfl
  obtain ⟨o, o', ho, ho', -, -, htag, -, hdate, -, hchanged⟩ := Drift.local_observation_exact
    (f := ⟨"notes.iso", none, none, false, none⟩) (g := ⟨"notes.iso", none, none, false, none⟩) (by decide) (by decide)
    hstat hstat' hearly hlater
  refine ⟨hearly, hlater, o, o', congrArg Prod.fst ho, congrArg Prod.fst ho', htag.trans (by decide +kernel),
    hdate (by decide) (by decide), hchanged.2 (by decide)⟩

end FilePlacement
