import FilePlacement.Proofs.Texts
import FilePlacement.Release
import Mathlib.Tactic.SplitIfs

/-!
# Releases as texts and in order

`parse` reads the numbers of a release and does not see what stands around them: the white space at both ends, what
follows the first mark of a suffix, and what follows the third number (`parse_eq_ok_iff`). So a release that is written
with a suffix and white space is read as that release (`parse_format`).

The order is that of the numbers, not that of the texts (`compare_eq_lt_iff`). It is total, and from `firstWithImport`
on a release can import (`canImport_iff`).
-/

namespace FilePlacement

namespace Release

/-! ## Reading -/

/-- A row of digits, and the number below `2 ^ 32` that it stands for. -/
def IsNumber (cs : List Char) (n : UInt32) : Prop :=
  cs ≠ [] ∧ (∀ c ∈ cs, '0' ≤ c ∧ c ≤ '9') ∧ Text.valueOf 10 cs = n.toNat

theorem number?_eq_some_iff {cs : List Char} {n : UInt32} : number? cs = some n ↔ IsNumber cs n := by
  have hdigits : (∀ c ∈ cs, Text.isDigitOf 10 c = true) ↔ ∀ c ∈ cs, '0' ≤ c ∧ c ≤ '9' :=
    forall₂_congr fun c _ => Text.isDigitOf_ten_iff
  unfold number? IsNumber
  constructor
  · intro h
    cases hm : Text.ofDigits? 10 cs with
    | none => simp [hm] at h
    | some m =>
      obtain ⟨hne, hall, hvalue⟩ := Text.ofDigits?_eq_some_iff.1 hm
      simp only [hm, Option.ite_none_right_eq_some, Option.some.injEq] at h
      obtain ⟨hfits, rfl⟩ := h
      exact ⟨hne, hdigits.1 hall, by rw [hvalue, UInt32.toNat_ofNat_of_lt' hfits]⟩
  · rintro ⟨hne, hall, hvalue⟩
    rw [Text.ofDigits?_eq_some_iff.2 ⟨hne, hdigits.2 hall, hvalue⟩]
    simp [n.toNat_lt]

theorem IsNumber.not_mem {cs : List Char} {n : UInt32} (h : IsNumber cs n) : '.' ∉ cs := fun hmem =>
  absurd (h.2.1 '.' hmem) (by decide)

/-- Two numbers with a point between them, or three and whatever stands behind a further point. -/
inductive Denotes : List Char → Release → Prop
  | two {a b : List Char} {major minor : UInt32} : IsNumber a major → IsNumber b minor →
      Denotes (a ++ '.' :: b) ⟨major, minor, 0⟩
  | three {a b c rest : List Char} {major minor patch : UInt32} : IsNumber a major → IsNumber b minor →
      IsNumber c patch → (∀ d ∈ rest.head?, d = '.') → Denotes (a ++ '.' :: (b ++ '.' :: (c ++ rest))) ⟨major, minor, patch⟩

/-- White space, a text that a release is read from, a suffix behind its mark if there is one, and white space. -/
def HasCore (text core : List Char) : Prop :=
  ∃ before suffix after, text = before ++ (core ++ suffix) ++ after ∧
    (∀ c ∈ before, Text.isBlank c = true) ∧ (∀ c ∈ after, Text.isBlank c = true) ∧
    (∀ c ∈ (core ++ suffix).head?, Text.isBlank c = false) ∧
    (∀ c ∈ (core ++ suffix).getLast?, Text.isBlank c = false) ∧
    (∀ c ∈ core, c ∉ ['-', '+', '~']) ∧ ∀ c ∈ suffix.head?, c ∈ ['-', '+', '~']

theorem isSuffixMark_iff {c : Char} : isSuffixMark c = true ↔ c ∈ ['-', '+', '~'] := by
  simp [isSuffixMark, or_assoc]

theorem core_eq_iff {text cs : List Char} : core text = cs ↔ HasCore text cs := by
  have hcut : (Text.trim text).takeWhile (fun c => !isSuffixMark c) = cs ↔
      Text.CutsTo isSuffixMark (Text.trim text) cs := Text.takeWhile_eq_iff
  have hmark : ∀ c, isSuffixMark c = false ↔ c ∉ ['-', '+', '~'] := fun c => by
    rw [← isSuffixMark_iff, Bool.not_eq_true]
  unfold core
  rw [hcut]
  constructor
  · rintro ⟨suffix, heq, hcs, hsuffix⟩
    obtain ⟨before, after, htext, hbefore, hafter, hfirst, hlast⟩ := Text.trim_eq_iff.1 (rfl : Text.trim text = _)
    rw [heq] at htext hfirst hlast
    exact ⟨before, suffix, after, htext, hbefore, hafter, hfirst, hlast, fun c hc => (hmark c).1 (hcs c hc),
      fun c hc => isSuffixMark_iff.1 (hsuffix c hc)⟩
  · rintro ⟨before, suffix, after, htext, hbefore, hafter, hfirst, hlast, hcs, hsuffix⟩
    have heq : Text.trim text = cs ++ suffix :=
      Text.trim_eq_iff.2 ⟨before, after, htext, hbefore, hafter, hfirst, hlast⟩
    exact ⟨suffix, heq, fun c hc => (hmark c).2 (hcs c hc), fun c hc => isSuffixMark_iff.2 (hsuffix c hc)⟩

theorem parse?_eq_some_iff {text : List Char} {r : Release} : parse? text = some r ↔ Denotes (core text) r := by
  unfold parse?
  constructor
  · intro h
    split at h
    · rename_i a b rest hpieces
      obtain ⟨t, hcore, -, ht⟩ := (Text.pieces_eq_cons_iff (List.cons_ne_nil b rest)).1 hpieces
      simp only [Option.bind_eq_bind, Option.bind_eq_some_iff, number?_eq_some_iff] at h
      obtain ⟨major, ha, minor, hb, h⟩ := h
      cases rest with
      | nil =>
        obtain ⟨rfl, -⟩ := Text.pieces_eq_singleton_iff.1 ht
        cases h
        rw [hcore]
        exact .two ha hb
      | cons c ps =>
        obtain ⟨u, rfl, -, hu⟩ := (Text.pieces_eq_cons_iff (List.cons_ne_nil c ps)).1 ht
        obtain ⟨v, rfl, -, hv⟩ := Text.exists_pieces_eq_cons_iff.1 ⟨ps, hu⟩
        simp only [Option.bind_eq_some_iff, number?_eq_some_iff] at h
        obtain ⟨patch, hc, h⟩ := h
        cases h
        rw [hcore]
        exact .three ha hb hc hv
    · cases h
  · intro h
    generalize core text = cs at h
    cases h with
    | two ha hb =>
      rw [Text.pieces_append, Text.pieces_of_not_mem ha.not_mem, Text.pieces_of_not_mem hb.not_mem]
      simp [number?_eq_some_iff.2 ha, number?_eq_some_iff.2 hb]
    | three ha hb hc hrest =>
      obtain ⟨ps, hps⟩ := Text.exists_pieces_eq_cons_iff.2 ⟨_, rfl, hc.not_mem, hrest⟩
      rw [Text.pieces_append, Text.pieces_append, Text.pieces_of_not_mem ha.not_mem, Text.pieces_of_not_mem hb.not_mem, hps]
      simp [number?_eq_some_iff.2 ha, number?_eq_some_iff.2 hb, number?_eq_some_iff.2 hc]

/-- What a text has to be for a release to be read from it. -/
def IsWritten (text : String) (r : Release) : Prop := ∃ cs, HasCore text.toList cs ∧ Denotes cs r

theorem parse?_toList_iff {text : String} {r : Release} : parse? text.toList = some r ↔ IsWritten text r := by
  rw [parse?_eq_some_iff]
  constructor
  · intro h
    exact ⟨_, core_eq_iff.1 rfl, h⟩
  · rintro ⟨cs, hcs, h⟩
    rwa [core_eq_iff.2 hcs]

theorem parse_eq_ok_iff {text : String} {r : Release} : parse text = .ok r ↔ IsWritten text r := by
  rw [← parse?_toList_iff]
  unfold parse
  cases parse? text.toList <;> simp

theorem parse_eq_error_iff {text : String} {f : Fault} :
    parse text = .error f ↔ (∀ r, ¬ IsWritten text r) ∧ f = .backend (.invalidRelease text) := by
  simp only [← parse?_toList_iff]
  unfold parse
  cases parse? text.toList <;> simp [eq_comm]

/-! ## Writing -/

theorem isNumber_digits (n : UInt32) : IsNumber (Text.digits 10 n.toNat) n :=
  ⟨Text.digits_ne_nil (by decide) _,
    fun _ hc => Text.isDigitOf_ten_iff.1 (Text.isDigitOf_of_mem_digits (by decide) (by decide) hc),
    Text.valueOf_digits (by decide) (by decide) _⟩

theorem format_toList (r : Release) : r.format.toList = Text.digits 10 r.major.toNat ++
    '.' :: (Text.digits 10 r.minor.toNat ++ '.' :: (Text.digits 10 r.patch.toNat ++ [])) := by
  simp [format, Text.decimal]

theorem denotes_format (r : Release) : Denotes r.format.toList r := by
  rw [format_toList]
  exact .three (isNumber_digits _) (isNumber_digits _) (isNumber_digits _) (by simp)

theorem mem_format {r : Release} {c : Char} (hc : c ∈ r.format.toList) : ('0' ≤ c ∧ c ≤ '9') ∨ c = '.' := by
  have hdigit : ∀ n : UInt32, c ∈ Text.digits 10 n.toNat → '0' ≤ c ∧ c ≤ '9' := fun n => (isNumber_digits n).2.1 c
  rw [format_toList] at hc
  simp only [List.append_nil, List.mem_append, List.mem_cons] at hc
  rcases hc with h | h | h | h | h
  · exact .inl (hdigit _ h)
  · exact .inr h
  · exact .inl (hdigit _ h)
  · exact .inr h
  · exact .inl (hdigit _ h)

theorem isBlank_of_mem_format {r : Release} {c : Char} (hc : c ∈ r.format.toList) : Text.isBlank c = false := by
  rcases mem_format hc with h | rfl
  · exact Text.isBlank_of_digit h
  · decide

theorem isSuffixMark_of_mem_format {r : Release} {c : Char} (hc : c ∈ r.format.toList) : isSuffixMark c = false := by
  have hpoint : isSuffixMark '.' = false := by decide
  rcases mem_format hc with h | rfl
  · refine Bool.eq_false_iff.2 fun hmark => ?_
    have hnone : ∀ d ∈ ['-', '+', '~'], ¬ ('0' ≤ d ∧ d ≤ '9') := by simp
    exact hnone c (isSuffixMark_iff.1 hmark) h
  · exact hpoint

/-- What stands behind a release, once trimmed, is a suffix with its mark or nothing. -/
theorem head?_dropTrailing_suffix {suffix after : List Char} (hsuffix : ∀ c ∈ suffix.head?, c ∈ ['-', '+', '~'])
    (hafter : ∀ c ∈ after, Text.isBlank c = true) :
    ∀ c ∈ (Text.dropTrailing Text.isBlank (suffix ++ after)).head?, isSuffixMark c = true := by
  intro c hc
  cases suffix with
  | nil =>
    rw [List.nil_append, Text.dropTrailing_eq_rdropWhile, List.rdropWhile_eq_nil_iff.2 hafter] at hc
    cases hc
  | cons d suffix =>
    obtain ⟨tail, hwhole, -⟩ := Text.dropTrailing_append Text.isBlank (d :: suffix ++ after)
    have hhead := congrArg List.head? hwhole.symm
    rw [List.head?_append, hc] at hhead
    cases hhead
    exact isSuffixMark_iff.2 (hsuffix c rfl)

/-- A release is read back from what it is written as, whatever suffix and white space there is around it. -/
theorem parse_format (r : Release) (before suffix after : String) (hbefore : ∀ c ∈ before.toList, Text.isBlank c = true)
    (hsuffix : ∀ c ∈ suffix.toList.head?, c ∈ ['-', '+', '~']) (hafter : ∀ c ∈ after.toList, Text.isBlank c = true) :
    parse (before ++ r.format ++ suffix ++ after) = .ok r := by
  have hne : r.format.toList ≠ [] := by simp [format_toList]
  have hfirst := List.head?_eq_some_head hne
  have hlast := List.getLast?_eq_some_getLast hne
  have htrim := Text.trimBy_append_rest hbefore hfirst hlast (isBlank_of_mem_format (List.head_mem hne))
    (isBlank_of_mem_format (List.getLast_mem hne)) (suffix.toList ++ after.toList)
  have hcore : core (before ++ r.format ++ suffix ++ after).toList = r.format.toList := by
    unfold core Text.trim
    rw [Text.takeWhile_eq_iff]
    refine ⟨Text.dropTrailing Text.isBlank (suffix.toList ++ after.toList), ?_, fun c => isSuffixMark_of_mem_format,
      head?_dropTrailing_suffix hsuffix hafter⟩
    rw [← htrim]
    simp
  have hparse : parse? (before ++ r.format ++ suffix ++ after).toList = some r := by
    rw [parse?_eq_some_iff, hcore]
    exact denotes_format r
  unfold parse
  rw [hparse]

/-! ## Order -/

/-- The first number decides that differs. -/
def Precedes (a b : Release) : Prop :=
  a.major.toNat < b.major.toNat ∨ a.major = b.major ∧
    (a.minor.toNat < b.minor.toNat ∨ a.minor = b.minor ∧ a.patch.toNat < b.patch.toNat)

end Release

theorem compare_eq_toNat (a b : UInt32) : Ord.compare a b = Ord.compare a.toNat b.toNat := by
  change compareOfLessAndEq a b = compareOfLessAndEq a.toNat b.toNat
  unfold compareOfLessAndEq
  simp only [UInt32.lt_iff_toNat_lt, ← UInt32.toNat_inj]

namespace Release

theorem precedes_iff {a b : Release} : Precedes a b ↔ a.numbers < b.numbers := by
  simp [Precedes, numbers, List.cons_lt_cons_iff, ← UInt32.toNat_inj]

theorem compare_eq_lt_iff {a b : Release} : compare a b = .lt ↔ Precedes a b := by
  unfold compare Precedes
  simp only [compare_eq_toNat, Nat.compare_eq_ite_lt, ← UInt32.toNat_inj]
  split_ifs <;> simp [Ordering.then] <;> omega

instance : Std.TransCmp compare :=
  inferInstanceAs (Std.TransCmp (compareLex (compareOn major) (compareLex (compareOn minor) (compareOn patch))))

instance : Std.LawfulEqCmp compare where
  eq_of_compare {a b} h := by
    unfold compare at h
    simp only [Ordering.then_eq_eq, Std.LawfulEqOrd.compare_eq_iff_eq] at h
    obtain ⟨hmajor, hminor, hpatch⟩ := h
    cases a
    cases b
    simp_all

theorem compare_eq_gt_iff {a b : Release} : compare a b = .gt ↔ Precedes b a :=
  Std.OrientedCmp.gt_iff_lt.trans compare_eq_lt_iff

theorem Precedes.trans {a b c : Release} (hab : Precedes a b) (hbc : Precedes b c) : Precedes a c := by
  rw [← compare_eq_lt_iff] at *
  exact Std.TransCmp.lt_trans hab hbc

theorem canImport_iff_not_precedes (r : Release) : r.canImport = true ↔ ¬ Precedes r firstWithImport := by
  rw [← compare_eq_lt_iff]
  unfold canImport
  cases compare r firstWithImport <;> decide

theorem canImport_iff (r : Release) : r.canImport = true ↔ ¬ r.numbers < [8, 4, 0] := by
  rw [canImport_iff_not_precedes, precedes_iff]
  rfl

/-- No later release loses what an earlier one can do. -/
theorem canImport_of_not_precedes {a b : Release} (h : ¬ Precedes b a) (ha : a.canImport = true) :
    b.canImport = true := by
  rw [canImport_iff_not_precedes] at *
  intro hb
  cases hcompare : compare a b with
  | lt => exact ha ((compare_eq_lt_iff.1 hcompare).trans hb)
  | eq => exact ha (Std.LawfulEqCmp.eq_of_compare hcompare ▸ hb)
  | gt => exact h (compare_eq_gt_iff.1 hcompare)

/-- **Releases are read and ordered by their numbers.** A text is a release just if two or three numbers can be read from
what stands between its white space and its suffix, and is refused otherwise. A release that is written, with any suffix
and any white space, is read as itself. The order is the total one of the numbers, the most significant first, and a
release can import just if it does not come before 8.4.0. -/
theorem read_and_ordered_by_numbers :
    (∀ text r, parse text = .ok r ↔ IsWritten text r) ∧
    (∀ text f, parse text = .error f ↔ (∀ r, ¬ IsWritten text r) ∧ f = .backend (.invalidRelease text)) ∧
    (∀ (r : Release) (before suffix after : String), (∀ c ∈ before.toList, Text.isBlank c = true) →
      (∀ c ∈ suffix.toList.head?, c ∈ ['-', '+', '~']) → (∀ c ∈ after.toList, Text.isBlank c = true) →
      parse (before ++ r.format ++ suffix ++ after) = .ok r) ∧
    (∀ text r, parse text = .ok r → parse r.format = .ok r) ∧
    (∀ a b, (compare a b = .lt ↔ Precedes a b) ∧ (compare a b = .eq ↔ a = b) ∧ (compare a b = .gt ↔ Precedes b a)) ∧
    (∀ a b c, Precedes a b → Precedes b c → Precedes a c) ∧
    (∀ r : Release, r.canImport = true ↔ ¬ Precedes r ⟨8, 4, 0⟩) ∧
    ∀ a b, ¬ Precedes b a → a.canImport = true → b.canImport = true := by
  refine ⟨fun _ _ => parse_eq_ok_iff, fun _ _ => parse_eq_error_iff, parse_format, ?_, ?_,
    fun _ _ _ => Precedes.trans, canImport_iff_not_precedes, fun _ _ => canImport_of_not_precedes⟩
  · intro text r _
    have hbare := parse_format r "" "" "" (by simp) (by simp) (by simp)
    simpa using hbare
  · intro a b
    exact ⟨compare_eq_lt_iff, Std.LawfulEqCmp.compare_eq_iff_eq, compare_eq_gt_iff⟩

/-- Release 8.10.3 with a suffix behind it, which comes behind 8.4.0 although its text does not. -/
theorem read_and_ordered_by_numbers_ten :
    parse "\t 8.10.3-1~bpo 2 \n" = .ok ⟨8, 10, 3⟩ ∧ compare ⟨8, 10, 3⟩ ⟨8, 4, 0⟩ = .gt ∧
      canImport ⟨8, 10, 3⟩ = true := by
  obtain ⟨-, -, hread, -, horder, -, himport, hmono⟩ := read_and_ordered_by_numbers
  have hprecedes : Precedes ⟨8, 4, 0⟩ ⟨8, 10, 3⟩ := .inr ⟨rfl, .inl (by decide)⟩
  have hnot : ∀ r, r = ⟨8, 4, 0⟩ ∨ r = ⟨8, 10, 3⟩ → ¬ Precedes r ⟨8, 4, 0⟩ := by
    rintro r (rfl | rfl) <;> simp [Precedes]
  refine ⟨hread ⟨8, 10, 3⟩ "\t " "-1~bpo 2" " \n" ?_ (by simp) ?_, ?_, ?_⟩
  · simp [Text.isBlank]
  · simp [Text.isBlank]
  · exact (horder _ _).2.2.2 hprecedes
  · exact hmono ⟨8, 4, 0⟩ _ (hnot _ (.inr rfl)) ((himport _).2 (hnot _ (.inl rfl)))

end Release

end FilePlacement
