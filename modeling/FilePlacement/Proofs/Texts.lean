import FilePlacement.Proofs.Numerals
import FilePlacement.Text.Blank
import FilePlacement.Text.Pieces
import Mathlib.Data.List.DropRight

/-!
# Ends and pieces of texts

Trimming and cutting are determined by what they leave. `trimBy` leaves the one part with the margins beside it and no
margin at its own ends (`trimBy_eq_iff`), `takeWhile` what stands in front of the first mark (`takeWhile_eq_iff`), and
`pieces` texts without separators which the separators put together again (`pieces_eq_cons_iff`).
-/

namespace FilePlacement.Text

section
variable {p : Char → Bool} {text cs before after : List Char}

/-! ## Ends -/

theorem dropTrailing_eq_rdropWhile (p : Char → Bool) (cs : List Char) : dropTrailing p cs = cs.rdropWhile p := rfl

theorem dropTrailing_append (p : Char → Bool) (cs : List Char) :
    ∃ tail, cs = dropTrailing p cs ++ tail ∧ ∀ c ∈ tail, p c = true :=
  ⟨cs.rtakeWhile p, List.rdropWhile_append_rtakeWhile.symm, fun _ => List.mem_rtakeWhile_imp⟩

theorem getLast?_dropTrailing {c : Char} (hc : (dropTrailing p cs).getLast? = some c) : p c = false := by
  have hne : cs.rdropWhile p ≠ [] := by
    rintro hnil
    rw [dropTrailing_eq_rdropWhile, hnil] at hc
    cases hc
  rw [dropTrailing_eq_rdropWhile, List.getLast?_eq_some_getLast hne] at hc
  rw [← Option.some.inj hc]
  exact Bool.eq_false_iff.2 (List.rdropWhile_last_not p cs hne)

/-- What is dropped at the end stands behind the last character that stays. -/
theorem dropTrailing_append_of_last {z : Char} (hlast : cs.getLast? = some z) (hz : p z = false) (rest : List Char) :
    dropTrailing p (cs ++ rest) = cs ++ dropTrailing p rest := by
  simp only [dropTrailing_eq_rdropWhile]
  induction rest using List.reverseRecOn with
  | nil =>
    obtain ⟨front, rfl⟩ := List.getLast?_eq_some_iff.1 hlast
    simp [hz]
  | append_singleton rest c ih =>
    rw [← List.append_assoc, List.rdropWhile_concat, List.rdropWhile_concat, ih]
    split <;> simp

/-- Of a part that neither begins nor ends with a margin, trimming drops nothing. -/
theorem trimBy_append_rest {a z : Char} (hbefore : ∀ c ∈ before, p c = true) (hfirst : cs.head? = some a)
    (hlast : cs.getLast? = some z) (ha : p a = false) (hz : p z = false) (rest : List Char) :
    trimBy p (before ++ cs ++ rest) = cs ++ dropTrailing p rest := by
  have hfront : (before ++ cs ++ rest).dropWhile p = cs ++ rest := by
    obtain ⟨back, rfl⟩ := List.head?_eq_some_iff.1 hfirst
    rw [List.append_assoc, List.dropWhile_append_of_pos hbefore, List.cons_append,
      List.dropWhile_cons_of_neg (by simp [ha])]
  rw [trimBy, hfront, dropTrailing_append_of_last hlast hz]

/-- White space on both sides is dropped, and no more than that. -/
theorem trimBy_append {a z : Char} (hbefore : ∀ c ∈ before, p c = true) (hafter : ∀ c ∈ after, p c = true)
    (hfirst : cs.head? = some a) (hlast : cs.getLast? = some z) (ha : p a = false) (hz : p z = false) :
    trimBy p (before ++ cs ++ after) = cs := by
  rw [trimBy_append_rest hbefore hfirst hlast ha hz, dropTrailing_eq_rdropWhile, List.rdropWhile_eq_nil_iff.2 hafter,
    List.append_nil]

/-- A text is this part between margins, and the part neither begins nor ends with one. -/
def TrimsTo (p : Char → Bool) (text cs : List Char) : Prop :=
  ∃ before after, text = before ++ cs ++ after ∧ (∀ c ∈ before, p c = true) ∧ (∀ c ∈ after, p c = true) ∧
    (∀ c ∈ cs.head?, p c = false) ∧ ∀ c ∈ cs.getLast?, p c = false

theorem trimBy_eq_iff : trimBy p text = cs ↔ TrimsTo p text cs := by
  constructor
  · rintro rfl
    obtain ⟨after, hdrop, hafter⟩ := dropTrailing_append p (text.dropWhile p)
    refine ⟨text.takeWhile p, after, ?_, fun c => List.mem_takeWhile_imp, hafter, ?_, fun c => getLast?_dropTrailing⟩
    · rw [List.append_assoc, trimBy, ← hdrop, List.takeWhile_append_dropWhile]
    · intro c hc
      have hhead := List.head?_dropWhile_not p text
      rw [hdrop, List.head?_append, ← trimBy, hc] at hhead
      simpa using hhead
  · rintro ⟨before, after, rfl, hbefore, hafter, hfirst, hlast⟩
    cases cs with
    | nil =>
      have hdrop : (before ++ [] ++ after).dropWhile p = [] := by
        simpa [or_imp, forall_and] using ⟨hbefore, hafter⟩
      rw [trimBy, hdrop]
      rfl
    | cons a rest =>
      have hz := List.getLast?_eq_some_getLast (List.cons_ne_nil a rest)
      exact trimBy_append hbefore hafter rfl hz (hfirst a rfl) (hlast _ hz)

theorem trim_eq_iff : trim text = cs ↔ TrimsTo isBlank text cs := trimBy_eq_iff

theorem trimBy_eq_self (h : ∀ c ∈ cs, p c = false) : trimBy p cs = cs :=
  trimBy_eq_iff.2 ⟨[], [], by simp, by simp, by simp, fun c hc => h c (List.mem_of_head? hc),
    fun c hc => h c (List.mem_of_getLast? hc)⟩

/-- A text is cut off at the first mark, if there is one. -/
def CutsTo (p : Char → Bool) (text cs : List Char) : Prop :=
  ∃ rest, text = cs ++ rest ∧ (∀ c ∈ cs, p c = false) ∧ ∀ c ∈ rest.head?, p c = true

theorem takeWhile_eq_iff : text.takeWhile (fun c => !p c) = cs ↔ CutsTo p text cs := by
  constructor
  · rintro rfl
    refine ⟨text.dropWhile fun c => !p c, List.takeWhile_append_dropWhile.symm, fun c hc => ?_, fun c hc => ?_⟩
    · simpa using List.mem_takeWhile_imp hc
    · have hhead := List.head?_dropWhile_not (fun c => !p c) text
      rw [hc] at hhead
      simpa using hhead
  · rintro ⟨rest, rfl, hcs, hrest⟩
    rw [List.takeWhile_append_of_pos (by simpa using hcs)]
    cases rest with
    | nil => simp
    | cons c rest => simp [hrest c rfl]

theorem isBlank_of_digit {c : Char} (hc : '0' ≤ c ∧ c ≤ '9') : isBlank c = false := by
  simp only [Char.le_def, UInt32.le_iff_toNat_le] at hc
  have htoNat : c.toNat = c.val.toNat := rfl
  obtain ⟨hlow, hhigh⟩ := hc
  change 48 ≤ c.val.toNat at hlow
  change c.val.toNat ≤ 57 at hhigh
  simp only [isBlank, htoNat, Bool.or_eq_false_iff, Bool.and_eq_false_iff, decide_eq_false_iff_not]
  omega

theorem isBlank_of_ofDigits? {n : Nat} (h : ofDigits? 10 cs = some n) {c : Char} (hc : c ∈ cs) : isBlank c = false := by
  obtain ⟨-, hdigits, -⟩ := ofDigits?_eq_some_iff.1 h
  exact isBlank_of_digit (isDigitOf_ten_iff.1 (hdigits c hc))

end

/-! ## Pieces -/

section
variable {sep : Char} {text p q : List Char} {ps : List (List Char)}

theorem pieces_eq_singleton_iff : pieces sep text = [p] ↔ text = p ∧ sep ∉ p := by
  constructor
  · intro h
    have htext := join_pieces sep text
    rw [h] at htext
    exact ⟨htext.symm, not_mem_of_mem_pieces (h ▸ List.mem_singleton_self p)⟩
  · rintro ⟨rfl, h⟩
    exact pieces_of_not_mem h

/-- A piece with others behind it ends at the first separator. -/
theorem pieces_eq_cons_iff (hps : ps ≠ []) :
    pieces sep text = p :: ps ↔ ∃ rest, text = p ++ sep :: rest ∧ sep ∉ p ∧ pieces sep rest = ps := by
  constructor
  · intro h
    have hp : sep ∉ p := not_mem_of_mem_pieces (h ▸ List.mem_cons_self)
    have htext := join_pieces sep text
    rw [h] at htext
    cases ps with
    | nil => exact absurd rfl hps
    | cons q ps =>
      simp only [join] at htext
      rw [List.append_assoc, List.singleton_append] at htext
      rw [← htext, pieces_append, pieces_of_not_mem hp] at h
      exact ⟨_, htext.symm, hp, (List.cons.inj h).2⟩
  · rintro ⟨rest, rfl, hp, rfl⟩
    rw [pieces_append, pieces_of_not_mem hp, List.singleton_append]

theorem exists_pieces_eq_cons_iff :
    (∃ ps, pieces sep text = p :: ps) ↔ ∃ rest, text = p ++ rest ∧ sep ∉ p ∧ ∀ c ∈ rest.head?, c = sep := by
  constructor
  · rintro ⟨ps, h⟩
    by_cases hps : ps = []
    · rw [hps, pieces_eq_singleton_iff] at h
      exact ⟨[], by simp [h.1], h.2, by simp⟩
    · obtain ⟨rest, rfl, hp, -⟩ := (pieces_eq_cons_iff hps).1 h
      exact ⟨sep :: rest, rfl, hp, by simp⟩
  · rintro ⟨rest, rfl, hp, hrest⟩
    cases rest with
    | nil => exact ⟨[], by simp [pieces_of_not_mem hp]⟩
    | cons c rest =>
      obtain rfl := hrest c rfl
      exact ⟨pieces c rest, by rw [pieces_append, pieces_of_not_mem hp, List.singleton_append]⟩

end

end FilePlacement.Text
