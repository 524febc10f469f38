/-!
# Cutting texts at separators

`cut` takes a text apart at the first separator, `cutLast` at the last one, `pieces` at every
one. Nothing is lost: putting the separator back gives the text (`eq_of_cut`, `join_pieces`).
-/

namespace FilePlacement.Text

/-- The text before the first separator and the text after it. -/
def cut (sep : Char) : List Char → Option (List Char × List Char)
  | [] => none
  | c :: r => if c = sep then some ([], r) else (cut sep r).map fun (a, b) => (c :: a, b)

theorem cut_eq_none_iff {sep : Char} {s : List Char} : cut sep s = none ↔ sep ∉ s := by
  induction s with
  | nil => simp [cut]
  | cons c r ih =>
    by_cases h : c = sep
    · simp [cut, h]
    · simp [cut, h, ih, Ne.symm h]

theorem cut_eq_some_iff {sep : Char} {s a b : List Char} : cut sep s = some (a, b) ↔ s = a ++ sep :: b ∧ sep ∉ a := by
  induction s generalizing a with
  | nil => simp [cut]
  | cons c r ih =>
    by_cases h : c = sep
    · subst h
      simp only [cut, if_true, Option.some.injEq, Prod.mk.injEq]
      constructor
      · rintro ⟨rfl, rfl⟩; simp
      · rintro ⟨heq, hmem⟩
        cases a with
        | nil => simpa using heq
        | cons x a => simp at heq hmem; exact absurd heq.1 hmem.1
    · simp only [cut, h, if_false, Option.map_eq_some_iff, Prod.mk.injEq, Prod.exists]
      constructor
      · rintro ⟨x, y, hxy, rfl, rfl⟩
        obtain ⟨rfl, hm⟩ := ih.1 hxy
        simp [hm, Ne.symm h]
      · rintro ⟨heq, hmem⟩
        cases a with
        | nil => simp at heq; exact absurd heq.1 h
        | cons x a =>
          simp at heq hmem
          exact ⟨a, b, ih.2 ⟨heq.2, hmem.2⟩, by simp [heq.1]⟩

/-- Cutting loses only the separator. -/
theorem eq_of_cut {sep : Char} {s a b : List Char} (h : cut sep s = some (a, b)) : s = a ++ sep :: b :=
  (cut_eq_some_iff.1 h).1

/-- Cuts at the first separator and refuses an empty half. -/
def cutProper (sep : Char) (s : List Char) : Option (List Char × List Char) :=
  match cut sep s with
  | some (a, b) => if a.isEmpty || b.isEmpty then none else some (a, b)
  | none => none

theorem cutProper_eq_some_iff {sep : Char} {s a b : List Char} :
    cutProper sep s = some (a, b) ↔ s = a ++ sep :: b ∧ sep ∉ a ∧ a ≠ [] ∧ b ≠ [] := by
  unfold cutProper
  cases h : cut sep s with
  | none =>
    simp only [reduceCtorEq, false_iff]
    rintro ⟨rfl, hm, -⟩
    exact cut_eq_none_iff.1 h (by simp)
  | some p =>
    obtain ⟨x, y⟩ := p
    obtain ⟨rfl, hx⟩ := cut_eq_some_iff.1 h
    by_cases he : x.isEmpty || y.isEmpty
    · simp only [he, if_true, reduceCtorEq, false_iff]
      rintro ⟨heq, ha, hna, hnb⟩
      obtain ⟨rfl, rfl⟩ : x = a ∧ y = b := by
        have := cut_eq_some_iff.2 ⟨heq, ha⟩
        rw [h] at this
        simpa using this
      simp_all
    · simp only [he, if_false, Bool.false_eq_true, Option.some.injEq, Prod.mk.injEq]
      constructor
      · rintro ⟨rfl, rfl⟩
        simp_all
      · rintro ⟨heq, ha, -, -⟩
        have := cut_eq_some_iff.2 ⟨heq, ha⟩
        rw [h] at this
        simpa using this

/-- The text before the last separator and the text after it. -/
def cutLast (sep : Char) (s : List Char) : Option (List Char × List Char) :=
  (cut sep s.reverse).map fun (b, a) => (a.reverse, b.reverse)

/-- The texts between the separators; there is one more than there are separators. -/
def pieces (sep : Char) : List Char → List (List Char)
  | [] => [[]]
  | c :: r =>
    if c = sep then [] :: pieces sep r
    else match pieces sep r with
      | [] => [[c]]
      | p :: ps => (c :: p) :: ps

/-- Puts a separator between texts. -/
def join (sep : List Char) : List (List Char) → List Char
  | [] => []
  | [p] => p
  | p :: q :: ps => p ++ sep ++ join sep (q :: ps)

theorem pieces_ne_nil (sep : Char) (s : List Char) : pieces sep s ≠ [] := by
  cases s with
  | nil => simp [pieces]
  | cons c r =>
    unfold pieces
    split
    · simp
    · split <;> simp

theorem join_pieces (sep : Char) (s : List Char) : join [sep] (pieces sep s) = s := by
  induction s with
  | nil => simp [pieces, join]
  | cons c r ih =>
    unfold pieces
    by_cases h : c = sep
    · subst h
      simp only [if_true]
      cases hp : pieces c r with
      | nil => exact absurd hp (pieces_ne_nil c r)
      | cons p ps => simpa [join, hp] using ih
    · simp only [h, if_false]
      cases hp : pieces sep r with
      | nil => exact absurd hp (pieces_ne_nil sep r)
      | cons p ps =>
        rw [hp] at ih
        cases ps with
        | nil => simpa [join] using ih
        | cons q qs => simpa [join] using ih

theorem not_mem_of_mem_pieces {sep : Char} {s p : List Char} (h : p ∈ pieces sep s) : sep ∉ p := by
  induction s generalizing p with
  | nil => simp [pieces] at h; simp [h]
  | cons c r ih =>
    unfold pieces at h
    by_cases hc : c = sep
    · simp only [hc, if_true, List.mem_cons] at h
      rcases h with rfl | h
      · simp
      · exact ih h
    · simp only [hc, if_false] at h
      cases hp : pieces sep r with
      | nil => exact absurd hp (pieces_ne_nil sep r)
      | cons q qs =>
        rw [hp] at h ih
        simp only [List.mem_cons] at h
        rcases h with rfl | h
        · simp [Ne.symm hc, ih (p := q) (by simp)]
        · exact ih (by simp [h])

theorem mem_of_mem_pieces {sep c : Char} {s p : List Char} (h : p ∈ pieces sep s) (hc : c ∈ p) : c ∈ s := by
  induction s generalizing p with
  | nil =>
    obtain rfl := List.mem_singleton.1 h
    exact hc
  | cons d r ih =>
    unfold pieces at h
    split at h
    · rcases List.mem_cons.1 h with rfl | h
      · exact absurd hc List.not_mem_nil
      · exact List.mem_cons_of_mem d (ih h hc)
    · cases hp : pieces sep r with
      | nil => exact absurd hp (pieces_ne_nil sep r)
      | cons q qs =>
        rw [hp] at h ih
        rcases List.mem_cons.1 h with rfl | h
        · exact (List.mem_cons.1 hc).elim (fun hd => hd ▸ List.mem_cons_self) fun hc =>
            List.mem_cons_of_mem d (ih List.mem_cons_self hc)
        · exact List.mem_cons_of_mem d (ih (List.mem_cons_of_mem q h) hc)

theorem pieces_of_not_mem {sep : Char} {s : List Char} (h : sep ∉ s) : pieces sep s = [s] := by
  induction s with
  | nil => rfl
  | cons c r ih =>
    rw [List.mem_cons, not_or] at h
    rw [pieces, if_neg (Ne.symm h.1), ih h.2]

theorem pieces_append (sep : Char) (s t : List Char) : pieces sep (s ++ sep :: t) = pieces sep s ++ pieces sep t := by
  induction s with
  | nil => simp [pieces]
  | cons c r ih =>
    by_cases h : c = sep
    · simp [pieces, h, ih]
    · cases hp : pieces sep r with
      | nil => exact absurd hp (pieces_ne_nil sep r)
      | cons p ps => simp [pieces, h, ih, hp]

/-- What has no separator goes on with the last piece. -/
theorem pieces_append_of_not_mem {sep : Char} (s : List Char) {t : List Char} (ht : sep ∉ t) :
    ∃ front last, pieces sep s = front ++ [last] ∧ pieces sep (s ++ t) = front ++ [last ++ t] := by
  induction s with
  | nil => exact ⟨[], [], rfl, pieces_of_not_mem ht⟩
  | cons c r ih =>
    obtain ⟨front, last, hr, hrt⟩ := ih
    by_cases h : c = sep
    · exact ⟨[] :: front, last, by simp [pieces, h, hr], by simp [pieces, h, hrt]⟩
    · cases front with
      | nil => exact ⟨[], c :: last, by simp [pieces, h, hr], by simp [pieces, h, hrt]⟩
      | cons p ps => exact ⟨(c :: p) :: ps, last, by simp [pieces, h, hr], by simp [pieces, h, hrt]⟩

/-- Whether `needle` stands anywhere in a text. -/
def contains (needle : List Char) : List Char → Bool
  | [] => needle.isEmpty
  | c :: r => needle.isPrefixOf (c :: r) || contains needle r

theorem cutLast_append {sep : Char} (s : List Char) {t : List Char} (ht : sep ∉ t) :
    cutLast sep (s ++ sep :: t) = some (s, t) := by
  have hcut : cut sep (s ++ sep :: t).reverse = some (t.reverse, s.reverse) := by
    refine cut_eq_some_iff.2 ⟨by simp, ?_⟩
    rwa [List.mem_reverse]
  unfold cutLast
  rw [hcut]
  simp

theorem eq_of_cutLast {sep : Char} {s a b : List Char} (h : cutLast sep s = some (a, b)) : s = a ++ sep :: b := by
  obtain ⟨⟨x, y⟩, hcut, heq⟩ := Option.map_eq_some_iff.1 h
  obtain ⟨rfl, rfl⟩ := Prod.mk.inj heq
  have hreverse := congrArg List.reverse (eq_of_cut hcut)
  simpa using hreverse

end FilePlacement.Text
