import FilePlacement.Text.Numeral
import Mathlib.Tactic.IntervalCases

/-!
# Reading numerals back

The digits of a number read back as the number (`valueOf_digits`), also behind zeros that only make
them wider (`ofDigits?_zeroPadded`).
-/

namespace FilePlacement.Text

theorem digitValue_digitChar {d : Nat} (hd : d < 16) : digitValue d.digitChar = d := by
  interval_cases d <;> rfl

theorem ofDigits?_eq_some_iff {base n : Nat} {cs : List Char} :
    ofDigits? base cs = some n ↔ cs ≠ [] ∧ (∀ c ∈ cs, isDigitOf base c = true) ∧ valueOf base cs = n := by
  unfold ofDigits?
  simp only [Option.ite_none_left_eq_some, Bool.or_eq_true, Bool.not_eq_true', not_or, Bool.not_eq_true,
    List.isEmpty_eq_false_iff, Bool.not_eq_false, List.all_eq_true, Option.some.injEq, and_assoc]

/-- Up to ten the digits are the first characters from `0`. -/
theorem isDigitOf_iff {base : Nat} (hbase : base ≤ 10) {c : Char} :
    isDigitOf base c = true ↔ '0' ≤ c ∧ c.toNat < '0'.toNat + base := by
  have hle : ∀ a b : Char, a ≤ b ↔ a.toNat ≤ b.toNat := fun _ _ => UInt32.le_iff_toNat_le
  have h0 : '0'.toNat = 48 := rfl
  have h9 : '9'.toNat = 57 := rfl
  unfold isDigitOf digitValue
  rw [decide_eq_true_eq]
  simp only [hle, h0, h9]
  split
  · omega
  · split
    · omega
    · split <;> omega

theorem isDigitOf_ten_iff {c : Char} : isDigitOf 10 c = true ↔ '0' ≤ c ∧ c ≤ '9' := by
  have hle : c ≤ '9' ↔ c.toNat < 58 := UInt32.le_iff_toNat_le.trans Nat.lt_succ_iff.symm
  rw [isDigitOf_iff (Nat.le_refl 10), hle]
  rfl

theorem valueOf_concat (base : Nat) (cs : List Char) (c : Char) :
    valueOf base (cs ++ [c]) = valueOf base cs * base + digitValue c := by
  simp [valueOf, List.foldl_append]

/-- A number of more than one digit ends in its rest by the base. -/
theorem digits_of_le {base n : Nat} (hbase : 1 < base) (hn : base ≤ n) :
    digits base n = digits base (n / base) ++ [(n % base).digitChar] := by
  unfold digits
  rw [Nat.toDigits_eq_if hbase, if_neg (Nat.not_lt.2 hn)]

theorem digits_of_lt {base n : Nat} (hn : n < base) : digits base n = [n.digitChar] := Nat.toDigits_of_lt_base hn

theorem digits_ne_nil {base : Nat} (hbase : 1 < base) (n : Nat) : digits base n ≠ [] := by
  by_cases hn : n < base
  · simp [digits_of_lt hn]
  · simp [digits_of_le hbase (Nat.not_lt.1 hn)]

section
variable {base : Nat} (hbase : 1 < base) (hle : base ≤ 16)

include hbase hle

theorem valueOf_digits (n : Nat) : valueOf base (digits base n) = n := by
  induction n using Nat.strong_induction_on with
  | _ n ih =>
    by_cases hn : n < base
    · rw [digits_of_lt hn]
      simp [valueOf, digitValue_digitChar (show n < 16 by omega)]
    · have hmod := Nat.mod_lt n (show 0 < base by omega)
      rw [digits_of_le hbase (by omega), valueOf_concat, ih (n / base) (Nat.div_lt_self (by omega) hbase),
        digitValue_digitChar (by omega), Nat.mul_comm]
      exact Nat.div_add_mod n base

theorem isDigitOf_of_mem_digits {n : Nat} {c : Char} (hc : c ∈ digits base n) : isDigitOf base c = true := by
  induction n using Nat.strong_induction_on with
  | _ n ih =>
    by_cases hn : n < base
    · rw [digits_of_lt hn, List.mem_singleton] at hc
      simp [isDigitOf, hc, digitValue_digitChar (show n < 16 by omega), hn]
    · have hmod := Nat.mod_lt n (show 0 < base by omega)
      rw [digits_of_le hbase (by omega), List.mem_append, List.mem_singleton] at hc
      rcases hc with hc | rfl
      · exact ih (n / base) (Nat.div_lt_self (by omega) hbase) hc
      · simp [isDigitOf, digitValue_digitChar (show n % base < 16 by omega), hmod]

theorem valueOf_zeroPadded (width n : Nat) : valueOf base (zeroPadded width (digits base n)) = n := by
  have hzeros : ∀ k, (List.replicate k '0').foldl (fun m c => m * base + digitValue c) 0 = 0 := by
    intro k
    induction k with
    | zero => rfl
    | succ k ih => simpa [List.replicate_succ, digitValue] using ih
  unfold valueOf zeroPadded
  rw [List.foldl_append, hzeros]
  exact valueOf_digits hbase hle n

theorem isDigitOf_of_mem_zeroPadded {width n : Nat} {c : Char} (hc : c ∈ zeroPadded width (digits base n)) :
    isDigitOf base c = true := by
  rcases List.mem_append.1 hc with hc | hc
  · obtain rfl := List.eq_of_mem_replicate hc
    simp [isDigitOf, digitValue]
    omega
  · exact isDigitOf_of_mem_digits hbase hle hc

theorem ofDigits?_zeroPadded (width n : Nat) : ofDigits? base (zeroPadded width (digits base n)) = some n := by
  have hall : (zeroPadded width (digits base n)).all (isDigitOf base) = true :=
    List.all_eq_true.2 fun c hc => isDigitOf_of_mem_zeroPadded hbase hle hc
  have hne : zeroPadded width (digits base n) ≠ [] := fun hnil =>
    digits_ne_nil hbase n (List.append_eq_nil_iff.1 hnil).2
  unfold ofDigits?
  simp [hall, hne, valueOf_zeroPadded hbase hle]

end

theorem ofSigned?_minus (cs : List Char) :
    ofSigned? ('-' :: cs) = (ofDigits? 10 cs).map fun (n : Nat) => -(n : Int) := by
  simp only [ofSigned?]
  cases ofDigits? 10 cs <;> rfl

theorem ofSigned?_plus (cs : List Char) : ofSigned? ('+' :: cs) = (ofDigits? 10 cs).map Int.ofNat := rfl

theorem ofSigned?_of_ne {c : Char} (hminus : c ≠ '-') (hplus : c ≠ '+') (cs : List Char) :
    ofSigned? (c :: cs) = (ofDigits? 10 (c :: cs)).map Int.ofNat := by
  unfold ofSigned?
  split
  · rename_i heq
    exact absurd (List.cons.inj heq).1 hminus
  · rename_i heq
    exact absurd (List.cons.inj heq).1 hplus
  · rfl

theorem ofSigned?_zeroPadded (width n : Nat) : ofSigned? (zeroPadded width (digits 10 n)) = some (n : Int) := by
  have hread : ofDigits? 10 (zeroPadded width (digits 10 n)) = some n :=
    ofDigits?_zeroPadded (by decide) (by decide) width n
  cases hcs : zeroPadded width (digits 10 n) with
  | nil => exact absurd (List.append_eq_nil_iff.1 hcs).2 (digits_ne_nil (by decide) n)
  | cons c cs =>
    have hmem : c ∈ zeroPadded width (digits 10 n) := hcs ▸ List.mem_cons_self
    have hc : isDigitOf 10 c = true := isDigitOf_of_mem_zeroPadded (by decide) (by decide) hmem
    have hminus : c ≠ '-' := fun h => absurd (h ▸ hc) (by decide)
    have hplus : c ≠ '+' := fun h => absurd (h ▸ hc) (by decide)
    rw [ofSigned?_of_ne hminus hplus, ← hcs, hread]
    rfl

theorem le_length_zeroPadded (width : Nat) (cs : List Char) : width ≤ (zeroPadded width cs).length := by
  simp only [zeroPadded, List.length_append, List.length_replicate]
  omega

/-- Zeros in front of a number that fits make it just so wide. -/
theorem length_zeroPadded {base width n : Nat} (hbase : 1 < base) (hwidth : 0 < width) (hn : n < base ^ width) :
    (zeroPadded width (digits base n)).length = width := by
  have hle : (digits base n).length ≤ width := (Nat.length_toDigits_le_iff hbase hwidth).2 hn
  simp only [zeroPadded, List.length_append, List.length_replicate]
  omega

end FilePlacement.Text
