import FilePlacement.Proofs.Numerals
import FilePlacement.Url.Percent

/-!
# Percent encoding is undone by decoding

What is encoded with escapes for the percent sign itself is decoded to the bytes of the text
(`percentDecode_percentEncode`). It holds the characters that escapes are made of, and of the text only those
within ASCII that do not have to be encoded (`mem_percentEncode`).
-/

namespace FilePlacement.Url

open FilePlacement.Text

/-- The characters of escapes. -/
def escapeChars : List Char := "%0123456789ABCDEF".toList

theorem zeroPadded_byte {n : Nat} (hn : n < 256) :
    zeroPadded 2 (digits 16 n) = [(n / 16).digitChar, (n % 16).digitChar] := by
  by_cases hlt : n < 16
  · rw [digits_of_lt hlt, Nat.div_eq_of_lt hlt, Nat.mod_eq_of_lt hlt]
    rfl
  · rw [digits_of_le (by decide) (by omega), digits_of_lt (by omega)]
    rfl

theorem percentByte_eq (b : UInt8) :
    percentByte b = ['%', (b.toNat / 16).digitChar.toUpper, (b.toNat % 16).digitChar.toUpper] := by
  rw [percentByte, zeroPadded_byte b.toNat_lt]
  rfl

theorem digitValue_toUpper {d : Nat} (hd : d < 16) : digitValue d.digitChar.toUpper = d := by
  interval_cases d <;> rfl

theorem percentDecode_percentByte (b : UInt8) (rest : List Char) :
    percentDecode (percentByte b ++ rest) = b :: percentDecode rest := by
  have hlt := b.toNat_lt
  have hhigh := digitValue_toUpper (show b.toNat / 16 < 16 by omega)
  have hlow := digitValue_toUpper (show b.toNat % 16 < 16 by omega)
  have hvalue : b.toNat / 16 * 16 + b.toNat % 16 = b.toNat := by omega
  rw [percentByte_eq]
  simp [percentDecode, isDigitOf, valueOf, hhigh, hlow, hvalue, show b.toNat / 16 < 16 by omega,
    show b.toNat % 16 < 16 by omega]

theorem percentDecode_cons {c : Char} (hc : c ≠ '%') (rest : List Char) :
    percentDecode (c :: rest) = String.utf8EncodeChar c ++ percentDecode rest := by
  match rest with
  | [] => simp [percentDecode, hc]
  | [a] =>
    by_cases ha : a = '%'
    · subst ha
      simp [percentDecode, hc]
    · simp [percentDecode, hc]
  | a :: b :: rest => simp [percentDecode, hc]

theorem percentDecode_flatMap_percentByte (bytes : List UInt8) (rest : List Char) :
    percentDecode (bytes.flatMap percentByte ++ rest) = bytes ++ percentDecode rest := by
  induction bytes with
  | nil => rfl
  | cons b bytes ih => rw [List.flatMap_cons, List.append_assoc, percentDecode_percentByte, ih, List.cons_append]

/-- The bytes of a text come out of its encoded form, if percent signs are encoded, too. -/
theorem percentDecode_percentEncode {mustEncode : Char → Bool} (hpercent : mustEncode '%' = true) (cs : List Char) :
    percentDecode (percentEncode mustEncode cs) = cs.flatMap String.utf8EncodeChar := by
  induction cs with
  | nil => rfl
  | cons c cs ih =>
    unfold percentEncode at ih ⊢
    rw [List.flatMap_cons, List.flatMap_cons]
    split
    · rw [percentDecode_flatMap_percentByte, ih]
    · rename_i hkept
      have hc : c ≠ '%' := by
        rintro rfl
        simp [hpercent] at hkept
      rw [List.singleton_append, percentDecode_cons hc, ih]

/-- The bytes of a text that is decoded are the text again. -/
theorem toByteArray_percentDecode {mustEncode : Char → Bool} (hpercent : mustEncode '%' = true) (s : String) :
    (percentDecode (percentEncode mustEncode s.toList)).toByteArray = s.toUTF8 := by
  rw [percentDecode_percentEncode hpercent]
  exact congrArg String.toUTF8 String.ofList_toList

theorem mem_percentByte {b : UInt8} {c : Char} (hc : c ∈ percentByte b) : c ∈ escapeChars := by
  have hdigit : ∀ d < 16, d.digitChar.toUpper ∈ escapeChars := by decide
  have hlt := b.toNat_lt
  rw [percentByte_eq] at hc
  simp only [List.mem_cons, List.not_mem_nil, or_false] at hc
  rcases hc with rfl | rfl | rfl
  · decide
  · exact hdigit _ (by omega)
  · exact hdigit _ (by omega)

/-- An encoded text has the characters of escapes and those of the text that need none. -/
theorem mem_percentEncode {mustEncode : Char → Bool} {cs : List Char} {c : Char}
    (hc : c ∈ percentEncode mustEncode cs) : c ∈ escapeChars ∨ c ∈ cs ∧ mustEncode c = false ∧ c.toNat < 0x7F := by
  obtain ⟨d, hd, hmem⟩ := List.mem_flatMap.1 hc
  split at hmem
  · obtain ⟨b, -, hb⟩ := List.mem_flatMap.1 hmem
    exact .inl (mem_percentByte hb)
  · rename_i hkept
    obtain rfl := List.mem_singleton.1 hmem
    rw [Bool.or_eq_true, not_or, Bool.not_eq_true, decide_eq_true_eq, Nat.not_le] at hkept
    exact .inr ⟨hd, hkept⟩

end FilePlacement.Url
