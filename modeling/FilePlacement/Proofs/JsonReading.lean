import FilePlacement.Json.Draft
import FilePlacement.Json.Value
import FilePlacement.Proofs.Numerals
import Mathlib.Data.List.TakeWhile

/-!
# Reading JSON as it is written

`Value.Written` says which texts are a value: its tokens one after the other, with any white space between
them. Of such a text a reader gets the whole value and stops right behind it (`readValue_written`,
`draft_ofChars`), whatever its strings hold and however deep its arrays and objects lie. The two ways of
writing a value give such texts (`written_compact`, `written_pretty`).
-/

namespace FilePlacement.Json

/-! ## White space -/

/-- Nothing but white space. -/
def Gap (cs : List Char) : Prop := ∀ c ∈ cs, isSpace c = true

theorem gap_nil : Gap [] := nofun

theorem gap_newline (depth : Nat) : Gap (newline depth) := by
  intro c hc
  rcases List.mem_cons.1 hc with rfl | hc
  · rfl
  · rw [List.eq_of_mem_replicate hc]
    rfl

theorem skipSpace_gap {gap : List Char} (hgap : Gap gap) (rest : List Char) :
    skipSpace (gap ++ rest) = skipSpace rest := by
  unfold skipSpace
  rw [List.dropWhile_append, List.dropWhile_eq_nil_iff.2 hgap]
  rfl

theorem skipSpace_cons {c : Char} (hc : isSpace c = false) (rest : List Char) : skipSpace (c :: rest) = c :: rest :=
  List.dropWhile_cons_of_neg (by simp [hc])

/-- White space in front of a character that is none. -/
theorem skipSpace_gap_cons {gap : List Char} (hgap : Gap gap) {c : Char} (hc : isSpace c = false) (rest : List Char) :
    skipSpace (gap ++ c :: rest) = c :: rest := by rw [skipSpace_gap hgap, skipSpace_cons hc]

/-! ## Strings -/

/-- The escape of a control character has two digits behind two zeros. -/
theorem zeroPadded_control {n : Nat} (hn : n < 0x20) :
    Text.zeroPadded 4 (Text.digits 16 n) = ['0', '0', (n / 16).digitChar, (n % 16).digitChar] := by
  interval_cases n <;> rfl

theorem unicodeUnit_control {c : Char} (hc : c.toNat < 0x20) (rest : List Char) :
    unicodeUnit (Text.zeroPadded 4 (Text.digits 16 c.toNat) ++ rest) = .char c rest := by
  have hvalue : Text.valueOf 16 (Text.zeroPadded 4 (Text.digits 16 c.toNat)) = c.toNat :=
    Text.valueOf_zeroPadded (by decide) (by decide) 4 c.toNat
  have hhex : hexUnit (Text.zeroPadded 4 (Text.digits 16 c.toNat) ++ rest) = .ok (c.toNat, rest) := by
    have hdigits : ∀ d < 16, Text.isDigitOf 16 d.digitChar = true := by decide
    have hhigh := hdigits (c.toNat / 16) (by omega)
    have hlow := hdigits (c.toNat % 16) (by omega)
    rw [zeroPadded_control hc] at hvalue ⊢
    have hzero : Text.isDigitOf 16 '0' = true := rfl
    simp [hexUnit, hvalue, hhigh, hlow, hzero]
  have hlow : isLowSurrogate c.toNat = false := by simp [isLowSurrogate]; omega
  have hhigh : isHighSurrogate c.toNat = false := by simp [isHighSurrogate]; omega
  rw [unicodeUnit, hhex]
  simp [hlow, hhigh]

/-- A character as it is written in a string is read as the character. -/
theorem stringUnit_escapedChar (c : Char) (rest : List Char) : stringUnit (escapedChar c ++ rest) = .char c rest := by
  unfold escapedChar
  split
  · rfl
  · rfl
  · rfl
  · rfl
  · rfl
  · rfl
  · rfl
  · rename_i hquote hbackslash _ _ _ _ _
    by_cases hc : c.toNat < 0x20
    · rw [if_pos hc]
      exact unicodeUnit_control hc rest
    · rw [if_neg hc, List.singleton_append, stringUnit]
      · rw [if_neg hc]
      · exact fun hc' => hquote hc'
      · exact fun hc' => hbackslash hc'

theorem readString_escaped (cs rest : List Char) {fuel : Nat} (hfuel : cs.length < fuel) (seen : List Char) :
    readString fuel (cs.flatMap escapedChar ++ '"' :: rest) (some seen) =
      ⟨some (String.ofList (seen.reverse ++ cs)), .ok rest⟩ := by
  induction cs generalizing fuel seen with
  | nil =>
    obtain ⟨fuel, rfl⟩ := Nat.exists_eq_add_one.2 hfuel
    simp [readString, stringUnit]
  | cons c cs ih =>
    obtain ⟨fuel, rfl⟩ := Nat.exists_eq_add_one.2 (Nat.zero_lt_of_lt hfuel)
    rw [List.flatMap_cons, List.append_assoc, readString, stringUnit_escapedChar]
    simpa using ih (by simpa using hfuel) (c :: seen)

theorem length_le_flatMap_escapedChar (cs : List Char) : cs.length ≤ (cs.flatMap escapedChar).length := by
  induction cs with
  | nil => exact Nat.le_refl 0
  | cons c cs ih =>
    have hone : 1 ≤ (escapedChar c).length := by
      unfold escapedChar
      split <;> simp
      split <;> simp
    rw [List.flatMap_cons, List.length_append, List.length_cons]
    omega

/-- What stands behind the opening quote of a string gives the string, if the fuel is enough for what is left. -/
theorem readString_stringLiteral (s : String) (rest : List Char) {fuel : Nat}
    (hfuel : (s.toList.flatMap escapedChar ++ '"' :: rest).length ≤ fuel) :
    readString fuel (s.toList.flatMap escapedChar ++ '"' :: rest) (some []) = ⟨some s, .ok rest⟩ := by
  have hlength := length_le_flatMap_escapedChar s.toList
  rw [List.length_append, List.length_cons] at hfuel
  simpa using readString_escaped s.toList rest (by omega : s.toList.length < fuel) []

theorem readText_stringLiteral (s : String) (rest : List Char) :
    readText (s.toList.flatMap escapedChar ++ '"' :: rest) = (.text (some s) none, some rest) := by
  unfold readText
  rw [readString_stringLiteral s rest (Nat.le_succ _)]

/-! ## Numbers -/

/-- No number goes on here. -/
def Ends (rest : List Char) : Prop :=
  ∀ c, rest.head? = some c → isDigit c = false ∧ c ≠ '.' ∧ c ≠ 'e' ∧ c ≠ 'E'

theorem ends_nil : Ends [] := nofun

theorem ends_of_isSpace {c : Char} (hc : isSpace c = true) (rest : List Char) : Ends (c :: rest) := by
  rintro d ⟨⟩
  simp only [isSpace, Bool.or_eq_true, decide_eq_true_eq] at hc
  rcases hc with ((rfl | rfl) | rfl) | rfl <;> decide

/-- White space and what ends behind it. -/
theorem ends_gap {gap rest : List Char} (hgap : Gap gap) (hrest : Ends rest) : Ends (gap ++ rest) := by
  cases gap with
  | nil => exact hrest
  | cons c gap => exact ends_of_isSpace (hgap c List.mem_cons_self) _

/-- The characters behind an item or a field. -/
theorem ends_delimiter {c : Char} (hc : c ∈ [',', ']', '\x7d']) (rest : List Char) : Ends (c :: rest) := by
  rintro d ⟨⟩
  simp only [List.mem_cons, List.not_mem_nil, or_false] at hc
  rcases hc with rfl | rfl | rfl <;> decide

theorem isDigit_of_isDigitOf {c : Char} (hc : Text.isDigitOf 10 c = true) : isDigit c = true := by
  simpa [isDigit] using Text.isDigitOf_ten_iff.1 hc

theorem isDigit_of_mem_digits {n : Nat} {c : Char} (hc : c ∈ Text.digits 10 n) : isDigit c = true :=
  isDigit_of_isDigitOf (Text.isDigitOf_of_mem_digits (by decide) (by decide) hc)

theorem ne_of_isDigit {c d : Char} (hc : isDigit c = true) (hd : isDigit d = false) : c ≠ d := by
  rintro rfl
  simp [hc] at hd

theorem isSpace_of_isDigit {c : Char} (hc : isDigit c = true) : isSpace c = false := by
  simp only [isSpace, Bool.or_eq_false_iff, decide_eq_false_iff_not]
  refine ⟨⟨⟨?_, ?_⟩, ?_⟩, ?_⟩ <;> exact ne_of_isDigit hc (by decide)

/-- Only zero is written with a zero in front. -/
theorem eq_zero_of_head?_digits {n : Nat} (hn : (Text.digits 10 n).head? = some '0') : n = 0 := by
  induction n using Nat.strong_induction_on with
  | _ n ih =>
    by_cases hlt : n < 10
    · rw [Text.digits_of_lt hlt, List.head?_cons, Option.some.injEq] at hn
      interval_cases n <;> first | rfl | cases hn
    · rw [Text.digits_of_le (by decide) (by omega), List.head?_append] at hn
      obtain ⟨d, ds, hds⟩ := List.exists_cons_of_ne_nil (Text.digits_ne_nil (by decide : 1 < 10) (n / 10))
      rw [hds, List.head?_cons, Option.some_or] at hn
      have hzero := ih (n / 10) (by omega) (by rw [hds, List.head?_cons, hn])
      omega

/-- A row of digits is taken whole. -/
theorem digitRow_append {ds rest : List Char} (hne : ds ≠ []) (hds : ∀ c ∈ ds, isDigit c = true) (hrest : Ends rest) :
    digitRow (ds ++ rest) = .ok (ds, rest) := by
  obtain ⟨c, r, rfl⟩ := List.exists_cons_of_ne_nil hne
  have htake : (c :: r ++ rest).takeWhile isDigit = c :: r := by
    rw [List.takeWhile_append_of_pos hds]
    cases rest with
    | nil => simp
    | cons d rest => simp [(hrest d rfl).1]
  have hdrop : (c :: r ++ rest).dropWhile isDigit = rest := by
    rw [List.dropWhile_append_of_pos hds]
    cases rest with
    | nil => rfl
    | cons d rest => exact List.dropWhile_cons_of_neg (by simp [(hrest d rfl).1])
  have hc := hds c List.mem_cons_self
  rw [List.cons_append, digitRow, if_pos hc, ← List.cons_append, htake, hdrop]

theorem wholePart_digits (n : Nat) {rest : List Char} (hrest : Ends rest) :
    wholePart (Text.digits 10 n ++ rest) = .ok (Text.digits 10 n, rest) := by
  have hrow := digitRow_append (Text.digits_ne_nil (by decide : 1 < 10) n) (fun c => isDigit_of_mem_digits) hrest
  unfold wholePart
  split
  · rename_i c r heq
    obtain ⟨d, ds, hds⟩ := List.exists_cons_of_ne_nil (Text.digits_ne_nil (by decide : 1 < 10) n)
    have hd : d = '0' := by
      rw [hds] at heq
      exact (List.cons.inj heq).1
    obtain rfl : n = 0 := eq_zero_of_head?_digits (by rw [hds, hd, List.head?_cons])
    have hzero : Text.digits 10 0 = ['0'] := Text.digits_of_lt (by decide)
    rw [hzero] at heq ⊢
    obtain rfl : rest = c :: r := (List.cons.inj heq).2
    rw [if_neg (by simp [(hrest c rfl).1])]
  · exact hrow

theorem fractionPart_of_ends {rest : List Char} (hrest : Ends rest) : fractionPart rest = .ok (none, rest) := by
  unfold fractionPart
  split
  · exact absurd rfl (hrest _ rfl).2.1
  · rfl

theorem exponentPart_of_ends {rest : List Char} (hrest : Ends rest) : exponentPart rest = .ok (none, rest) := by
  cases rest with
  | nil => rfl
  | cons c rest =>
    have hc := (hrest c rfl).2.2
    simp [exponentPart, hc.1, hc.2]

/-- A whole number as a numeral. -/
def Numeral.ofInt (n : Int) : Numeral := ⟨decide (n < 0), Text.digits 10 n.natAbs, none, none⟩

theorem Numeral.toInt?_ofInt (n : Int) : (ofInt n).toInt? = some n := by
  have hvalue := Text.valueOf_digits (by decide : 1 < 10) (by decide) n.natAbs
  unfold toInt? ofInt
  by_cases hn : n < 0
  · have hne : n.natAbs ≠ 0 := by omega
    simp [hvalue, hn, hne, abs_of_neg hn]
  · simp [hvalue, hn]
    omega

theorem readNumeral_digits (negative : Bool) (n : Nat) {rest : List Char} (hrest : Ends rest) :
    readNumeral negative (Text.digits 10 n ++ rest) =
      (.number ⟨negative, Text.digits 10 n, none, none⟩, some rest) := by
  have hread : readNumber negative (Text.digits 10 n ++ rest) =
      .ok (⟨negative, Text.digits 10 n, none, none⟩, rest) := by
    simp [readNumber, wholePart_digits n hrest, fractionPart_of_ends hrest, exponentPart_of_ends hrest, bind,
      Except.bind, pure, Except.pure]
  rw [readNumeral, hread]

/-! ## Values -/

mutual

/-- What a value is read as. -/
def Value.draft : Value → Draft
  | .null => .null
  | .bool b => .bool b
  | .number n => .number (.ofInt n)
  | .text s => .text (some s) none
  | .array items => .array (draftItems items) none
  | .object fields => .object (draftFields fields) none
termination_by structural v => v

def draftItems : List Value → List Draft
  | [] => []
  | v :: r => v.draft :: draftItems r
termination_by structural vs => vs

def draftFields : List (String × Value) → List (Option String × Draft)
  | [] => []
  | p :: r => draftField p :: draftFields r
termination_by structural ps => ps

def draftField : String × Value → Option String × Draft
  | (k, v) => (some k, v.draft)
termination_by structural p => p

end

mutual

/-- The texts of a value: its tokens in their order, with any white space between them. -/
inductive Value.Written : Value → List Char → Prop
  | null : Value.Written .null "null".toList
  | bool (b : Bool) : Value.Written (.bool b) (boolLiteral b)
  | number (n : Int) : Value.Written (.number n) (numberLiteral n)
  | text (s : String) : Value.Written (.text s) (stringLiteral s)
  | noItems {gap : List Char} : Gap gap → Value.Written (.array []) ('[' :: (gap ++ [']']))
  | array {vs : List Value} {gap cs : List Char} :
      Gap gap → ItemsWritten vs cs → Value.Written (.array vs) ('[' :: (gap ++ cs))
  | noFields {gap : List Char} : Gap gap → Value.Written (.object []) ('\x7b' :: (gap ++ ['\x7d']))
  | object {ps : List (String × Value)} {gap cs : List Char} :
      Gap gap → FieldsWritten ps cs → Value.Written (.object ps) ('\x7b' :: (gap ++ cs))

/-- The texts of at least one item, up to the closing bracket. -/
inductive ItemsWritten : List Value → List Char → Prop
  | last {v : Value} {cs gap : List Char} : v.Written cs → Gap gap → ItemsWritten [v] (cs ++ (gap ++ [']']))
  | cons {v : Value} {vs : List Value} {cs before after ds : List Char} :
      v.Written cs → Gap before → Gap after → ItemsWritten vs ds →
        ItemsWritten (v :: vs) (cs ++ (before ++ ',' :: (after ++ ds)))

/-- The texts of at least one field, up to the closing brace. -/
inductive FieldsWritten : List (String × Value) → List Char → Prop
  | last {p : String × Value} {cs gap : List Char} :
      FieldWritten p cs → Gap gap → FieldsWritten [p] (cs ++ (gap ++ ['\x7d']))
  | cons {p : String × Value} {ps : List (String × Value)} {cs before after ds : List Char} :
      FieldWritten p cs → Gap before → Gap after → FieldsWritten ps ds →
        FieldsWritten (p :: ps) (cs ++ (before ++ ',' :: (after ++ ds)))

inductive FieldWritten : String × Value → List Char → Prop
  | mk (k : String) {v : Value} {before after cs : List Char} :
      Gap before → Gap after → v.Written cs →
        FieldWritten (k, v) (stringLiteral k ++ (before ++ ':' :: (after ++ cs)))

end

/-- A text of a value begins with the first character of a token, and not with one that closes. -/
theorem Value.Written.eq_cons {v : Value} {cs : List Char} (h : v.Written cs) :
    ∃ c r, cs = c :: r ∧ isSpace c = false ∧ c ≠ ']' := by
  cases h with
  | null => exact ⟨_, _, rfl, rfl, by decide⟩
  | bool b => cases b <;> exact ⟨_, _, rfl, rfl, by decide⟩
  | number n =>
    unfold numberLiteral
    split
    · exact ⟨_, _, rfl, rfl, by decide⟩
    · obtain ⟨d, ds, hds⟩ := List.exists_cons_of_ne_nil (Text.digits_ne_nil (by decide : 1 < 10) n.natAbs)
      have hd : isDigit d = true := isDigit_of_mem_digits (n := n.natAbs) (by rw [hds]; exact List.mem_cons_self)
      exact ⟨d, ds, hds, isSpace_of_isDigit hd, ne_of_isDigit hd (by decide)⟩
  | text s => exact ⟨_, _, rfl, rfl, by decide⟩
  | noItems => exact ⟨_, _, rfl, rfl, by decide⟩
  | array => exact ⟨_, _, rfl, rfl, by decide⟩
  | noFields => exact ⟨_, _, rfl, rfl, by decide⟩
  | object => exact ⟨_, _, rfl, rfl, by decide⟩

theorem ItemsWritten.eq_cons {vs : List Value} {cs : List Char} (h : ItemsWritten vs cs) :
    ∃ c r, cs = c :: r ∧ isSpace c = false ∧ c ≠ ']' := by
  cases h with
  | last hv _ =>
    obtain ⟨c, r, rfl, hc⟩ := hv.eq_cons
    exact ⟨c, _, rfl, hc⟩
  | cons hv _ _ _ =>
    obtain ⟨c, r, rfl, hc⟩ := hv.eq_cons
    exact ⟨c, _, rfl, hc⟩

theorem FieldWritten.eq_cons {p : String × Value} {cs : List Char} (h : FieldWritten p cs) : ∃ r, cs = '"' :: r := by
  cases h
  exact ⟨_, rfl⟩

theorem FieldsWritten.eq_cons {ps : List (String × Value)} {cs : List Char} (h : FieldsWritten ps cs) :
    ∃ r, cs = '"' :: r := by
  cases h with
  | last hp _ =>
    obtain ⟨r, rfl⟩ := hp.eq_cons
    exact ⟨_, rfl⟩
  | cons hp _ _ _ =>
    obtain ⟨r, rfl⟩ := hp.eq_cons
    exact ⟨_, rfl⟩

/-! ## Reading what is written -/

section
attribute [local simp] readValue skipSpace_cons isDigit

theorem readValue_gap {gap : List Char} (hgap : Gap gap) (fuel : Nat) (cs : List Char) :
    readValue fuel (gap ++ cs) = readValue fuel cs := by
  cases fuel with
  | zero => rw [readValue, readValue]
  | succ fuel => rw [readValue, readValue, skipSpace_gap hgap]

theorem readValue_boolLiteral (b : Bool) (fuel : Nat) (rest : List Char) :
    readValue (fuel + 1) (boolLiteral b ++ rest) = (.bool b, some rest) := by
  cases b
  · simp [boolLiteral, readWord, isSpace]
  · simp [boolLiteral, readWord, isSpace]

theorem readValue_of_isDigit {c : Char} (hc : isDigit c = true) (fuel : Nat) (cs : List Char) :
    readValue (fuel + 1) (c :: cs) = readNumeral false (c :: cs) := by
  have hne (d : Char) (hd : isDigit d = false) : c ≠ d := ne_of_isDigit hc hd
  rw [readValue, skipSpace_cons (isSpace_of_isDigit hc)]
  dsimp only
  rw [if_neg (hne 'n' rfl), if_neg (hne 't' rfl), if_neg (hne 'f' rfl), if_neg (hne '"' rfl), if_neg (hne '-' rfl),
    if_pos hc]

theorem readValue_numberLiteral (n : Int) (fuel : Nat) {rest : List Char} (hrest : Ends rest) :
    readValue (fuel + 1) (numberLiteral n ++ rest) = (.number (.ofInt n), some rest) := by
  unfold numberLiteral Numeral.ofInt
  by_cases hn : n < 0
  · rw [if_pos hn, List.cons_append, readValue, skipSpace_cons rfl]
    simpa [hn] using readNumeral_digits true n.natAbs hrest
  · rw [if_neg hn]
    have hread := readNumeral_digits false n.natAbs hrest
    obtain ⟨d, ds, hds⟩ := List.exists_cons_of_ne_nil (Text.digits_ne_nil (by decide : 1 < 10) n.natAbs)
    have hd : isDigit d = true := isDigit_of_mem_digits (n := n.natAbs) (by rw [hds]; exact List.mem_cons_self)
    rw [hds] at hread ⊢
    simpa [hn] using (readValue_of_isDigit hd fuel (ds ++ rest)).trans hread

theorem readValue_stringLiteral (s : String) (fuel : Nat) (rest : List Char) :
    readValue (fuel + 1) (stringLiteral s ++ rest) = (.text (some s) none, some rest) := by
  rw [stringLiteral, List.append_assoc, List.cons_append, List.singleton_append, readValue, skipSpace_cons rfl]
  exact readText_stringLiteral s rest

theorem readValue_noItems {gap : List Char} (hgap : Gap gap) (fuel : Nat) (rest : List Char) :
    readValue (fuel + 1) ('[' :: (gap ++ ']' :: rest)) = (.array [] none, some rest) := by
  simp [skipSpace_gap_cons hgap, isSpace]

theorem readValue_items {gap : List Char} (hgap : Gap gap) {c : Char} (hspace : isSpace c = false) (hc : c ≠ ']')
    (fuel : Nat) (cs : List Char) :
    readValue (fuel + 1) ('[' :: (gap ++ c :: cs)) =
      (.array (readItems fuel (c :: cs)).1 (readItems fuel (c :: cs)).2.1, (readItems fuel (c :: cs)).2.2) := by
  rw [readValue, skipSpace_cons rfl]
  simp [skipSpace_gap_cons hgap hspace, hc]

theorem readValue_noFields {gap : List Char} (hgap : Gap gap) (fuel : Nat) (rest : List Char) :
    readValue (fuel + 1) ('\x7b' :: (gap ++ '\x7d' :: rest)) = (.object [] none, some rest) := by
  simp [skipSpace_gap_cons hgap, isSpace]

theorem readValue_fields {gap : List Char} (hgap : Gap gap) (fuel : Nat) (cs : List Char) :
    readValue (fuel + 1) ('\x7b' :: (gap ++ '"' :: cs)) =
      (.object (readFields fuel ('"' :: cs)).1 (readFields fuel ('"' :: cs)).2.1,
        (readFields fuel ('"' :: cs)).2.2) := by
  rw [readValue, skipSpace_cons rfl]
  simp [skipSpace_gap_cons hgap (show isSpace '"' = false from rfl)]

end

section
variable (k : String) {before cs r : List Char} {fuel : Nat} {d : Draft}

/-- The last field: behind its value the object is closed. -/
theorem readFields_last (hbefore : Gap before) (hvalue : readValue fuel cs = (d, some r)) {rest : List Char}
    (hr : skipSpace r = '\x7d' :: rest) :
    readFields (fuel + 1) (stringLiteral k ++ (before ++ ':' :: cs)) = ([(some k, d)], none, some rest) := by
  have hkey := readString_stringLiteral k (before ++ ':' :: cs) (Nat.le_succ _)
  have hcolon := skipSpace_gap_cons hbefore (c := ':') rfl cs
  rw [stringLiteral, List.append_assoc, List.cons_append, List.singleton_append, readFields]
  simp only [hkey, hcolon, hvalue, hr, reduceIte]

/-- A field in front of others: behind its value there is a comma. -/
theorem readFields_cons (hbefore : Gap before) (hvalue : readValue fuel cs = (d, some r)) {s rest : List Char}
    {c : Char} (hr : skipSpace r = ',' :: s) (hs : skipSpace s = c :: rest) :
    readFields (fuel + 1) (stringLiteral k ++ (before ++ ':' :: cs)) =
      ((some k, d) :: (readFields fuel (c :: rest)).1, (readFields fuel (c :: rest)).2) := by
  have hkey := readString_stringLiteral k (before ++ ':' :: cs) (Nat.le_succ _)
  have hcolon := skipSpace_gap_cons hbefore (c := ':') rfl cs
  rw [stringLiteral, List.append_assoc, List.cons_append, List.singleton_append, readFields]
  simp only [hkey, hcolon, hvalue, hr, hs, reduceIte]
  rfl

end

/-- With this much fuel a text is read whole, and what stands behind it is left. -/
structure Reads (fuel : Nat) : Prop where
  value {v : Value} {cs : List Char} (h : v.Written cs) (hfuel : 2 * cs.length ≤ fuel + 1) {rest : List Char}
    (hrest : Ends rest) : readValue fuel (cs ++ rest) = (v.draft, some rest)
  items {vs : List Value} {cs : List Char} (h : ItemsWritten vs cs) (hfuel : 2 * cs.length ≤ fuel) (rest : List Char) :
    readItems fuel (cs ++ rest) = (draftItems vs, none, some rest)
  fields {ps : List (String × Value)} {cs : List Char} (h : FieldsWritten ps cs) (hfuel : 2 * cs.length ≤ fuel)
    (rest : List Char) : readFields fuel (cs ++ rest) = (draftFields ps, none, some rest)

namespace Reads

theorem zero : Reads 0 where
  value h hfuel := by
    obtain ⟨c, r, rfl, -⟩ := h.eq_cons
    rw [List.length_cons] at hfuel
    omega
  items h hfuel := by
    cases h <;> simp at hfuel
  fields h hfuel := by
    cases h <;> simp at hfuel

section
variable {fuel : Nat} (ih : Reads fuel)

include ih

theorem value_succ {v : Value} {cs : List Char} (h : v.Written cs) (hfuel : 2 * cs.length ≤ fuel + 2) {rest : List Char}
    (hrest : Ends rest) : readValue (fuel + 1) (cs ++ rest) = (v.draft, some rest) := by
  cases h with
  | null => simp [readValue, skipSpace_cons, readWord, isSpace, Value.draft]
  | bool b => exact readValue_boolLiteral b fuel rest
  | number n => exact readValue_numberLiteral n fuel hrest
  | text s => exact readValue_stringLiteral s fuel rest
  | noItems hgap => simpa [Value.draft, draftItems] using readValue_noItems hgap fuel rest
  | array hgap hitems =>
    have hread := ih.items hitems (by simp at hfuel; omega) rest
    obtain ⟨c, r, rfl, hspace, hc⟩ := hitems.eq_cons
    rw [List.cons_append] at hread
    rw [List.cons_append, List.append_assoc, List.cons_append, readValue_items hgap hspace hc, hread, Value.draft]
  | noFields hgap => simpa [Value.draft, draftFields] using readValue_noFields hgap fuel rest
  | object hgap hfields =>
    have hread := ih.fields hfields (by simp at hfuel; omega) rest
    obtain ⟨r, rfl⟩ := hfields.eq_cons
    rw [List.cons_append] at hread
    rw [List.cons_append, List.append_assoc, List.cons_append, readValue_fields hgap, hread, Value.draft]

theorem items_succ {vs : List Value} {cs : List Char} (h : ItemsWritten vs cs) (hfuel : 2 * cs.length ≤ fuel + 1)
    (rest : List Char) : readItems (fuel + 1) (cs ++ rest) = (draftItems vs, none, some rest) := by
  cases h with
  | @last v cs gap hv hgap =>
    have hread := ih.value hv (by simp at hfuel; omega) (ends_gap hgap (ends_delimiter (c := ']') (by simp) rest))
    rw [List.append_assoc, List.append_assoc, List.singleton_append, readItems, hread]
    simp [skipSpace_gap_cons hgap, isSpace, draftItems]
  | @cons v vs cs before after ds hv hbefore hafter hvs =>
    have hread := ih.value hv (by simp at hfuel; omega)
      (ends_gap hbefore (ends_delimiter (c := ',') (by simp) (after ++ (ds ++ rest))))
    have hmore := ih.items hvs (by simp at hfuel; omega) rest
    obtain ⟨c, r, rfl, hspace, hc⟩ := hvs.eq_cons
    rw [List.append_assoc, List.append_assoc, List.cons_append, List.append_assoc, readItems, hread]
    rw [List.cons_append] at hmore ⊢
    simp [skipSpace_gap_cons hbefore, skipSpace_gap_cons hafter hspace, isSpace, draftItems, hc, hmore]

theorem fields_succ {ps : List (String × Value)} {cs : List Char} (h : FieldsWritten ps cs)
    (hfuel : 2 * cs.length ≤ fuel + 1) (rest : List Char) :
    readFields (fuel + 1) (cs ++ rest) = (draftFields ps, none, some rest) := by
  cases h with
  | @last p _ gap hp hgap =>
    cases hp with
    | @mk k v before after cs hbefore hafter hv =>
      have hvalue := ih.value hv (by simp at hfuel; omega)
        (ends_gap hgap (ends_delimiter (c := '\x7d') (by simp) rest))
      rw [← readValue_gap hafter] at hvalue
      simpa [draftFields, draftField] using
        readFields_last k hbefore hvalue (skipSpace_gap_cons hgap (c := '\x7d') rfl rest)
  | @cons p ps _ left right ds hp hleft hright hps =>
    cases hp with
    | @mk k v before after cs hbefore hafter hv =>
      have hvalue := ih.value hv (by simp at hfuel; omega)
        (ends_gap hleft (ends_delimiter (c := ',') (by simp) (right ++ (ds ++ rest))))
      have hmore := ih.fields hps (by simp at hfuel; omega) rest
      obtain ⟨r, rfl⟩ := hps.eq_cons
      rw [← readValue_gap hafter] at hvalue
      have hread := readFields_cons k hbefore hvalue (skipSpace_gap_cons hleft (c := ',') rfl _)
        (skipSpace_gap_cons hright (c := '"') rfl (r ++ rest))
      rw [List.cons_append] at hmore
      rw [hmore] at hread
      simpa [draftFields, draftField] using hread

end

theorem all (fuel : Nat) : Reads fuel := by
  induction fuel with
  | zero => exact zero
  | succ fuel ih => exact ⟨ih.value_succ, ih.items_succ, ih.fields_succ⟩

end Reads

/-- Of a text of a value, with white space around it, a reader gets the value and nothing behind it. -/
theorem ofChars_written {v : Value} {before cs after : List Char} (hbefore : Gap before) (h : v.Written cs)
    (hafter : Gap after) : Document.ofChars (before ++ (cs ++ after)) = ⟨v.draft, false⟩ := by
  have hread : readValue (2 * (before ++ (cs ++ after)).length + 2) (cs ++ after) = (v.draft, some after) :=
    (Reads.all _).value h (by simp; omega) (by simpa using ends_gap hafter ends_nil)
  have hspace : skipSpace after = [] := List.dropWhile_eq_nil_iff.2 hafter
  rw [Document.ofChars, readValue_gap hbefore, hread]
  simp [hspace]

/-! ## The two layouts -/

mutual

theorem Value.written_compact : ∀ v : Value, v.Written v.compact
  | .null => .null
  | .bool b => .bool b
  | .number n => .number n
  | .text s => .text s
  | .array [] => .noItems gap_nil
  | .array (v :: r) => by
    simpa [Value.compact] using Value.Written.array gap_nil (itemsWritten_compact r v.written_compact)
  | .object [] => .noFields gap_nil
  | .object (p :: r) => by
    simpa [Value.compact] using Value.Written.object gap_nil (fieldsWritten_compact r (fieldWritten_compact p))
termination_by structural v => v

theorem itemsWritten_compact : ∀ (vs : List Value) {v : Value} {cs : List Char}, v.Written cs →
    ItemsWritten (v :: vs) (cs ++ (compactItems vs ++ [']']))
  | [], _, _, h => .last h gap_nil
  | w :: r, _, _, h => by
    simpa [compactItems] using ItemsWritten.cons h gap_nil gap_nil (itemsWritten_compact r w.written_compact)
termination_by structural vs => vs

theorem fieldsWritten_compact : ∀ (ps : List (String × Value)) {p : String × Value} {cs : List Char},
    FieldWritten p cs → FieldsWritten (p :: ps) (cs ++ (compactFields ps ++ ['\x7d']))
  | [], _, _, h => .last h gap_nil
  | q :: r, _, _, h => by
    simpa [compactFields] using FieldsWritten.cons h gap_nil gap_nil (fieldsWritten_compact r (fieldWritten_compact q))
termination_by structural ps => ps

theorem fieldWritten_compact : ∀ p : String × Value, FieldWritten p (compactField p)
  | (k, v) => .mk k gap_nil gap_nil v.written_compact
termination_by structural p => p

end

theorem gap_space : Gap [' '] := by
  intro c hc
  rw [List.mem_singleton.1 hc]
  rfl

mutual

theorem Value.written_pretty : ∀ (v : Value) (depth : Nat), v.Written (v.pretty depth)
  | .null, _ => .null
  | .bool b, _ => .bool b
  | .number n, _ => .number n
  | .text s, _ => .text s
  | .array [], _ => .noItems gap_nil
  | .array (v :: r), depth => by
    simpa [Value.pretty] using Value.Written.array (gap_newline (depth + 1))
      (itemsWritten_pretty r (depth + 1) depth (v.written_pretty (depth + 1)))
  | .object [], _ => .noFields gap_nil
  | .object (p :: r), depth => by
    simpa [Value.pretty] using Value.Written.object (gap_newline (depth + 1))
      (fieldsWritten_pretty r (depth + 1) depth (fieldWritten_pretty p (depth + 1)))
termination_by structural v => v

theorem itemsWritten_pretty : ∀ (vs : List Value) (depth outer : Nat) {v : Value} {cs : List Char}, v.Written cs →
    ItemsWritten (v :: vs) (cs ++ (prettyItems depth vs ++ (newline outer ++ [']'])))
  | [], _, outer, _, _, h => .last h (gap_newline outer)
  | w :: r, depth, outer, _, _, h => by
    simpa [prettyItems] using ItemsWritten.cons h gap_nil (gap_newline depth)
      (itemsWritten_pretty r depth outer (w.written_pretty depth))
termination_by structural vs => vs

theorem fieldsWritten_pretty : ∀ (ps : List (String × Value)) (depth outer : Nat) {p : String × Value} {cs : List Char},
    FieldWritten p cs → FieldsWritten (p :: ps) (cs ++ (prettyFields depth ps ++ (newline outer ++ ['\x7d'])))
  | [], _, outer, _, _, h => .last h (gap_newline outer)
  | q :: r, depth, outer, _, _, h => by
    simpa [prettyFields] using FieldsWritten.cons h gap_nil (gap_newline depth)
      (fieldsWritten_pretty r depth outer (fieldWritten_pretty q depth))
termination_by structural ps => ps

theorem fieldWritten_pretty : ∀ (p : String × Value) (depth : Nat), FieldWritten p (prettyField depth p)
  | (k, v), depth => .mk k gap_nil gap_space (v.written_pretty depth)
termination_by structural p => p

end

end FilePlacement.Json
