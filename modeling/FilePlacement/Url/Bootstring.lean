/-!
# Bootstring coding

Writes any characters with ASCII letters, digits and `-` alone. The ASCII characters come first, as
they are; behind a `-` follow numbers that say which of the other characters are to be put where,
the smallest character first. A number is written with digits of varying base, which adapts to the
size of the numbers before it.
-/

namespace FilePlacement.Url.Bootstring

/-- The digit of a value below 36. -/
def digit (n : Nat) : Char := Char.ofNat (if n < 26 then 97 + n else 22 + n)

def digitValue? (c : Char) : Option Nat :=
  if 'a' ≤ c && c ≤ 'z' then some (c.toNat - 97)
  else if 'A' ≤ c && c ≤ 'Z' then some (c.toNat - 65)
  else if '0' ≤ c && c ≤ '9' then some (c.toNat - 22)
  else none

/-- What the digit at a position has to stay below to be the last one. -/
def threshold (bias position : Nat) : Nat :=
  if position ≤ bias then 1 else if position ≥ bias + 26 then 26 else position - bias

theorem threshold_pos (bias position : Nat) : 1 ≤ threshold bias position := by
  unfold threshold; split
  · omega
  · split <;> omega

/-- How often a number is divided by 35 until it is small, and what is left of it. -/
def shrink (n : Nat) : Nat × Nat :=
  if 455 < n then
    let (times, rest) := shrink (n / 35)
    (times + 1, rest)
  else (0, n)
termination_by n
decreasing_by exact Nat.div_lt_self (by omega) (by omega)

/-- The bias behind a number, when so many characters have been placed. -/
def adapt (number placed : Nat) (first : Bool) : Nat :=
  let n := if first then number / 700 else number / 2
  let (times, rest) := shrink (n + n / placed)
  36 * times + 36 * rest / (rest + 38)

/-! ## Encoding -/

def encodeNumber (bias position n : Nat) : List Char :=
  let t := threshold bias position
  if n < t then [digit n]
  else digit (t + (n - t) % (36 - t)) :: encodeNumber bias (position + 36) ((n - t) / (36 - t))
termination_by n
decreasing_by
  have := threshold_pos bias position
  have := Nat.div_le_self (n - threshold bias position) (36 - threshold bias position)
  omega

/-- What is known behind each character that has been encoded. -/
structure Encoding where
  /-- How many places lie between the last character and the next one. -/
  distance : Nat
  bias : Nat
  placed : Nat
  output : List Char

/-- Goes over a text for one of its characters: smaller ones are places on the way. -/
def Encoding.step (ascii point : Nat) (e : Encoding) (c : Nat) : Encoding :=
  if c < point then { e with distance := e.distance + 1 }
  else if c = point then
    { distance := 0
      bias := adapt e.distance (e.placed + 1) (e.placed = ascii)
      placed := e.placed + 1
      output := e.output ++ encodeNumber e.bias 36 e.distance }
  else e

/-- Encodes the characters of a text from `low` on, in ascending order. -/
def Encoding.steps (ascii : Nat) (text : List Nat) : List Nat → Nat → Encoding → Encoding
  | [], _, e => e
  | point :: r, low, e =>
    let e := text.foldl (step ascii point) { e with distance := e.distance + (point - low) * (e.placed + 1) }
    steps ascii text r (point + 1) { e with distance := e.distance + 1 }

def encode (cs : List Char) : List Char :=
  let ascii := cs.filter fun c => c.toNat < 0x80
  let text := cs.map Char.toNat
  let others := (text.filter (0x80 ≤ ·)).mergeSort.eraseDups
  let start := if ascii.isEmpty then [] else ascii ++ ['-']
  (Encoding.steps ascii.length text others 0x80 ⟨0, 72, ascii.length, start⟩).output

/-! ## Decoding -/

/-- Adds a number to `n` and says what follows it. It has to fit 32 bits. -/
def decodeNumber (bias position weight n : Nat) : List Char → Option (Nat × List Char)
  | [] => none
  | c :: r => do
    let d ← digitValue? c
    let sum := n + d * weight
    if sum ≥ UInt32.size then none
    else
      let t := threshold bias position
      if d < t then return (sum, r)
      else if weight * (36 - t) ≥ UInt32.size then none
      else decodeNumber bias (position + 36) (weight * (36 - t)) sum r

theorem length_of_decodeNumber {bias position weight n m : Nat} {cs r : List Char}
    (h : decodeNumber bias position weight n cs = some (m, r)) : r.length < cs.length := by
  induction cs generalizing position weight n with
  | nil => simp [decodeNumber] at h
  | cons c cs ih =>
    unfold decodeNumber at h
    cases hd : digitValue? c with
    | none => simp [hd] at h
    | some d =>
      simp only [hd, Option.bind_eq_bind, Option.bind_some] at h
      split at h
      · simp at h
      · split at h
        · simp only [Option.pure_def, Option.some.injEq, Prod.mk.injEq] at h
          simp [← h.2]
        · split at h
          · simp at h
          · have := ih h
            simp only [List.length_cons]
            omega

/-- Puts characters into `text` as the numbers say. -/
def decodeFrom (bias point place : Nat) (text cs : List Char) : Option (List Char) :=
  if cs.isEmpty then some text
  else match _h : decodeNumber bias 36 1 place cs with
    | none => none
    | some (n, r) =>
      let count := text.length + 1
      let point := point + n / count
      if point.isValidChar then
        decodeFrom (adapt (n - place) count (place = 0)) point (n % count + 1)
          (text.insertIdx (n % count) (Char.ofNat point)) r
      else none
termination_by cs.length
decreasing_by exact length_of_decodeNumber _h

/-- The ASCII characters in front of the last `-`, and the numbers behind it. A `-` in front of all
else is no separator. -/
def cutLiteral (cs : List Char) : List Char × List Char :=
  let numbers := (cs.reverse.takeWhile (· ≠ '-')).reverse
  let literal := cs.take (cs.length - numbers.length - 1)
  if literal.isEmpty then ([], cs) else (literal, numbers)

def decode (cs : List Char) : Option (List Char) :=
  let (literal, numbers) := cutLiteral cs
  if literal.all fun c => c.toNat < 0x80 then decodeFrom 72 0x80 0 literal numbers else none

end FilePlacement.Url.Bootstring
