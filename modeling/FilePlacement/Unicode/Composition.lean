import FilePlacement.Unicode.CombiningClass
import FilePlacement.Unicode.Composite

/-!
# Composed texts

Texts that mean the same can differ in their characters: a letter with a mark may be one character
or two, and marks that do not touch may stand in any order. `composed` chooses one of them: all
composites are taken apart, the marks of each character are put in the order of their classes, and
what has a composite is put together again.
-/

namespace FilePlacement.Unicode

/-! ## Syllables

The syllables of Hangul are composites of a leading letter, a vowel and perhaps a closing letter.
They stand in the order of their parts, so no table is needed. -/

/-- The leading letters, vowels, closing letters and syllables begin here. The first closing letter
is none. -/
def leadingBase : Nat := 0x1100
def vowelBase : Nat := 0x1161
def closingBase : Nat := 0x11A7
def syllableBase : Nat := 0xAC00

def vowelCount : Nat := 21
def closingCount : Nat := 28
def leadingCount : Nat := 19
def syllableCount : Nat := leadingCount * vowelCount * closingCount

/-- The two parts of a syllable: what stands in front of its last letter, and that letter. -/
def syllableParts? (c : Char) : Option (Char × Char) :=
  let i := c.toNat - syllableBase
  if c.toNat < syllableBase || i ≥ syllableCount then none
  else if i % closingCount = 0 then
    let pair := i / closingCount
    some (Char.ofNat (leadingBase + pair / vowelCount), Char.ofNat (vowelBase + pair % vowelCount))
  else some (Char.ofNat (c.toNat - i % closingCount), Char.ofNat (closingBase + i % closingCount))

/-- The syllable of a leading letter and a vowel, or of an open syllable and a closing letter. -/
def syllable? (a b : Char) : Option Char :=
  let leading := a.toNat - leadingBase
  let vowel := b.toNat - vowelBase
  let i := a.toNat - syllableBase
  let closing := b.toNat - closingBase
  if leadingBase ≤ a.toNat && leading < leadingCount && vowelBase ≤ b.toNat && vowel < vowelCount then
    some (Char.ofNat (syllableBase + (leading * vowelCount + vowel) * closingCount))
  else if syllableBase ≤ a.toNat && i < syllableCount && i % closingCount = 0 && closingBase < b.toNat
      && closing < closingCount then some (Char.ofNat (a.toNat + closing))
  else none

/-! ## Taking apart -/

/-- How often a composite can have a part that is a composite. -/
def maxDepth : Nat := 3

/-- A character taken apart so many times at most. -/
def decomposed : Nat → Char → List Char
  | 0, c => [c]
  | depth + 1, c =>
    match (syllableParts? c).or (parts? c) with
    | some (a, b) => decomposed depth a ++ decomposed depth b
    | none => [c]

/-- Puts a character in front of others; a mark goes behind those of a lower class. -/
def insertMark (c : Char) : List Char → List Char
  | [] => [c]
  | d :: r =>
    if combiningClass d ≠ 0 && combiningClass d < combiningClass c then d :: insertMark c r else c :: d :: r

/-- Each row of marks in the order of their classes. -/
def orderMarks (cs : List Char) : List Char := cs.foldr insertMark []

/-! ## Putting together -/

/-- Puts together what follows a character. `marks` are the ones that it did not take in, last one
first; a mark that is behind one of its own or a higher class cannot get at the character. -/
def composeFrom (base : Char) (marks : List Char) : List Char → List Char
  | [] => base :: marks.reverse
  | c :: r =>
    let reaches := match marks with
      | [] => true
      | m :: _ => combiningClass m < combiningClass c
    match if reaches then (syllable? base c).or (composite? base c) else none with
    | some d => composeFrom d marks r
    | none =>
      if combiningClass c = 0 then base :: marks.reverse ++ composeFrom c [] r else composeFrom base (c :: marks) r

/-- Puts together what can be put together; marks in front of all else stay. -/
def compose : List Char → List Char
  | [] => []
  | c :: r => if combiningClass c = 0 then composeFrom c [] r else c :: compose r

/-- The composed form of a text. Nothing in front of the first mark is ever changed. -/
def composed (cs : List Char) : List Char :=
  if cs.all fun c => c.toNat < 0x300 then cs else compose (orderMarks (cs.flatMap (decomposed maxDepth)))

end FilePlacement.Unicode
