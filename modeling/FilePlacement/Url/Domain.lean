import FilePlacement.Unicode.Composition
import FilePlacement.Unicode.Direction
import FilePlacement.Unicode.Joining
import FilePlacement.Url.Bootstring
import FilePlacement.Url.Domain.Mapping

/-!
# Domains

The ASCII form of a domain. Every character counts as what `mapping` says, the text is
composed, and labels beyond ASCII are coded behind `xn--`. A label that is coded already has to be
the code of a label that could stand there itself.

A label may not begin with a mark, invisible joiners stand only where they make a difference, and
if any label has letters that are written from the right, each label has to read in one direction.
-/

namespace FilePlacement.Url.Domain

open Unicode (Direction direction)

/-- Characters that no domain may hold. -/
def isForbidden (c : Char) : Bool :=
  c.toNat ≤ 0x20 || c.toNat = 0x7F
    || ['%', '#', '/', ':', '<', '>', '?', '@', '[', '\\', ']', '^', '|'].contains c

def isAscii (c : Char) : Bool := c.toNat < 0x80

/-! ## Joiners -/

def nonJoiner : Char := '\u200C'

def joiner : Char := '\u200D'

/-- Whether the letters around a place would join there. `before` is read from the place backwards. -/
def isJunction (before after : List Char) : Bool :=
  ((before.dropWhile Unicode.isTransparent).head?.any Unicode.joinsForward)
    && ((after.dropWhile Unicode.isTransparent).head?.any Unicode.joinsBackward)

/-- Whether each joiner stands behind a sign that takes a vowel away, or between letters that would
join without it. -/
def joinersFit (before : List Char) : List Char → Bool
  | [] => true
  | c :: r =>
    let fits :=
      if c = joiner || c = nonJoiner then
        before.head?.any (fun b => Unicode.combiningClass b = Unicode.viramaClass)
          || (c = nonJoiner && isJunction before r)
      else true
    fits && joinersFit (c :: before) r

/-! ## Directions -/

def isFromRight (d : Direction) : Bool := d = .right || d = .arabicLetter || d = .arabicNumber

/-- What may stand in a label of either direction. -/
def isEitherWay (d : Direction) : Bool :=
  match d with
  | .number | .numberSeparator | .numberTerminator | .commonSeparator | .neutral | .boundary | .mark => true
  | _ => false

/-- Whether a label reads in one direction: it begins with a letter of that direction, ends in such a
letter or a number, apart from marks, and has no letter of the other direction. A label from the
right has digits of one kind. -/
def readsOneWay (label : List Direction) : Bool :=
  let last := (label.reverse.dropWhile (· = .mark)).head?
  match label.head? with
  | some .left =>
    label.all (fun d => d = .left || isEitherWay d) && (last = some .left || last = some .number)
  | some .right | some .arabicLetter =>
    label.all (fun d => isFromRight d || isEitherWay d)
      && last.any (fun d => isFromRight d || d = .number)
      && !(label.contains .number && label.contains .arabicNumber)
  | some _ => false
  | none => true

/-! ## Labels -/

/-- A label as people read it, and in ASCII. -/
structure Label where
  text : List Char
  ascii : List Char
deriving DecidableEq, Repr

def codePrefix : List Char := ['x', 'n', '-', '-']

/-- Whether characters may stand as a label, directions aside. -/
def isLabel (cs : List Char) : Bool :=
  if cs.all isAscii then true else !cs.head?.any Unicode.isMark && joinersFit [] cs

/-- The most characters that a label beyond ASCII can have. -/
def maxLength : Nat := 1000

/-- The most characters that a coded label can have. -/
def maxCoded : Nat := 2000

/-- The label that a code stands for: one that counts as itself and needs a code. -/
def decoded? (code : List Char) : Option (List Char) :=
  if code.length > maxCoded then none
  else match Bootstring.decode code with
    | some cs =>
      if !cs.all isAscii && cs.all (fun c => mapping c = some [c]) && Unicode.composed cs = cs && isLabel cs then
        some cs
      else none
    | none => none

/-- Reads a label whose characters count as themselves. -/
def label? (cs : List Char) : Option Label :=
  if codePrefix.isPrefixOf cs then
    if cs.all isAscii then (decoded? (cs.drop codePrefix.length)).map fun text => ⟨text, cs⟩ else none
  else if cs.all isAscii then some ⟨cs, cs⟩
  else if isLabel cs && cs.length ≤ maxLength then some ⟨cs, codePrefix ++ Bootstring.encode cs⟩
  else none

/-! ## Whole domains -/

/-- Whether the directions of all labels fit together. -/
def directionsFit (labels : List Label) : Bool :=
  if labels.all fun l => l.text.all isAscii then true
  else
    let directions := labels.map fun l => l.text.map direction
    !(directions.any fun l => l.any isFromRight) || directions.all readsOneWay

/-- The characters that those of a domain count as, composed; `none` if one may not be there. -/
def mapped? (cs : List Char) : Option (List Char) :=
  match cs.mapM mapping with
  | some parts =>
    let text := Unicode.composed parts.flatten
    if text.any isForbidden then none else some text
  | none => none

/-- The ASCII form of a domain, in lower case; `none` if it has none. -/
def toAscii? (cs : List Char) : Option (List Char) :=
  match (mapped? cs).bind fun text => (Text.pieces '.' text).mapM label? with
  | some labels => if directionsFit labels then some (['.'].intercalate (labels.map Label.ascii)) else none
  | none => none

end FilePlacement.Url.Domain
