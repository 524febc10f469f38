import FilePlacement.Text.Numeral

/-!
# Reading JSON

A text is read into a `Draft`: the value as far as it can be read, and at the place where the
text stops making sense the `Flaw` that was found there. Whoever needs the value walks the draft
from left to right, so that of two things that are wrong (a text that breaks off, a field of the
wrong type) the first one counts.

A string may hold an escape for half of a surrogate pair. Such a string denotes no text, which
matters to whoever wants the text, and to nobody else. A number that the end of the text cuts off is
an early end to whoever wants the value, and simply no number to whoever skips it.
-/

namespace FilePlacement.Json

/-- Why a text is not the JSON that was asked for. -/
inductive Flaw where
  /-- No JSON, or something after the value. -/
  | malformed
  /-- The text ends too early. -/
  | truncated
  /-- JSON that does not fit the record. -/
  | mismatched
  /-- A record written as an array has more items than fields. -/
  | surplus
deriving DecidableEq, Repr

/-- A number as it is written. -/
structure Numeral where
  negative : Bool
  whole : List Char
  fraction : Option (List Char)
  /-- Whether the exponent is negative, and its digits. -/
  exponent : Option (Bool × List Char)
deriving DecidableEq, Repr

inductive Draft where
  /-- The text breaks here. -/
  | broken (flaw : Flaw)
  /-- The text ends within a number. -/
  | cutNumber
  | null
  | bool (b : Bool)
  | number (n : Numeral)
  /-- The text that a string denotes, if it denotes one, and where the string itself breaks off. -/
  | text (content : Option String) (flaw : Option Flaw)
  /-- The items, and the flaw after the last one if the closing bracket is not reached. -/
  | array (items : List Draft) (tail : Option Flaw)
  /-- The fields, and the flaw after the last one if the closing brace is not reached. -/
  | object (fields : List (Option String × Draft)) (tail : Option Flaw)

/-! ## Strings -/

/-- What stands next inside a string. -/
inductive StringUnit where
  | close (rest : List Char)
  | char (c : Char) (rest : List Char)
  /-- Half of a surrogate pair. -/
  | half (rest : List Char)
  | broken (flaw : Flaw)

/-- The value of four hexadecimal digits. A text of less than four bytes is too short for them. -/
def hexUnit (cs : List Char) : Except Flaw (Nat × List Char) :=
  match cs with
  | a :: b :: c :: d :: r =>
    if [a, b, c, d].all (Text.isDigitOf 16) then .ok (Text.valueOf 16 [a, b, c, d], r) else .error .malformed
  | short => if (String.ofList short).utf8ByteSize < 4 then .error .truncated else .error .malformed

def isHighSurrogate (n : Nat) : Bool := 0xD800 ≤ n && n ≤ 0xDBFF

def isLowSurrogate (n : Nat) : Bool := 0xDC00 ≤ n && n ≤ 0xDFFF

/-- The character that the two halves of a surrogate pair denote. -/
def pairedChar (high low : Nat) : Char := Char.ofNat ((high - 0xD800) * 0x400 + (low - 0xDC00) + 0x10000)

/-- What follows a backslash and a `u`. -/
def unicodeUnit (cs : List Char) : StringUnit :=
  match hexUnit cs with
  | .error f => .broken f
  | .ok (n, rest) =>
    if isLowSurrogate n then .half rest
    else if isHighSurrogate n then
      match rest with
      | [] => .broken .truncated
      | ['\\'] => .broken .truncated
      | '\\' :: 'u' :: r =>
        match hexUnit r with
        | .error f => .broken f
        | .ok (m, r) => if isLowSurrogate m then .char (pairedChar n m) r else .half rest
      | _ => .half rest
    else .char (Char.ofNat n) rest

/-- What follows a backslash. -/
def escapeUnit : List Char → StringUnit
  | [] => .broken .truncated
  | '"' :: r => .char '"' r
  | '\\' :: r => .char '\\' r
  | '/' :: r => .char '/' r
  | 'b' :: r => .char '\x08' r
  | 'f' :: r => .char '\x0C' r
  | 'n' :: r => .char '\n' r
  | 'r' :: r => .char '\r' r
  | 't' :: r => .char '\t' r
  | 'u' :: r => unicodeUnit r
  | _ => .broken .malformed

def stringUnit : List Char → StringUnit
  | [] => .broken .truncated
  | '"' :: r => .close r
  | '\\' :: r => escapeUnit r
  | c :: r => if c.toNat < 0x20 then .broken .malformed else .char c r

/-- A string that has been read: its text if it denotes one, and either its flaw or what follows. -/
structure StringRead where
  content : Option String
  outcome : Except Flaw (List Char)

/-- Reads a string after its opening quote. `seen` are the characters so far, last first, or
nothing once there was half of a surrogate pair. The fuel is at least the length of the text. -/
def readString : Nat → List Char → Option (List Char) → StringRead
  | 0, _, seen => ⟨seen.map fun cs => String.ofList cs.reverse, .error .truncated⟩
  | fuel + 1, cs, seen =>
    match stringUnit cs with
    | .close r => ⟨seen.map fun cs => String.ofList cs.reverse, .ok r⟩
    | .char c r => readString fuel r (seen.map (c :: ·))
    | .half r => readString fuel r none
    | .broken f => ⟨seen.map fun cs => String.ofList cs.reverse, .error f⟩

/-! ## Numbers -/

def isDigit (c : Char) : Bool := '0' ≤ c && c ≤ '9'

/-- A non-empty row of digits and what follows it. -/
def digitRow (cs : List Char) : Except Flaw (List Char × List Char) :=
  match cs with
  | [] => .error .truncated
  | c :: _ => if isDigit c then .ok (cs.takeWhile isDigit, cs.dropWhile isDigit) else .error .malformed

/-- The digits in front of the point; a leading zero stands alone. -/
def wholePart (cs : List Char) : Except Flaw (List Char × List Char) :=
  match cs with
  | '0' :: c :: r => if isDigit c then .error .malformed else .ok (['0'], c :: r)
  | cs => digitRow cs

def fractionPart (cs : List Char) : Except Flaw (Option (List Char) × List Char) :=
  match cs with
  | '.' :: r => (digitRow r).map fun (ds, r) => (some ds, r)
  | cs => .ok (none, cs)

def exponentPart (cs : List Char) : Except Flaw (Option (Bool × List Char) × List Char) :=
  match cs with
  | c :: r =>
    if c = 'e' || c = 'E' then
      match r with
      | '-' :: r => (digitRow r).map fun (ds, r) => (some (true, ds), r)
      | '+' :: r => (digitRow r).map fun (ds, r) => (some (false, ds), r)
      | r => (digitRow r).map fun (ds, r) => (some (false, ds), r)
    else .ok (none, cs)
  | [] => .ok (none, cs)

/-- Reads a number after its sign. -/
def readNumber (negative : Bool) (cs : List Char) : Except Flaw (Numeral × List Char) := do
  let (whole, cs) ← wholePart cs
  let (fraction, cs) ← fractionPart cs
  let (exponent, cs) ← exponentPart cs
  return (⟨negative, whole, fraction, exponent⟩, cs)

namespace Numeral

/-- The whole number that a numeral without point and exponent denotes. Minus zero is none. -/
def toInt? (n : Numeral) : Option Int :=
  if n.fraction.isSome || n.exponent.isSome then none
  else
    let v := Text.valueOf 10 n.whole
    if n.negative then (if v = 0 then none else some (-(v : Int))) else some v

/-- The whole digits as far as they fit 64 bits, and how many are left. -/
def wholeDigits (n : Nat) : List Char → Nat × Int
  | [] => (n, 0)
  | c :: r =>
    let m := n * 10 + Text.digitValue c
    if m < UInt64.size then wholeDigits m r else (n, (c :: r).length)

/-- Puts digits behind the point to a number as far as it fits 64 bits, and says how many. -/
def fractionDigits (n : Nat) : List Char → Nat × Int
  | [] => (n, 0)
  | c :: r =>
    let m := n * 10 + Text.digitValue c
    if m < UInt64.size then
      let (m, count) := fractionDigits m r
      (m, count + 1)
    else (n, 0)

/-- The digits that count, as a number of 64 bits, and the power of ten that it counts. -/
def scaled (n : Numeral) : Nat × Int :=
  let (whole, left) := wholeDigits 0 n.whole
  let (digits, count) := fractionDigits whole (n.fraction.getD [])
  let e : Int := match n.exponent with
    | none => 0
    | some (true, ds) => -(Text.valueOf 10 ds : Int)
    | some (false, ds) => Text.valueOf 10 ds
  (digits, left - count + e)

/-- The nearest number with 53 binary digits that count, the even one of two. -/
def nearestDouble (n : Nat) : Nat :=
  let unit := Nat.pow 2 (Nat.log2 n + 1 - 53)
  let (q, r) := (n / unit, n % unit)
  unit * (if 2 * r > unit || (2 * r = unit && q % 2 = 1) then q + 1 else q)

/-- Half a unit above the largest finite double. -/
def doubleLimit : Nat := Nat.pow 2 1024 - Nat.pow 2 970

/-- The largest power of ten that is a double. -/
def maxPower : Nat := 308

/-- Whether a numeral is beyond what a double can hold. Its digits are multiplied as a double with a
double that is a power of ten; a larger power is too much for any digits. -/
def overflows (n : Numeral) : Bool :=
  let (digits, e) := n.scaled
  if digits = 0 || e < 0 then false
  else e > maxPower || doubleLimit ≤ nearestDouble digits * nearestDouble (Nat.pow 10 e.toNat)

end Numeral

/-! ## Values -/

def isSpace (c : Char) : Bool := c = ' ' || c = '\n' || c = '\t' || c = '\r'

def skipSpace (cs : List Char) : List Char := cs.dropWhile isSpace

/-- Reads the rest of a word whose first letter has been seen. -/
def readWord (word : List Char) (d : Draft) (cs : List Char) : Draft × Option (List Char) :=
  match word, cs with
  | [], cs => (d, some cs)
  | _, [] => (.broken .truncated, none)
  | w :: ws, c :: r => if w = c then readWord ws d r else (.broken .malformed, none)

/-- Reads a string as a value. -/
def readText (cs : List Char) : Draft × Option (List Char) :=
  let s := readString (cs.length + 1) cs (some [])
  match s.outcome with
  | .ok r => (.text s.content none, some r)
  | .error f => (.text s.content (some f), none)

def readNumeral (negative : Bool) (cs : List Char) : Draft × Option (List Char) :=
  match readNumber negative cs with
  | .ok (n, r) => (.number n, some r)
  | .error .truncated => (.cutNumber, none)
  | .error f => (.broken f, none)

mutual

/-- Reads a value and says what follows it, unless it is broken. The fuel is at least the length of
the text. -/
def readValue : Nat → List Char → Draft × Option (List Char)
  | 0, _ => (.broken .truncated, none)
  | fuel + 1, cs =>
    match skipSpace cs with
    | [] => (.broken .truncated, none)
    | c :: r =>
      if c = 'n' then readWord ['u', 'l', 'l'] .null r
      else if c = 't' then readWord ['r', 'u', 'e'] (.bool true) r
      else if c = 'f' then readWord ['a', 'l', 's', 'e'] (.bool false) r
      else if c = '"' then readText r
      else if c = '-' then readNumeral true r
      else if isDigit c then readNumeral false (c :: r)
      else if c = '[' then
        match skipSpace r with
        | [] => (.array [] (some .truncated), none)
        | d :: s =>
          if d = ']' then (.array [] none, some s)
          else
            let (items, tail, rest) := readItems fuel (d :: s)
            (.array items tail, rest)
      else if c = '\x7b' then
        match skipSpace r with
        | [] => (.object [] (some .truncated), none)
        | d :: s =>
          if d = '\x7d' then (.object [] none, some s)
          else
            let (fields, tail, rest) := readFields fuel (d :: s)
            (.object fields tail, rest)
      else (.broken .malformed, none)

/-- Reads the items of an array, at least one, up to its closing bracket. -/
def readItems : Nat → List Char → List Draft × Option Flaw × Option (List Char)
  | 0, _ => ([], some .truncated, none)
  | fuel + 1, cs =>
    match readValue fuel cs with
    | (d, none) => ([d], none, none)
    | (d, some r) =>
      match skipSpace r with
      | [] => ([d], some .truncated, none)
      | c :: r =>
        if c = ']' then ([d], none, some r)
        else if c = ',' then
          match skipSpace r with
          | [] => ([d, .broken .truncated], none, none)
          | e :: s =>
            if e = ']' then ([d, .broken .malformed], none, none)
            else
              let (items, tail, rest) := readItems fuel (e :: s)
              (d :: items, tail, rest)
        else ([d], some .malformed, none)

/-- Reads the fields of an object, at least one, up to its closing brace. -/
def readFields : Nat → List Char → List (Option String × Draft) × Option Flaw × Option (List Char)
  | 0, _ => ([], some .truncated, none)
  | fuel + 1, cs =>
    match cs with
    | '"' :: r =>
      let key := readString (r.length + 1) r (some [])
      match key.outcome with
      | .error f => if key.content.isSome then ([], some f, none) else ([(none, .broken f)], none, none)
      | .ok r =>
        match skipSpace r with
        | [] => ([(key.content, .broken .truncated)], none, none)
        | c :: r =>
          if c = ':' then
            match readValue fuel r with
            | (d, none) => ([(key.content, d)], none, none)
            | (d, some r) =>
              match skipSpace r with
              | [] => ([(key.content, d)], some .truncated, none)
              | c :: r =>
                if c = '\x7d' then ([(key.content, d)], none, some r)
                else if c = ',' then
                  match skipSpace r with
                  | [] => ([(key.content, d)], some .truncated, none)
                  | e :: s =>
                    let (fields, tail, rest) := readFields fuel (e :: s)
                    ((key.content, d) :: fields, tail, rest)
                else ([(key.content, d)], some .malformed, none)
          else ([(key.content, .broken .malformed)], none, none)
    | [] => ([], some .truncated, none)
    | _ => ([], some .malformed, none)

end

/-- A whole text: the value at its beginning, and what follows the value. -/
structure Document where
  draft : Draft
  /-- There is something after the value. -/
  trailing : Bool

def Document.ofChars (cs : List Char) : Document :=
  match readValue (2 * cs.length + 2) cs with
  | (d, some rest) => ⟨d, !(skipSpace rest).isEmpty⟩
  | (d, none) => ⟨d, false⟩

/-! ## Looking for flaws -/

mutual

/-- The first flaw of a value that nobody wants to know. -/
def Draft.flaw? : Draft → Option Flaw
  | .broken f => some f
  | .cutNumber => some .malformed
  | .null | .bool _ | .number _ => none
  | .text _ f => f
  | .array items tail => (flawOfItems items).or tail
  | .object fields tail => (flawOfFields fields).or tail
termination_by structural d => d

def flawOfItems : List Draft → Option Flaw
  | [] => none
  | d :: r => d.flaw?.or (flawOfItems r)
termination_by structural ds => ds

def flawOfFields : List (Option String × Draft) → Option Flaw
  | [] => none
  | p :: r => (flawOfField p).or (flawOfFields r)
termination_by structural ps => ps

def flawOfField : Option String × Draft → Option Flaw
  | (_, d) => d.flaw?
termination_by structural p => p

end

end FilePlacement.Json
