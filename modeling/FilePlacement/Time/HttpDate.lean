import FilePlacement.Fault
import FilePlacement.Text.Blank
import FilePlacement.Text.Pieces
import FilePlacement.Time.Calendar

/-!
# Dates of HTTP headers

`Wed, 21 Oct 2015 07:28:00 GMT`: weekday, date, time and zone. A zone that is a word counts as
UTC; otherwise it is an offset such as `+0200`. White space between the parts may be missing or
longer, numbers may have fewer digits, but nothing may be left over, and the weekday has to fit.
-/

namespace FilePlacement.Time.HttpDate

/-- A reader takes something off the front of a text. -/
abbrev Reader (α : Type) := List Char → Option (α × List Char)

def weekdayNames : List String := ["mon", "tue", "wed", "thu", "fri", "sat", "sun"]

def monthNames : List String := ["jan", "feb", "mar", "apr", "may", "jun", "jul", "aug", "sep", "oct", "nov", "dec"]

/-- Reads one of some names of three letters in any case, and gives its place. -/
def readName (names : List String) : Reader Nat
  | a :: b :: c :: r =>
    match names.idxOf? (String.ofList ([a, b, c].map Char.toLower)) with
    | some i => some (i, r)
    | none => none
  | _ => none

def skipBlank (cs : List Char) : List Char := cs.dropWhile Text.isBlank

def isDigit (c : Char) : Bool := '0' ≤ c && c ≤ '9'

/-- Reads one to `width` digits. -/
def readDigits (width : Nat) : Reader Nat := fun cs =>
  let ds := (cs.take width).takeWhile isDigit
  if ds.isEmpty then none else some (Text.valueOf 10 ds, cs.drop ds.length)

/-- Reads a number of at most two digits with white space in front. -/
def readNumber : Reader Nat := fun cs => readDigits 2 (skipBlank cs)

/-- Reads a year: up to four digits, or any number of them behind a sign. -/
def readYear : Reader Int := fun cs =>
  match skipBlank cs with
  | '-' :: r => (readDigits r.length r).map fun (n, r) => (-(n : Int), r)
  | '+' :: r => (readDigits r.length r).map fun (n, r) => ((n : Int), r)
  | r => (readDigits 4 r).map fun (n, r) => ((n : Int), r)

def readChar (c : Char) : Reader Unit
  | d :: r => if d = c then some ((), r) else none
  | [] => none

/-- A date and a time of day with the weekday that goes with them. -/
structure Stamp where
  weekday : Nat
  date : Date
  clock : Clock
deriving DecidableEq, Repr

/-- Whether date and time exist and the weekday is theirs. -/
def Stamp.IsValid (s : Stamp) : Prop :=
  s.date.IsValid ∧ s.date.weekday = s.weekday ∧ s.clock.hour ≤ 23 ∧ s.clock.minute ≤ 59 ∧ s.clock.second ≤ 60

instance (s : Stamp) : Decidable s.IsValid := by unfold Stamp.IsValid; infer_instance

/-- Reads weekday, date and time. -/
def readStamp : Reader Stamp := fun cs => do
  let (weekday, cs) ← readName weekdayNames cs
  let (_, cs) ← readChar ',' cs
  let (day, cs) ← readNumber (skipBlank cs)
  let (month, cs) ← readName monthNames (skipBlank cs)
  let (year, cs) ← readYear (skipBlank cs)
  let (hour, cs) ← readNumber (skipBlank cs)
  let (_, cs) ← readChar ':' cs
  let (minute, cs) ← readNumber cs
  let (_, cs) ← readChar ':' cs
  let (second, cs) ← readNumber cs
  return (⟨weekday, ⟨year, month + 1, day⟩, ⟨hour, minute, second⟩⟩, cs)

/-- The sign of an offset. -/
def offsetSign? (c : Char) : Option Int :=
  if c = '+' then some 1 else if c = '-' || c = '\u2212' then some (-1) else none

def twoDigits? (a b : Char) : Option Nat :=
  if isDigit a && isDigit b then some (Text.valueOf 10 [a, b]) else none

/-- Reads an offset from UTC in seconds: a sign, two digits of hours, two of minutes. -/
def readOffset : Reader Int
  | sign :: a :: b :: r => do
    let sign ← offsetSign? sign
    let hours ← twoDigits? a b
    match r.dropWhile fun c => c = ':' || Text.isBlank c with
    | c :: d :: r =>
      let minutes ← twoDigits? c d
      if minutes ≤ 59 ∧ hours ≤ 23 then some (sign * (hours * 3600 + minutes * 60 : Nat), r) else none
    | _ => none
  | _ => none

/-- The moment of a stamp at an offset from UTC. -/
def Stamp.instant? (s : Stamp) (offset : Int) : Option Instant :=
  if s.IsValid then
    let t := (Instant.ofDateClock s.date s.clock).plus (-offset)
    if minYear ≤ t.date.year ∧ t.date.year ≤ maxYear then some t else none
  else none

/-- A stamp whose zone is a word. -/
def inNamedZone? (cs : List Char) : Option Instant := do
  let (stamp, zone) ← Text.cutLast ' ' cs
  if zone.isEmpty || !zone.all Char.isAlpha then none
  else
    let (s, rest) ← readStamp stamp
    if rest.isEmpty then s.instant? 0 else none

/-- A stamp with an offset. -/
def atOffset? (cs : List Char) : Option Instant := do
  let (s, rest) ← readStamp cs
  let (offset, rest) ← readOffset (skipBlank rest)
  if rest.isEmpty then s.instant? offset else none

/-- Reads the date of a header. -/
def parse (value : String) : Except Fault Instant :=
  let cs := Text.trim value.toList
  match (inNamedZone? cs).or (atOffset? cs) with
  | some t => .ok t
  | none => .error (.invalidDateHeader value)

end FilePlacement.Time.HttpDate
