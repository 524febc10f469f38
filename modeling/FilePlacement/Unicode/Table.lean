import FilePlacement.Text.Numeral
import FilePlacement.Text.Pieces

/-!
# Tables of code points

A table says something about ranges of code points. It is written as a text of entries between
blanks, with all numbers in hexadecimal: `300-36F` is a range, `100-12E/2` every second code point
of one, and `DF=73.73` a code point with values. A table is read once and then looked up.
-/

namespace FilePlacement.Unicode

/-- Every `step`th code point from `first` to `last`, and the values that belong to them. -/
structure Entry where
  first : Nat
  last : Nat
  step : Nat
  values : List Nat
deriving DecidableEq, Repr

namespace Entry

/-- A text before and behind a separator; the second one is empty if there is none. -/
def halves (sep : Char) (cs : List Char) : List Char × List Char := (Text.cut sep cs).getD (cs, [])

def ofChars (cs : List Char) : Entry :=
  let (keys, values) := halves '=' cs
  let (range, step) := halves '/' keys
  let (first, last) := halves '-' range
  { first := Text.valueOf 16 first
    last := Text.valueOf 16 (if last.isEmpty then first else last)
    step := if step.isEmpty then 1 else Text.valueOf 16 step
    values := if values.isEmpty then [] else (Text.pieces '.' values).map (Text.valueOf 16) }

def covers (e : Entry) (n : Nat) : Bool := e.first ≤ n && n ≤ e.last && (n - e.first) % e.step = 0

/-- The values of a code point where a single value belongs to the first one and goes up with it. -/
def valuesAt (e : Entry) (n : Nat) : List Nat :=
  match e.values with
  | [v] => [v + (n - e.first)]
  | vs => vs

end Entry

abbrev Table := List Entry

namespace Table

/-- The words between spaces and line breaks. -/
def words (s : String) : List (List Char) :=
  let (done, last) := s.toList.foldl (fun (done, word) c =>
    if c = ' ' || c = '\n' then (if word.isEmpty then done else word.reverse :: done, []) else (done, c :: word)) ([], [])
  (if last.isEmpty then done else last.reverse :: done).reverse

def ofText (s : String) : Table := (words s).map Entry.ofChars

def entry? (t : Table) (c : Char) : Option Entry := t.find? fun e => e.covers c.toNat

def contains (t : Table) (c : Char) : Bool := t.any fun e => e.covers c.toNat

end Table

end FilePlacement.Unicode
