import FilePlacement.Text.Numeral

/-!
# Spans of time

Spans are whole milliseconds. They are shown in the largest unit that leaves something in front
of the point, without trailing zeros: `0ns`, `500ms`, `1.5s`, `3600s`.
-/

namespace FilePlacement.Time

/-- A span of time in milliseconds. -/
structure Span where
  milliseconds : Nat
deriving DecidableEq, Repr

namespace Span

def ofSeconds (n : Nat) : Span := ⟨n * 1000⟩

/-- The fraction of a second that so many milliseconds are, without trailing zeros. -/
def fraction (ms : Nat) : List Char :=
  ((Text.zeroPadded 3 (Text.digits 10 ms)).reverse.dropWhile (· = '0')).reverse

def text (d : Span) : String :=
  if d.milliseconds = 0 then "0ns"
  else if d.milliseconds < 1000 then Text.decimal d.milliseconds ++ "ms"
  else if d.milliseconds % 1000 = 0 then Text.decimal (d.milliseconds / 1000) ++ "s"
  else Text.decimal (d.milliseconds / 1000) ++ "." ++ String.ofList (fraction (d.milliseconds % 1000)) ++ "s"

end Span

end FilePlacement.Time
