/-!
# Numerals

Whole numbers in positional notation. `digits` writes without leading zeros, `ofDigits?` reads
any non-empty row of digits, with leading zeros too.
-/

namespace FilePlacement.Text

/-- The value of a digit, lower or upper case. -/
def digitValue (c : Char) : Nat :=
  if '0' ≤ c ∧ c ≤ '9' then c.toNat - '0'.toNat
  else if 'a' ≤ c ∧ c ≤ 'z' then c.toNat - 'a'.toNat + 10
  else if 'A' ≤ c ∧ c ≤ 'Z' then c.toNat - 'A'.toNat + 10
  else 36

/-- Whether a character is a digit of a base. -/
def isDigitOf (base : Nat) (c : Char) : Bool := digitValue c < base

/-- The number that a row of digits denotes, however many leading zeros it has. -/
def valueOf (base : Nat) (cs : List Char) : Nat :=
  cs.foldl (fun n c => n * base + digitValue c) 0

/-- Reads a non-empty row of digits and nothing else. -/
def ofDigits? (base : Nat) (cs : List Char) : Option Nat :=
  if cs.isEmpty || !cs.all (isDigitOf base) then none else some (valueOf base cs)

/-- The digits of a number in a base from 2 to 16, lower case, without leading zeros. -/
def digits (base : Nat) (n : Nat) : List Char := Nat.toDigits base n

def decimal (n : Nat) : String := String.ofList (digits 10 n)

def hexadecimal (n : Nat) : String := String.ofList (digits 16 n)

/-- Puts zeros in front until there are `width` digits. -/
def zeroPadded (width : Nat) (cs : List Char) : List Char :=
  List.replicate (width - cs.length) '0' ++ cs

/-- The decimal numeral of a number, at least `width` digits wide. -/
def decimalWide (width n : Nat) : String := String.ofList (zeroPadded width (digits 10 n))

/-- Reads a decimal number with an optional sign in front. -/
def ofSigned? : List Char → Option Int
  | '-' :: r => (ofDigits? 10 r).map fun n => -(n : Int)
  | '+' :: r => (ofDigits? 10 r).map Int.ofNat
  | r => (ofDigits? 10 r).map Int.ofNat

end FilePlacement.Text
