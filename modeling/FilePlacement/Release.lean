import FilePlacement.Fault
import FilePlacement.Text.Blank
import FilePlacement.Text.Pieces

/-!
# Releases of the cluster

A release is written `8.4.1`, `8.4` or `8.4.1-1`: white space around it and whatever follows the
first `-`, `+` or `~` do not count. Releases are ordered by their numbers, so `8.10` is above `8.4`.
-/

namespace FilePlacement

structure Release where
  major : UInt32
  minor : UInt32
  patch : UInt32
deriving DecidableEq, Repr

namespace Release

/-- Assumed where the cluster does not tell its release. -/
def minimum : Release := ⟨8, 0, 0⟩

/-- The first release that can import disk images. -/
def firstWithImport : Release := ⟨8, 4, 0⟩

/-- The three numbers, most significant first. -/
def numbers (r : Release) : List Nat := [r.major.toNat, r.minor.toNat, r.patch.toNat]

/-- The order by the first number that differs. -/
def compare (a b : Release) : Ordering :=
  (Ord.compare a.major b.major).then ((Ord.compare a.minor b.minor).then (Ord.compare a.patch b.patch))

instance : Ord Release := ⟨compare⟩

def canImport (r : Release) : Bool := (compare r firstWithImport).isGE

def isSuffixMark (c : Char) : Bool := c = '-' || c = '+' || c = '~'

/-- A text without surrounding white space and without a suffix. -/
def core (text : List Char) : List Char := (Text.trim text).takeWhile fun c => !isSuffixMark c

/-- One number of a release. -/
def number? (cs : List Char) : Option UInt32 :=
  match Text.ofDigits? 10 cs with
  | some n => if n < UInt32.size then some (UInt32.ofNat n) else none
  | none => none

def parse? (text : List Char) : Option Release :=
  match Text.pieces '.' (core text) with
  | major :: minor :: rest => do
    let a ← number? major
    let b ← number? minor
    match rest with
    | [] => return ⟨a, b, 0⟩
    | patch :: _ => return ⟨a, b, ← number? patch⟩
  | _ => none

def parse (text : String) : Except Fault Release :=
  match parse? text.toList with
  | some r => .ok r
  | none => .error (.backend (.invalidRelease text))

def format (r : Release) : String :=
  Text.decimal r.major.toNat ++ "." ++ Text.decimal r.minor.toNat ++ "." ++ Text.decimal r.patch.toNat

end Release

end FilePlacement
