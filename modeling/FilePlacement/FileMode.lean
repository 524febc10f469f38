import FilePlacement.Fault

/-!
# File modes

The permission bits of a file on a node, written as plain octal: `0700` or `600`.
-/

namespace FilePlacement

structure FileMode where
  bits : Nat
  bits_le : bits ≤ 0o7777
deriving DecidableEq

namespace FileMode

/-- Reads one to five octal digits whose value fits the permission bits. -/
def parse (text : String) : Except Fault FileMode :=
  if text.toList.length ≤ 5 then
    match Text.ofDigits? 8 text.toList with
    | some n => if h : n ≤ 0o7777 then .ok ⟨n, h⟩ else .error (.invalidFileMode text)
    | none => .error (.invalidFileMode text)
  else .error (.invalidFileMode text)

/-- At least four octal digits. -/
def format (mode : FileMode) : String := String.ofList (Text.zeroPadded 4 (Text.digits 8 mode.bits))

end FileMode

end FilePlacement
