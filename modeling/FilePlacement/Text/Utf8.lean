/-!
# Bytes as text

`lossy` reads any bytes as UTF-8 text: each maximal run of bytes that begins like a character and
then breaks off becomes one U+FFFD. On bytes that are UTF-8 already it gives that text.
-/

namespace FilePlacement.Text

def replacement : Char := '\uFFFD'

/-- Whether a byte continues a character. -/
def isContinuation (b : UInt8) : Bool := 0x80 ≤ b && b ≤ 0xBF

/-- The bytes that may follow a given first byte of a character of three or four bytes: they
exclude the overlong forms, the surrogates and what lies beyond U+10FFFF. -/
def maySecond (lead second : UInt8) : Bool :=
  if lead = 0xE0 then 0xA0 ≤ second && second ≤ 0xBF
  else if lead = 0xED then 0x80 ≤ second && second ≤ 0x9F
  else if lead = 0xF0 then 0x90 ≤ second && second ≤ 0xBF
  else if lead = 0xF4 then 0x80 ≤ second && second ≤ 0x8F
  else isContinuation second

/-- The six payload bits of a continuation byte. -/
def payload (b : UInt8) : Nat := b.toNat % 64

/-- Reads one character off non-empty bytes, or one ill-formed run, which is none, and says how many
bytes after the first belong to it. -/
def decodeOne (lead : UInt8) (rest : List UInt8) : Option Char × Nat :=
  if lead < 0x80 then (some (Char.ofNat lead.toNat), 0)
  else if 0xC2 ≤ lead && lead ≤ 0xDF then
    match rest with
    | b :: _ => if isContinuation b then (some (Char.ofNat ((lead.toNat % 32) * 64 + payload b)), 1) else (none, 0)
    | [] => (none, 0)
  else if 0xE0 ≤ lead && lead ≤ 0xEF then
    match rest with
    | b :: c :: _ =>
      if maySecond lead b then
        if isContinuation c then (some (Char.ofNat (((lead.toNat % 16) * 64 + payload b) * 64 + payload c)), 2)
        else (none, 1)
      else (none, 0)
    | [b] => (none, if maySecond lead b then 1 else 0)
    | [] => (none, 0)
  else if 0xF0 ≤ lead && lead ≤ 0xF4 then
    match rest with
    | b :: c :: d :: _ =>
      if maySecond lead b then
        if isContinuation c then
          if isContinuation d then
            (some (Char.ofNat ((((lead.toNat % 8) * 64 + payload b) * 64 + payload c) * 64 + payload d)), 3)
          else (none, 2)
        else (none, 1)
      else (none, 0)
    | [b, c] => (none, if maySecond lead b then (if isContinuation c then 2 else 1) else 0)
    | [b] => (none, if maySecond lead b then 1 else 0)
    | [] => (none, 0)
  else (none, 0)

/-- The characters of some bytes, ill-formed runs replaced. -/
def lossyChars : List UInt8 → List Char
  | [] => []
  | b :: r => (decodeOne b r).1.getD replacement :: lossyChars (r.drop (decodeOne b r).2)
termination_by bytes => bytes.length
decreasing_by simp only [List.length_drop, List.length_cons]; omega

/-- Bytes as text, ill-formed runs replaced. -/
def lossy (bytes : ByteArray) : String :=
  match String.fromUTF8? bytes with
  | some s => s
  | none => String.ofList (lossyChars bytes.toList)

/-- Bytes as text when they are UTF-8. -/
def utf8? (bytes : ByteArray) : Option String := String.fromUTF8? bytes

end FilePlacement.Text
