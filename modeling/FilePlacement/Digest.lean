import FilePlacement.Text.Numeral

/-!
# SHA-256

The digest of a row of bytes: the bytes are padded to whole blocks of 64, every block is expanded
to a schedule of 64 words, and each block mixes its schedule into a state of eight words.
-/

namespace FilePlacement.Digest

structure State where
  a : UInt32
  b : UInt32
  c : UInt32
  d : UInt32
  e : UInt32
  f : UInt32
  g : UInt32
  h : UInt32
deriving DecidableEq, Repr

def initial : State :=
  ⟨0x6A09E667, 0xBB67AE85, 0x3C6EF372, 0xA54FF53A, 0x510E527F, 0x9B05688C, 0x1F83D9AB, 0x5BE0CD19⟩

def roundConstants : Array UInt32 := #[
  0x428A2F98, 0x71374491, 0xB5C0FBCF, 0xE9B5DBA5, 0x3956C25B, 0x59F111F1, 0x923F82A4, 0xAB1C5ED5,
  0xD807AA98, 0x12835B01, 0x243185BE, 0x550C7DC3, 0x72BE5D74, 0x80DEB1FE, 0x9BDC06A7, 0xC19BF174,
  0xE49B69C1, 0xEFBE4786, 0x0FC19DC6, 0x240CA1CC, 0x2DE92C6F, 0x4A7484AA, 0x5CB0A9DC, 0x76F988DA,
  0x983E5152, 0xA831C66D, 0xB00327C8, 0xBF597FC7, 0xC6E00BF3, 0xD5A79147, 0x06CA6351, 0x14292967,
  0x27B70A85, 0x2E1B2138, 0x4D2C6DFC, 0x53380D13, 0x650A7354, 0x766A0ABB, 0x81C2C92E, 0x92722C85,
  0xA2BFE8A1, 0xA81A664B, 0xC24B8B70, 0xC76C51A3, 0xD192E819, 0xD6990624, 0xF40E3585, 0x106AA070,
  0x19A4C116, 0x1E376C08, 0x2748774C, 0x34B0BCB5, 0x391C0CB3, 0x4ED8AA4A, 0x5B9CCA4F, 0x682E6FF3,
  0x748F82EE, 0x78A5636F, 0x84C87814, 0x8CC70208, 0x90BEFFFA, 0xA4506CEB, 0xBEF9A3F7, 0xC67178F2]

def rotateRight (x n : UInt32) : UInt32 := (x >>> n) ||| (x <<< (32 - n))

def smallSigma0 (x : UInt32) : UInt32 := rotateRight x 7 ^^^ rotateRight x 18 ^^^ (x >>> 3)

def smallSigma1 (x : UInt32) : UInt32 := rotateRight x 17 ^^^ rotateRight x 19 ^^^ (x >>> 10)

def bigSigma0 (x : UInt32) : UInt32 := rotateRight x 2 ^^^ rotateRight x 13 ^^^ rotateRight x 22

def bigSigma1 (x : UInt32) : UInt32 := rotateRight x 6 ^^^ rotateRight x 11 ^^^ rotateRight x 25

def choose (x y z : UInt32) : UInt32 := (x &&& y) ^^^ (~~~x &&& z)

def majority (x y z : UInt32) : UInt32 := (x &&& y) ^^^ (x &&& z) ^^^ (y &&& z)

/-- The byte at a place, zero behind the end. -/
def byteAt (bytes : ByteArray) (i : Nat) : UInt8 := if h : i < bytes.size then bytes[i] else 0

/-- The word that four bytes make, the first byte most significant. -/
def wordAt (bytes : ByteArray) (i : Nat) : UInt32 :=
  ((byteAt bytes i).toUInt32 <<< 24) ||| ((byteAt bytes (i + 1)).toUInt32 <<< 16)
    ||| ((byteAt bytes (i + 2)).toUInt32 <<< 8) ||| (byteAt bytes (i + 3)).toUInt32

/-- The next word of a schedule that has at least sixteen. -/
def nextWord (w : Array UInt32) : UInt32 :=
  let n := w.size
  smallSigma1 (w.getD (n - 2) 0) + w.getD (n - 7) 0 + smallSigma0 (w.getD (n - 15) 0) + w.getD (n - 16) 0

def extendSchedule : Nat → Array UInt32 → Array UInt32
  | 0, w => w
  | n + 1, w => extendSchedule n (w.push (nextWord w))

/-- The schedule of the block that begins at a place. -/
def schedule (bytes : ByteArray) (start : Nat) : Array UInt32 :=
  extendSchedule 48 ((List.range 16).foldl (fun w i => w.push (wordAt bytes (start + 4 * i))) (Array.mkEmpty 64))

def round (s : State) (k w : UInt32) : State :=
  let t := s.h + bigSigma1 s.e + choose s.e s.f s.g + k + w
  ⟨t + bigSigma0 s.a + majority s.a s.b s.c, s.a, s.b, s.c, s.d + t, s.e, s.f, s.g⟩

/-- The rounds that are left, the last ones of the sixty-four. -/
def rounds (w : Array UInt32) : Nat → State → State
  | 0, s => s
  | n + 1, s => rounds w n (round s (roundConstants.getD (63 - n) 0) (w.getD (63 - n) 0))

/-- Mixes one block into the state. -/
def compress (bytes : ByteArray) (start : Nat) (s : State) : State :=
  let t := rounds (schedule bytes start) 64 s
  ⟨s.a + t.a, s.b + t.b, s.c + t.c, s.d + t.d, s.e + t.e, s.f + t.f, s.g + t.g, s.h + t.h⟩

def compressAll (bytes : ByteArray) : Nat → Nat → State → State
  | 0, _, s => s
  | n + 1, start, s => compressAll bytes n (start + 64) (compress bytes start s)

/-- The last eight bytes of the padding: the number of bits. -/
def lengthBytes (size : Nat) : ByteArray :=
  ⟨((List.range 8).map fun i => UInt8.ofNat (size * 8 / Nat.pow 256 (7 - i))).toArray⟩

/-- Bytes with a one bit, zeros and their length behind them, in whole blocks. -/
def padded (bytes : ByteArray) : ByteArray :=
  let zeros := (119 - bytes.size % 64) % 64
  (bytes.push 0x80) ++ ⟨Array.replicate zeros 0⟩ ++ lengthBytes bytes.size

/-- The eight hexadecimal digits of a word. -/
def wordText (w : UInt32) : List Char := Text.zeroPadded 8 (Text.digits 16 w.toNat)

/-- The digest in lower-case hexadecimal digits. -/
def sha256 (bytes : ByteArray) : String :=
  let p := padded bytes
  let s := compressAll p (p.size / 64) 0 initial
  String.ofList ([s.a, s.b, s.c, s.d, s.e, s.f, s.g, s.h].flatMap wordText)

end FilePlacement.Digest
