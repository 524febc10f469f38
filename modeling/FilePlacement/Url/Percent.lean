import FilePlacement.Text.Numeral

/-!
# Percent encoding

A byte is written as `%` and two upper-case hexadecimal digits. Which characters of a text have to
be written so depends on where in the URL the text stands; characters beyond ASCII always have to.
-/

namespace FilePlacement.Url

/-- A byte as a percent sign and two digits. -/
def percentByte (b : UInt8) : List Char :=
  '%' :: (Text.zeroPadded 2 (Text.digits 16 b.toNat)).map Char.toUpper

/-- Writes the UTF-8 bytes of the characters of a class, and of those beyond ASCII, as percent escapes. -/
def percentEncode (mustEncode : Char → Bool) (cs : List Char) : List Char :=
  cs.flatMap fun c =>
    if mustEncode c || 0x7F ≤ c.toNat then (String.utf8EncodeChar c).flatMap percentByte else [c]

/-- The bytes of a text whose percent escapes stand for bytes; a percent sign that begins no escape
stands for itself. -/
def percentDecode : List Char → List UInt8
  | [] => []
  | ['%'] => String.utf8EncodeChar '%'
  | ['%', a] => String.utf8EncodeChar '%' ++ String.utf8EncodeChar a
  | c :: a :: b :: r =>
    if c = '%' && Text.isDigitOf 16 a && Text.isDigitOf 16 b then
      UInt8.ofNat (Text.valueOf 16 [a, b]) :: percentDecode r
    else String.utf8EncodeChar c ++ percentDecode (a :: b :: r)
  | c :: r => String.utf8EncodeChar c ++ percentDecode r

/-! ## What has to be encoded where -/

def isControl (c : Char) : Bool := c.toNat < 0x20 || c.toNat = 0x7F

def inFragmentSet (c : Char) : Bool :=
  isControl c || c = ' ' || c = '"' || c = '<' || c = '>' || c = '\x60'

def inPathSet (c : Char) : Bool := inFragmentSet c || c = '#' || c = '?' || c = '\x7b' || c = '\x7d'

def inCredentialsSet (c : Char) : Bool :=
  inPathSet c || ['/', ':', ';', '=', '@', '[', '\\', ']', '^', '|'].contains c

/-- For a segment that is appended to a path and must stay one segment. -/
def inSegmentSet (c : Char) : Bool := inPathSet c || c = '/' || c = '%' || c = '\\'

def inQuerySet (c : Char) : Bool := isControl c || c = ' ' || c = '"' || c = '#' || c = '<' || c = '>'

def inSpecialQuerySet (c : Char) : Bool := inQuerySet c || c = '\''

end FilePlacement.Url
