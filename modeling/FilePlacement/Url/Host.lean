import FilePlacement.Text.Utf8
import FilePlacement.Url.Domain
import FilePlacement.Url.Invalid
import FilePlacement.Url.Percent

/-!
# Hosts

The host of a URL: a domain in ASCII, an IPv4 address (also in its short, octal and hexadecimal
forms) or an IPv6 address between brackets. A host whose last label is a number has to be an IPv4
address.
-/

namespace FilePlacement.Url

inductive Host where
  | domain (name : String)
  | ipv4 (address : Nat)
  /-- Eight groups of sixteen bits. -/
  | ipv6 (groups : List Nat)
deriving DecidableEq, Repr

/-! ## Numbers in addresses -/

/-- One part of an IPv4 address: decimal, octal behind a zero, hexadecimal behind `0x`. -/
def addressPart (cs : List Char) : Option Nat :=
  match cs with
  | [] => none
  | ['0'] => some 0
  | '0' :: x :: r =>
    if x = 'x' || x = 'X' then (if r.isEmpty then some 0 else Text.ofDigits? 16 r) else Text.ofDigits? 8 (x :: r)
  | cs => Text.ofDigits? 10 cs

/-- The labels of a domain, without the empty one behind a closing point. -/
def labels (domain : List Char) : List (List Char) :=
  let parts := Text.pieces '.' domain
  if parts.length > 1 && parts.getLast? == some [] then parts.dropLast else parts

/-- Whether a domain can only be meant as an IPv4 address. -/
def endsInNumber (domain : List Char) : Bool :=
  match (labels domain).getLast? with
  | some last => (!last.isEmpty && last.all (Text.isDigitOf 10)) || (addressPart last).isSome
  | none => false

/-- Puts the parts of an IPv4 address together; the last part fills all bytes that are left. -/
def joinParts (parts : List Nat) : Option Nat :=
  match parts.getLast? with
  | none => none
  | some last =>
    let leading := parts.dropLast
    if leading.any (· > 255) || last ≥ Nat.pow 256 (4 - leading.length) then none
    else some (leading.zipIdx.foldl (fun n (part, i) => n + part * Nat.pow 256 (3 - i)) last)

def ipv4? (domain : List Char) : Option Nat :=
  let parts := labels domain
  if parts.length > 4 then none
  else match parts.mapM addressPart with
    | some numbers => joinParts numbers
    | none => none

/-! ## IPv6 -/

/-- One group of an IPv6 address. -/
def group? (cs : List Char) : Option Nat := if cs.length ≤ 4 then Text.ofDigits? 16 cs else none

/-- A decimal part without leading zeros. -/
def strictPart? (cs : List Char) : Option Nat :=
  match Text.ofDigits? 10 cs with
  | some n => if n ≤ 255 && Text.digits 10 n == cs then some n else none
  | none => none

/-- The two groups that an IPv4 address at the end of an IPv6 address stands for. -/
def embeddedIpv4? (cs : List Char) : Option (List Nat) := do
  match ← (Text.pieces '.' cs).mapM strictPart? with
  | [a, b, c, d] => return [a * 256 + b, c * 256 + d]
  | _ => none

/-- Groups between colons; the last one may be an IPv4 address. -/
def groups? (atEnd : Bool) : List (List Char) → Option (List Nat)
  | [] => some []
  | [p] => if atEnd && p.contains '.' then embeddedIpv4? p else (group? p).map fun g => [g]
  | p :: q :: r => do
    let g ← group? p
    let gs ← groups? atEnd (q :: r)
    return g :: gs

/-- Cuts at the first pair of colons. -/
def cutAtGap : List Char → Option (List Char × List Char)
  | ':' :: ':' :: r => some ([], r)
  | c :: r => (cutAtGap r).map fun (a, b) => (c :: a, b)
  | [] => none

/-- The groups of one side of the gap. -/
def sideGroups? (atEnd : Bool) (cs : List Char) : Option (List Nat) :=
  if cs.isEmpty then some [] else groups? atEnd (Text.pieces ':' cs)

def ipv6? (cs : List Char) : Option (List Nat) :=
  match cutAtGap cs with
  | none => do
    let gs ← groups? true (Text.pieces ':' cs)
    if gs.length = 8 then return gs else none
  | some (left, right) => do
    let l ← sideGroups? false left
    let r ← sideGroups? true right
    if l.length + r.length < 8 then return l ++ List.replicate (8 - l.length - r.length) 0 ++ r else none

/-! ## Reading hosts -/

/-- Characters that the host of an unknown scheme may not hold. -/
def isForbiddenOpaque (c : Char) : Bool :=
  ['\x00', ' ', '#', '/', ':', '<', '>', '?', '@', '[', '\\', ']', '^', '|'].contains c

/-- Reads the host of a URL whose scheme is known. -/
def Host.parse (cs : List Char) : Except Invalid Host :=
  match cs with
  | '[' :: r =>
    if r.getLast? = some ']' then
      match ipv6? r.dropLast with
      | some groups => .ok (.ipv6 groups)
      | none => .error .ipv6
    else .error .ipv6
  | cs =>
    match Domain.toAscii? (Text.lossyChars (percentDecode cs)) with
    | none => .error .domain
    | some [] => .error .emptyHost
    | some name =>
      if endsInNumber name then
        match ipv4? name with
        | some n => .ok (.ipv4 n)
        | none => .error .ipv4
      else .ok (.domain (String.ofList name))

/-- Reads the host of a URL with an unknown scheme, which is taken nearly as it is. -/
def Host.parseOpaque (cs : List Char) : Except Invalid Host :=
  match cs with
  | '[' :: _ => Host.parse cs
  | cs =>
    if cs.any isForbiddenOpaque then .error .domainCharacter
    else .ok (.domain (String.ofList (percentEncode isControl cs)))

/-! ## Texts of hosts -/

/-- The length of the row of zeros that a list of groups begins with. -/
def zeroRun (groups : List Nat) : Nat := (groups.takeWhile (· = 0)).length

/-- Where the first of the longest rows of zeros begins, and its length. -/
def longestGap (groups : List Nat) : Nat × Nat :=
  (List.range groups.length).foldl
    (fun best i => if zeroRun (groups.drop i) > best.2 then (i, zeroRun (groups.drop i)) else best) (0, 0)

def groupTexts (groups : List Nat) : List Char := [':'].intercalate (groups.map (Text.digits 16))

/-- An IPv6 address, the longest row of at least two zeros left out. -/
def ipv6Text (groups : List Nat) : List Char :=
  let (start, length) := longestGap groups
  if length < 2 then groupTexts groups
  else groupTexts (groups.take start) ++ [':', ':'] ++ groupTexts (groups.drop (start + length))

def Host.text : Host → String
  | .domain name => name
  | .ipv4 n =>
    ".".intercalate [Text.decimal (n / 16777216), Text.decimal (n / 65536 % 256), Text.decimal (n / 256 % 256),
      Text.decimal (n % 256)]
  | .ipv6 groups => String.ofList ('[' :: ipv6Text groups ++ [']'])

end FilePlacement.Url
