import FilePlacement.Json.Draft
import FilePlacement.Text.Utf8

/-!
# Records from JSON

A record is read from an object, whose unknown fields are skipped and whose known fields may stand
in any order but only once, or from an array that has the fields in their order. A record under
construction is a structure `B` of optional fields; a `Slot` says how one field gets its value.

The flaw reported is the first one from left to right: `readRecord` fills the slots in the order
in which the text has them, and looks for missing fields last.
-/

namespace FilePlacement.Json

/-! ## Plain values -/

/-- The flaw of a value where another type of value is wanted. -/
def Draft.misfit : Draft → Flaw
  | .broken f => f
  | .cutNumber => .truncated
  | .number n => if n.overflows then .malformed else .mismatched
  | .text none _ => .malformed
  | .text (some _) (some f) => f
  | _ => .mismatched

def Draft.asText : Draft → Except Flaw String
  | .text (some s) none => .ok s
  | d => .error d.misfit

def Draft.asBool : Draft → Except Flaw Bool
  | .bool b => .ok b
  | d => .error d.misfit

/-- A whole number within bounds. -/
def Draft.asInt (lo hi : Int) : Draft → Except Flaw Int
  | .number n =>
    match n.toInt? with
    | some v => if lo ≤ v && v ≤ hi then .ok v else .error (Draft.number n).misfit
    | none => .error (Draft.number n).misfit
  | d => .error d.misfit

/-- A whole number of 64 bits without sign. -/
def Draft.asUInt64 (d : Draft) : Except Flaw UInt64 := (d.asInt 0 (UInt64.size - 1 : Nat)).map fun v => UInt64.ofNat v.toNat

/-- A whole number of 64 bits with sign. -/
def Draft.asInt64 (d : Draft) : Except Flaw Int64 := (d.asInt Int64.minValue.toInt Int64.maxValue.toInt).map Int64.ofInt

/-- A value that may be null. -/
def Draft.asOption {α : Type} (read : Draft → Except Flaw α) : Draft → Except Flaw (Option α)
  | .null => .ok none
  | d => (read d).map some

/-- The items of an array. -/
def Draft.asList {α : Type} (read : Draft → Except Flaw α) : Draft → Except Flaw (List α)
  | .array items tail => do
    let vs ← items.mapM read
    match tail with
    | some f => .error f
    | none => return vs
  | d => .error d.misfit

/-- How deep arrays and objects may lie inside each other where any value is welcome. -/
def depthLimit : Nat := 126

mutual

/-- Any value: every string has to denote a text, and nothing may lie too deep. -/
def Draft.checkAny (room : Nat) : Draft → Except Flaw Unit
  | .broken f => .error f
  | .cutNumber => .error .truncated
  | .null | .bool _ => .ok ()
  | .number n => if n.overflows then .error .malformed else .ok ()
  | .text (some _) none => .ok ()
  | .text none _ => .error .malformed
  | .text (some _) (some f) => .error f
  | .array items tail => if room = 0 then .error .malformed else do
    checkItems (room - 1) items
    match tail with
    | some f => .error f
    | none => .ok ()
  | .object fields tail => if room = 0 then .error .malformed else do
    checkFields (room - 1) fields
    match tail with
    | some f => .error f
    | none => .ok ()
termination_by structural d => d

def checkItems (room : Nat) : List Draft → Except Flaw Unit
  | [] => .ok ()
  | d :: r => do
    d.checkAny room
    checkItems room r
termination_by structural ds => ds

def checkFields (room : Nat) : List (Option String × Draft) → Except Flaw Unit
  | [] => .ok ()
  | p :: r => do
    checkField room p
    checkFields room r
termination_by structural ps => ps

def checkField (room : Nat) : Option String × Draft → Except Flaw Unit
  | (none, _) => .error .malformed
  | (some _, d) => d.checkAny room
termination_by structural p => p

end

/-! ## Records -/

/-- A field of a record under construction. -/
structure Slot (B : Type) where
  name : String
  isFilled : B → Bool
  fill : B → Draft → Except Flaw B

/-- A slot whose value is read by `read`, seen by `get` and stored by `put`. -/
def Slot.of {B α : Type} (name : String) (read : Draft → Except Flaw α) (get : B → Option α) (put : B → α → B) :
    Slot B where
  name := name
  isFilled b := (get b).isSome
  fill b d := (read d).map (put b)

/-- Takes in one field of an object. -/
def readField {B : Type} (slots : List (Slot B)) (b : B) : Option String × Draft → Except Flaw B
  | (none, _) => .error .malformed
  | (some key, d) =>
    match slots.find? fun s => s.name = key with
    | some slot => if slot.isFilled b then .error .mismatched else slot.fill b d
    | none =>
      match d.flaw? with
      | some f => .error f
      | none => .ok b

/-- Takes in the items of an array, one for each slot. -/
def readSlots {B : Type} (tail : Option Flaw) : List (Slot B) → List Draft → B → Except Flaw B
  | [], [], b =>
    match tail with
    | some f => .error f
    | none => .ok b
  | [], _ :: _, _ => .error .surplus
  | _ :: _, [], b =>
    match tail with
    | some f => .error f
    | none => .ok b
  | slot :: slots, d :: ds, b => do
    let b ← slot.fill b d
    readSlots tail slots ds b

/-- Reads a record; `finish` supplies defaults and finds missing fields. -/
def readRecord {B α : Type} (slots : List (Slot B)) (blank : B) (finish : B → Option α) : Draft → Except Flaw α
  | .object fields tail => do
    let b ← fields.foldlM (readField slots) blank
    match tail with
    | some f => .error f
    | none => match finish b with
      | some a => return a
      | none => .error .mismatched
  | .array items tail => do
    let b ← readSlots tail slots items blank
    match finish b with
    | some a => return a
    | none => .error .mismatched
  | d => .error d.misfit

/-- Reads a whole text with nothing behind the value. -/
def decodeChars {α : Type} (read : Draft → Except Flaw α) (cs : List Char) : Except Flaw α := do
  let doc := Document.ofChars cs
  let a ← read doc.draft
  if doc.trailing then .error .malformed else return a

def decode {α : Type} (read : Draft → Except Flaw α) (text : String) : Except Flaw α := decodeChars read text.toList

/-! ## Bytes

Bytes that are no UTF-8 do no harm in a string that nobody wants to know. -/

/-- What stands for bytes that are no character: halves of surrogate pairs, which are no character
either; or, behind a backslash, what is no escape. -/
def noCharacter (escaped : Bool) : List Char := if escaped then ['x'] else "\\udc00\\udc00".toList

/-- The characters of some bytes. `escaped` says that a backslash stands before them. -/
def charsOfBytes (escaped : Bool) : List UInt8 → List Char
  | [] => []
  | b :: r =>
    match Text.decodeOne b r with
    | (some c, n) => c :: charsOfBytes (c = '\\' && !escaped) (r.drop n)
    | (none, n) => noCharacter escaped ++ charsOfBytes false (r.drop n)
termination_by bytes => bytes.length
decreasing_by all_goals simp only [List.length_drop, List.length_cons]; omega

/-- Reads whole bytes with nothing behind the value. -/
def decodeBytes {α : Type} (read : Draft → Except Flaw α) (bytes : ByteArray) : Except Flaw α :=
  match Text.utf8? bytes with
  | some text => decode read text
  | none => decodeChars read (charsOfBytes false bytes.toList)

end FilePlacement.Json
