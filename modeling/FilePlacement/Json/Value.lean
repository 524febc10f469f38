import FilePlacement.Text.Numeral

/-!
# JSON values and their texts

The values that this library writes: numbers are whole, and the fields of an object keep their
order. `compact` writes without white space, `pretty` with one field or item a line, two spaces
deeper at each level.
-/

namespace FilePlacement.Json

inductive Value where
  | null
  | bool (b : Bool)
  | number (n : Int)
  | text (s : String)
  | array (items : List Value)
  | object (fields : List (String × Value))
deriving Inhabited

/-- How one character is written inside a string. -/
def escapedChar (c : Char) : List Char :=
  match c with
  | '"' => ['\\', '"']
  | '\\' => ['\\', '\\']
  | '\x08' => ['\\', 'b']
  | '\x0C' => ['\\', 'f']
  | '\n' => ['\\', 'n']
  | '\r' => ['\\', 'r']
  | '\t' => ['\\', 't']
  | c => if c.toNat < 0x20 then ['\\', 'u'] ++ Text.zeroPadded 4 (Text.digits 16 c.toNat) else [c]

/-- A string with its quotes. -/
def stringLiteral (s : String) : List Char := '"' :: s.toList.flatMap escapedChar ++ ['"']

def numberLiteral (n : Int) : List Char :=
  if n < 0 then '-' :: Text.digits 10 n.natAbs else Text.digits 10 n.natAbs

def boolLiteral (b : Bool) : List Char := (if b then "true" else "false").toList

mutual

/-- A value without white space. -/
def Value.compact : Value → List Char
  | .null => "null".toList
  | .bool b => boolLiteral b
  | .number n => numberLiteral n
  | .text s => stringLiteral s
  | .array [] => ['[', ']']
  | .array (v :: r) => '[' :: v.compact ++ compactItems r ++ [']']
  | .object [] => ['\x7b', '\x7d']
  | .object (p :: r) => '\x7b' :: compactField p ++ compactFields r ++ ['\x7d']
termination_by structural v => v

/-- The items after the first one. -/
def compactItems : List Value → List Char
  | [] => []
  | v :: r => ',' :: v.compact ++ compactItems r
termination_by structural vs => vs

/-- The fields after the first one. -/
def compactFields : List (String × Value) → List Char
  | [] => []
  | p :: r => ',' :: compactField p ++ compactFields r
termination_by structural ps => ps

def compactField : String × Value → List Char
  | (k, v) => stringLiteral k ++ ':' :: v.compact
termination_by structural p => p

end

/-- A line break and the white space in front of a line at some depth. -/
def newline (depth : Nat) : List Char := '\n' :: List.replicate (2 * depth) ' '

mutual

/-- A value over several lines, as it stands at some depth. -/
def Value.pretty (depth : Nat) : Value → List Char
  | .null => "null".toList
  | .bool b => boolLiteral b
  | .number n => numberLiteral n
  | .text s => stringLiteral s
  | .array [] => ['[', ']']
  | .array (v :: r) =>
    '[' :: newline (depth + 1) ++ v.pretty (depth + 1) ++ prettyItems (depth + 1) r ++ newline depth ++ [']']
  | .object [] => ['\x7b', '\x7d']
  | .object (p :: r) =>
    '\x7b' :: newline (depth + 1) ++ prettyField (depth + 1) p ++ prettyFields (depth + 1) r ++ newline depth
      ++ ['\x7d']
termination_by structural v => v

def prettyItems (depth : Nat) : List Value → List Char
  | [] => []
  | v :: r => ',' :: newline depth ++ v.pretty depth ++ prettyItems depth r
termination_by structural vs => vs

def prettyFields (depth : Nat) : List (String × Value) → List Char
  | [] => []
  | p :: r => ',' :: newline depth ++ prettyField depth p ++ prettyFields depth r
termination_by structural ps => ps

def prettyField (depth : Nat) : String × Value → List Char
  | (k, v) => stringLiteral k ++ ':' :: ' ' :: v.pretty depth
termination_by structural p => p

end

def Value.toText (v : Value) : String := String.ofList v.compact

def Value.toPrettyText (v : Value) : String := String.ofList (v.pretty 0)

end FilePlacement.Json
