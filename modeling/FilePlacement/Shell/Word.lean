/-!
# Words of the shell

How a POSIX shell takes a text apart into words and operators. Between single quotes every
character stands for itself; a backslash outside of quotes takes one character as it is; pieces
that touch make one word. `quote` writes any text as one word.
-/

namespace FilePlacement.Shell

/-- A text between single quotes; a single quote in it is written outside of them, behind a backslash. -/
def quote (s : List Char) : List Char :=
  '\'' :: s.flatMap (fun c => if c = '\'' then ['\'', '\\', '\'', '\''] else [c]) ++ ['\'']

def quoted (s : String) : String := String.ofList (quote s.toList)

/-- A piece of a word before expansion. -/
inductive Piece where
  | char (c : Char) (quoted : Bool)
  /-- The value of a parameter. -/
  | parameter (name : String) (quoted : Bool)
deriving DecidableEq, Repr

abbrev Word := List Piece

/-- The text of a word that expands to nothing but itself. -/
def literal? : Word → Option (List Char)
  | [] => some []
  | .char c _ :: r => (literal? r).map (c :: ·)
  | .parameter .. :: _ => none

/-- The text of a word without quotes and expansions: only such a word can be a keyword. -/
def bare? : Word → Option (List Char)
  | [] => some []
  | .char c false :: r => (bare? r).map (c :: ·)
  | _ => none

inductive Operator where
  /-- `&&` -/
  | andThen
  /-- `||` -/
  | orElse
  /-- A semicolon or the end of a line. -/
  | separator
  | pipe
  /-- `>` with the number in front of it. -/
  | output (fd : Nat)
  /-- `>>` with the number in front of it. -/
  | appendOutput (fd : Nat)
  /-- `>&` with the number in front of it. -/
  | copyOutput (fd : Nat)
  | input
  /-- `<&` -/
  | copyInput
deriving DecidableEq, Repr

inductive Token where
  | word (w : Word)
  | operator (op : Operator)
deriving DecidableEq, Repr

/-- Whether the characters that follow are between quotes. -/
inductive Quoting where
  | none
  | single
  | double
deriving DecidableEq, Repr

/-- Ends a word, if one has begun. -/
def finish (word : Option Word) (rest : List Token) : List Token :=
  match word with
  | some w => .word w :: rest
  | none => rest

def add (word : Option Word) (p : Piece) : Option Word := some (word.getD [] ++ [p])

def isNameStart (c : Char) : Bool := c.isAlpha || c = '_'

def isNameChar (c : Char) : Bool := c.isAlphanum || c = '_'

/-- The name of the parameter that follows a dollar sign, and how many characters it takes. -/
def parameterName : List Char → Option (String × Nat)
  | '\x7b' :: r =>
    let name := r.takeWhile (· ≠ '\x7d')
    if name.isEmpty || name.length = r.length then none else some (String.ofList name, name.length + 2)
  | c :: r =>
    if isNameStart c then
      let name := c :: r.takeWhile isNameChar
      some (String.ofList name, name.length)
    else if c.isDigit || c = '@' || c = '*' || c = '#' || c = '?' || c = '$' then some (String.singleton c, 1)
    else none
  | [] => none

/-- The number that a word in front of a redirection is. -/
def descriptor? (word : Option Word) : Option Nat :=
  match word with
  | some [.char c false] => if c.isDigit then some (c.toNat - '0'.toNat) else none
  | _ => none

/-- The word that a redirection leaves behind, and the descriptor that it is about. -/
def redirected (word : Option Word) (standard : Nat) : Option Word × Nat :=
  match descriptor? word with
  | some n => (none, n)
  | none => (word, standard)

/-- Takes a text apart. There is no answer for an open quote and for what this shell does not know:
command substitution, subshells and background commands. -/
def scan (q : Quoting) (word : Option Word) (cs : List Char) : Option (List Token) :=
  match q, cs with
  | .none, [] => some (finish word [])
  | .single, [] => Option.none
  | .double, [] => Option.none
  | .single, c :: r =>
    if c = '\'' then scan .none word r else scan .single (add word (.char c true)) r
  | .double, '\\' :: c :: r =>
    if c = '"' || c = '\\' || c = '$' || c = '\x60' then scan .double (add word (.char c true)) r
    else if c = '\n' then scan .double word r
    else scan .double (add (add word (.char '\\' true)) (.char c true)) r
  | .double, c :: r =>
    if c = '"' then scan .none word r
    else if c = '$' then
      match parameterName r with
      | some (name, n) => scan .double (add word (.parameter name true)) (r.drop n)
      | Option.none => scan .double (add word (.char c true)) r
    else if c = '\x60' then Option.none
    else scan .double (add word (.char c true)) r
  | .none, '\\' :: c :: r =>
    if c = '\n' then scan .none word r else scan .none (add word (.char c true)) r
  | .none, '&' :: '&' :: r => (scan .none Option.none r).map fun ts => finish word (.operator .andThen :: ts)
  | .none, '|' :: '|' :: r => (scan .none Option.none r).map fun ts => finish word (.operator .orElse :: ts)
  | .none, '>' :: '>' :: r =>
    let (word, fd) := redirected word 1
    (scan .none Option.none r).map fun ts => finish word (.operator (.appendOutput fd) :: ts)
  | .none, '>' :: '&' :: r =>
    let (word, fd) := redirected word 1
    (scan .none Option.none r).map fun ts => finish word (.operator (.copyOutput fd) :: ts)
  | .none, '<' :: '&' :: r =>
    let (word, _) := redirected word 0
    (scan .none Option.none r).map fun ts => finish word (.operator .copyInput :: ts)
  | .none, c :: r =>
    if c = '\'' then scan .single (some (word.getD [])) r
    else if c = '"' then scan .double (some (word.getD [])) r
    else if c = '$' then
      match parameterName r with
      | some (name, n) => scan .none (add word (.parameter name false)) (r.drop n)
      | Option.none => scan .none (add word (.char c false)) r
    else if c = '\x60' || c = '(' || c = ')' || c = '&' then Option.none
    else if c = ' ' || c = '\t' then (scan .none Option.none r).map (finish word)
    else if c = '\n' || c = ';' then
      (scan .none Option.none r).map fun ts => finish word (.operator .separator :: ts)
    else if c = '|' then (scan .none Option.none r).map fun ts => finish word (.operator .pipe :: ts)
    else if c = '>' then
      let (word, fd) := redirected word 1
      (scan .none Option.none r).map fun ts => finish word (.operator (.output fd) :: ts)
    else if c = '<' then
      let (word, _) := redirected word 0
      (scan .none Option.none r).map fun ts => finish word (.operator .input :: ts)
    else if c = '#' && word.isNone then scan .none Option.none (r.dropWhile (· ≠ '\n'))
    else scan .none (add word (.char c false)) r
termination_by cs.length
decreasing_by
  all_goals simp only [List.length_cons, List.length_drop]
  all_goals first
    | omega
    | exact Nat.lt_succ_of_le (List.dropWhile_sublist _).length_le

/-- The words and operators of a text. -/
def tokens (cs : List Char) : Option (List Token) := scan .none none cs

end FilePlacement.Shell
