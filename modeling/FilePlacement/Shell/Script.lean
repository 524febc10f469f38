import FilePlacement.Shell.Word

/-!
# Scripts of the shell

A script is a row of statements; a statement joins pipelines by `&&` and `||`; a pipeline is a row
of commands. A command is simple, or it is a loop over words or over the arguments of the script.
-/

namespace FilePlacement.Shell

inductive Redirection where
  | output (fd : Nat) (append : Bool) (target : Word)
  /-- Sends a descriptor where another one goes. -/
  | copyOutput (fd : Nat) (target : Word)
  | input (target : Word)
  | closeInput
deriving DecidableEq, Repr

/-- When a pipeline of a statement is run. -/
inductive Connector where
  | always
  | andThen
  | orElse
deriving DecidableEq, Repr

inductive Command where
  | simple (words : List Word) (redirections : List Redirection)
  /-- A loop over words, or over the arguments. -/
  | loop (name : String) (items : Option (List Word)) (body : List (List (Connector × List Command)))

abbrev Pipeline := List Command
abbrev Statement := List (Connector × Pipeline)
abbrev Script := List Statement

/-- Whether the next token is a keyword. -/
def isKeyword (text : String) : Token → Bool
  | .word w => bare? w == some text.toList
  | .operator _ => false

def isSeparator (t : Token) : Bool := t == .operator .separator

def skipSeparators (ts : List Token) : List Token := ts.dropWhile isSeparator

/-- Reads the words and redirections of a simple command. -/
def readSimple : Nat → List Token → Option (List Word × List Redirection × List Token)
  | 0, _ => none
  | fuel + 1, ts =>
    match ts with
    | .word w :: r => (readSimple fuel r).map fun (ws, rs, r) => (w :: ws, rs, r)
    | .operator (.output fd) :: .word w :: r =>
      (readSimple fuel r).map fun (ws, rs, r) => (ws, .output fd false w :: rs, r)
    | .operator (.appendOutput fd) :: .word w :: r =>
      (readSimple fuel r).map fun (ws, rs, r) => (ws, .output fd true w :: rs, r)
    | .operator (.copyOutput fd) :: .word w :: r =>
      (readSimple fuel r).map fun (ws, rs, r) => (ws, .copyOutput fd w :: rs, r)
    | .operator .input :: .word w :: r => (readSimple fuel r).map fun (ws, rs, r) => (ws, .input w :: rs, r)
    | .operator .copyInput :: .word w :: r =>
      if bare? w == some ['-'] then (readSimple fuel r).map fun (ws, rs, r) => (ws, .closeInput :: rs, r) else none
    | .operator (.output _) :: _ | .operator (.appendOutput _) :: _ | .operator (.copyOutput _) :: _
    | .operator .input :: _ | .operator .copyInput :: _ => none
    | r => some ([], [], r)

/-- Reads words up to an operator. -/
def readWords : List Token → List Word × List Token
  | .word w :: r =>
    let (ws, r) := readWords r
    (w :: ws, r)
  | r => ([], r)

mutual

def readCommand : Nat → List Token → Option (Command × List Token)
  | 0, _ => none
  | fuel + 1, ts =>
    match ts with
    | .word w :: r =>
      if isKeyword "for" (.word w) then
        match r with
        | .word name :: r => do
          let name ← bare? name
          let (items, r) := match r with
            | .word i :: rest =>
              if isKeyword "in" (.word i) then
                let (ws, rest) := readWords rest
                (some ws, rest)
              else (none, r)
            | _ => (none, r)
          match skipSeparators r with
          | t :: r =>
            if isKeyword "do" t then do
              let (body, r) ← readStatements fuel r
              match r with
              | t :: r => if isKeyword "done" t then some (.loop (String.ofList name) items body, r) else none
              | [] => none
            else none
          | [] => none
        | _ => none
      else (readSimple (ts.length + 1) ts).map fun (ws, rs, r) => (.simple ws rs, r)
    | .operator .separator :: _ | .operator .pipe :: _ | .operator .andThen :: _ | .operator .orElse :: _ | [] => none
    | ts => (readSimple (ts.length + 1) ts).map fun (ws, rs, r) => (.simple ws rs, r)

def readPipeline : Nat → List Token → Option (Pipeline × List Token)
  | 0, _ => none
  | fuel + 1, ts => do
    let (c, r) ← readCommand fuel ts
    match r with
    | .operator .pipe :: r =>
      let (cs, r) ← readPipeline fuel (skipSeparators r)
      return (c :: cs, r)
    | r => return ([c], r)

def readStatement : Nat → Connector → List Token → Option (Statement × List Token)
  | 0, _, _ => none
  | fuel + 1, connector, ts => do
    let (p, r) ← readPipeline fuel ts
    match r with
    | .operator .andThen :: r =>
      let (s, r) ← readStatement fuel .andThen (skipSeparators r)
      return ((connector, p) :: s, r)
    | .operator .orElse :: r =>
      let (s, r) ← readStatement fuel .orElse (skipSeparators r)
      return ((connector, p) :: s, r)
    | r => return ([(connector, p)], r)

/-- Reads statements up to the end or to the end of a loop. -/
def readStatements : Nat → List Token → Option (Script × List Token)
  | 0, _ => none
  | fuel + 1, ts =>
    match skipSeparators ts with
    | [] => some ([], [])
    | t :: r =>
      if isKeyword "done" t then some ([], t :: r)
      else do
        let (s, rest) ← readStatement fuel .always (t :: r)
        match rest with
        | [] => return ([s], [])
        | u :: _ =>
          if isSeparator u || isKeyword "done" u then
            let (ss, rest) ← readStatements fuel rest
            return (s :: ss, rest)
          else none

end

/-- Reads a script, if it is one that this shell knows. -/
def Script.parse (text : String) : Option Script := do
  let ts ← tokens text.toList
  let (script, rest) ← readStatements (4 * ts.length + 4) ts
  if rest.isEmpty then some script else none

end FilePlacement.Shell
