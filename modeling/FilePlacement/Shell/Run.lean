import FilePlacement.FileMode
import FilePlacement.Files.Tree
import FilePlacement.Shell.Directories
import FilePlacement.Shell.Script
import FilePlacement.Text.Blank
import FilePlacement.Text.Utf8

/-!
# Running scripts

A small POSIX shell over a file tree: words are expanded, redirections set up, and commands run on
what is left of the standard input. The utilities are the ones that an upload client and the
script of an upload need. A pipeline runs its commands one after the other.
-/

namespace FilePlacement.Shell

/-- Where the output of a descriptor goes. -/
inductive Sink where
  | output
  | errors
  | file (path : String)
  | nowhere
deriving DecidableEq, Repr

structure Machine where
  tree : FileTree
  bindings : List (String × String)
  /-- What the shell calls itself in front of its complaints. -/
  name : String
  arguments : List String
  /-- What is left of the standard input. -/
  input : ByteArray
  output : ByteArray
  errors : ByteArray
  status : Nat
  exited : Bool

namespace Machine

def write (m : Machine) (sink : Sink) (bytes : ByteArray) : Machine :=
  match sink with
  | .output => { m with output := m.output ++ bytes }
  | .errors => { m with errors := m.errors ++ bytes }
  | .nowhere => m
  | .file path =>
    match m.tree.append path bytes with
    | .ok tree => { m with tree := tree }
    | .error _ => m

def complain (m : Machine) (text : String) : Machine := m.write .errors (text ++ "\n").toUTF8

def setVariable (m : Machine) (name value : String) : Machine :=
  { m with bindings := (name, value) :: m.bindings.filter fun (n, _) => n != name }

/-- The value of a parameter, empty if it has none. -/
def parameter (m : Machine) (name : String) : String :=
  match name with
  | "@" | "*" => " ".intercalate m.arguments
  | "#" => Text.decimal m.arguments.length
  | "?" => Text.decimal m.status
  | "$" => "1"
  | "0" => m.name
  | name =>
    match Text.ofDigits? 10 name.toList with
    | some n => m.arguments.getD (n - 1) ""
    | none => (m.bindings.lookup name).getD ""

/-! ## Expansion -/

/-- The words that an unquoted value falls apart into. -/
def fields (cs : List Char) : List (List Char) :=
  (Text.pieces ' ' (cs.map fun c => if c = '\t' || c = '\n' then ' ' else c)).filter fun f => !f.isEmpty

/-- Expands a word into the words that it stands for. `current` is the one that is being put
together. -/
def expandPieces (m : Machine) (current : Option (List Char)) : Word → List (List Char)
  | [] => current.toList
  | .char c _ :: r => m.expandPieces (some (current.getD [] ++ [c])) r
  | .parameter "@" true :: r =>
    match m.arguments.map String.toList with
    | [] => m.expandPieces current r
    | [a] => m.expandPieces (some (current.getD [] ++ a)) r
    | a :: b :: more =>
      let last := (b :: more).getLast?.getD []
      (current.getD [] ++ a) :: ((b :: more).dropLast ++ m.expandPieces (some last) r)
  | .parameter name true :: r => m.expandPieces (some (current.getD [] ++ (m.parameter name).toList)) r
  | .parameter name false :: r =>
    match fields (m.parameter name).toList with
    | [] => m.expandPieces current r
    | [a] => m.expandPieces (some (current.getD [] ++ a)) r
    | a :: b :: more =>
      let last := (b :: more).getLast?.getD []
      (current.getD [] ++ a) :: ((b :: more).dropLast ++ m.expandPieces (some last) r)

/-- An empty quoted word is a word, too. -/
def expand (m : Machine) (w : Word) : List String :=
  (m.expandPieces (if w.isEmpty then some [] else none) w).map String.ofList

def expandOne (m : Machine) (w : Word) : String := " ".intercalate (m.expand w)

/-! ## Redirections -/

/-- Where descriptors 1 and 2 go. -/
structure Sinks where
  out : Sink
  err : Sink

def Sinks.set (s : Sinks) (fd : Nat) (sink : Sink) : Sinks :=
  match fd with
  | 1 => { s with out := sink }
  | 2 => { s with err := sink }
  | _ => s

def Sinks.get (s : Sinks) (fd : Nat) : Sink := if fd = 2 then s.err else s.out

/-- The shell's words for a file that cannot be made. -/
def reason : IoError → String
  | .notFound => "Directory nonexistent"
  | .notADirectory => "Directory nonexistent"
  | .isADirectory => "Is a directory"
  | .nameTooLong => "File name too long"
  | e => e.message

/-- Sets up one redirection; fails with a complaint. -/
def redirect (m : Machine) (s : Sinks) : Redirection → Except String (Machine × Sinks)
  | .output fd append target =>
    let path := m.expandOne target
    if path = "/dev/null" then .ok (m, s.set fd .nowhere)
    else match m.tree.openForWriting path append with
      | .ok tree => .ok ({ m with tree := tree }, s.set fd (.file path))
      | .error e => .error (m.name ++ ": 1: cannot create " ++ path ++ ": " ++ reason e)
  | .copyOutput fd target =>
    match Text.ofDigits? 10 (m.expandOne target).toList with
    | some n => .ok (m, s.set fd (s.get n))
    | none => .error (m.name ++ ": 1: Bad fd number")
  | .input target =>
    let path := m.expandOne target
    if path = "/dev/null" then .ok ({ m with input := .empty }, s)
    else match m.tree.contents path with
      | .ok bytes => .ok ({ m with input := bytes }, s)
      | .error _ => .error (m.name ++ ": 1: cannot open " ++ path ++ ": No such file")
  | .closeInput => .ok ({ m with input := .empty }, s)

def redirectAll (m : Machine) (s : Sinks) : List Redirection → Except String (Machine × Sinks)
  | [] => .ok (m, s)
  | r :: rs => do
    let (m, s) ← m.redirect s r
    m.redirectAll s rs

/-! ## Utilities -/

/-- The character that an escape in a format or a set denotes, and what follows it. -/
def unescape : List Char → List UInt8 × List Char
  | 'n' :: r => ([10], r)
  | 't' :: r => ([9], r)
  | 'r' :: r => ([13], r)
  | '\\' :: r => ([92], r)
  | c :: r =>
    let ds := ((c :: r).take 3).takeWhile (Text.isDigitOf 8)
    if ds.isEmpty then ([92], c :: r)
    else ([UInt8.ofNat (Text.valueOf 8 ds)], (c :: r).drop ds.length)
  | [] => ([92], [])

/-- The bytes of a text whose escapes denote bytes. -/
def escaped : Nat → List Char → List UInt8
  | 0, _ => []
  | _, [] => []
  | fuel + 1, '\\' :: r =>
    let (bytes, r) := unescape r
    bytes ++ escaped fuel r
  | fuel + 1, c :: r => String.utf8EncodeChar c ++ escaped fuel r

/-- Runs through a format once; gives the bytes and the arguments that are left. -/
def format : Nat → List Char → List String → List UInt8 × List String
  | 0, _, args => ([], args)
  | _, [], args => ([], args)
  | fuel + 1, '%' :: '%' :: r, args =>
    let (bytes, args) := format fuel r args
    (37 :: bytes, args)
  | fuel + 1, '%' :: c :: r, args =>
    if c = 's' || c = 'd' then
      let (bytes, left) := format fuel r args.tail
      ((args.headD (if c = 'd' then "0" else "")).toUTF8.toList ++ bytes, left)
    else
      let (bytes, args) := format fuel (c :: r) args
      (37 :: bytes, args)
  | fuel + 1, '\\' :: r, args =>
    let (bytes, r) := unescape r
    let (more, args) := format fuel r args
    (bytes ++ more, args)
  | fuel + 1, c :: r, args =>
    let (bytes, args) := format fuel r args
    (String.utf8EncodeChar c ++ bytes, args)

/-- Runs through a format until the arguments are used up. -/
def formatAll : Nat → List Char → List String → List UInt8
  | 0, _, _ => []
  | fuel + 1, fmt, args =>
    let (bytes, left) := format (fmt.length + 1) fmt args
    if left.isEmpty || left.length = args.length then bytes else bytes ++ formatAll fuel fmt left

def byteList (bytes : List UInt8) : ByteArray := ⟨bytes.toArray⟩

/-- Replaces the bytes of a set by those at the same places of another one, whose last byte fills
it up. -/
def replaceBytes (source target : List UInt8) (bytes : ByteArray) : ByteArray :=
  match target.getLast? with
  | none => bytes
  | some last => byteList (bytes.toList.map fun b =>
    match source.idxOf? b with
    | some i => target.getD i last
    | none => b)

/-- What a utility leaves behind, apart from its output. -/
structure Result where
  machine : Machine
  output : ByteArray
  status : Nat

def quiet (m : Machine) (status : Nat) : Result := ⟨m, .empty, status⟩

/-- The whole input, or files one after the other. -/
def concatenate (m : Machine) : List String → Result
  | [] => ⟨{ m with input := .empty }, m.input, 0⟩
  | paths => paths.foldl (fun r path =>
      if path = "-" then ⟨{ r.machine with input := .empty }, r.output ++ r.machine.input, r.status⟩
      else if path = "/dev/null" then r
      else match r.machine.tree.contents path with
        | .ok bytes => { r with output := r.output ++ bytes }
        | .error _ => { r with machine := r.machine.complain ("cat: " ++ path ++ ": No such file or directory"), status := 1 })
    ⟨m, .empty, 0⟩

/-- So many bytes from the beginning of the input or of a file. -/
def firstBytes (m : Machine) (n : Nat) : List String → Result
  | [] => ⟨{ m with input := m.input.extract n m.input.size }, m.input.extract 0 n, 0⟩
  | path :: _ =>
    if path = "/dev/zero" then ⟨m, ⟨Array.replicate n 0⟩, 0⟩
    else match m.tree.contents path with
      | .ok bytes => ⟨m, bytes.extract 0 n, 0⟩
      | .error _ =>
        ⟨m.complain ("head: cannot open '" ++ path ++ "' for reading: No such file or directory"), .empty, 1⟩

def makeDirectories (m : Machine) (args : List String) : Result :=
  match Directories.Invocation.ofArguments args with
  | .error misuse =>
    quiet ((m.complain ("mkdir: " ++ misuse.message)).complain "Try 'mkdir --help' for more information.") 1
  | .ok i => i.paths.foldl (fun r path =>
      match Directories.make r.machine.tree i.withParents path with
      | (tree, .ok ()) => { r with machine := { r.machine with tree := tree } }
      | (tree, .error failure) =>
        { r with
          machine := ({ r.machine with tree := tree } : Machine).complain ("mkdir: " ++ failure.message), status := 1 })
    (quiet m 0)

def changeMode (m : Machine) (mode : String) (paths : List String) : Result :=
  match FileMode.parse mode with
  | .error _ => quiet (m.complain ("chmod: invalid mode: '" ++ mode ++ "'")) 1
  | .ok mode => paths.foldl (fun r path =>
      match r.machine.tree.setMode path mode.bits with
      | .ok tree => { r with machine := { r.machine with tree := tree } }
      | .error _ =>
        { r with
          machine := r.machine.complain ("chmod: cannot access '" ++ path ++ "': No such file or directory"), status := 1 })
    (quiet m 0)

/-- Runs a utility that needs no shell. -/
def utility (m : Machine) (name : String) (args : List String) : Result :=
  match name, args with
  | ":", _ | "true", _ | "sleep", _ => quiet m 0
  | "false", _ => quiet m 1
  | "exit", [] => quiet { m with exited := true } m.status
  | "exit", n :: _ => quiet { m with exited := true } ((Text.ofDigits? 10 n.toList).getD 2 % 256)
  | "kill", _ => quiet { m with exited := true } 137
  | "echo", args =>
    let text := (" ".intercalate args).toList
    ⟨m, byteList (escaped (text.length + 1) text ++ [10]), 0⟩
  | "printf", fmt :: args => ⟨m, byteList (formatAll (args.length + 1) fmt.toList args), 0⟩
  | "cat", args => m.concatenate args
  | "head", "-c" :: n :: paths => m.firstBytes ((Text.ofDigits? 10 n.toList).getD 0) paths
  | "tr", [source, target] =>
    let set (s : String) := escaped (s.toList.length + 1) s.toList
    ⟨{ m with input := .empty }, replaceBytes (set source) (set target) m.input, 0⟩
  | "mkdir", args => m.makeDirectories args
  | "chmod", mode :: paths => m.changeMode mode paths
  | name, _ => quiet (m.complain (m.name ++ ": 1: " ++ name ++ ": not found")) 127

/-! ## Commands -/

/-- The sub-shell that a command starts: its script, its name and its arguments. -/
def subshell? (m : Machine) (name : String) (args : List String) : Option (Option String × String × List String) :=
  match name, args with
  | "sh", "-c" :: script :: rest => some (some script, rest.headD "sh", rest.tail)
  | "sh", path :: rest => some ((m.tree.contents path).toOption.map Text.lossy, path, rest)
  | _, _ => none

/-- Puts the output of a command where its descriptors go. -/
def deliver (m : Machine) (s : Sinks) (output errors : ByteArray) : Machine := (m.write s.out output).write s.err errors

mutual

def runScript : Nat → Script → Machine → Machine
  | 0, _, m => m
  | _, [], m => m
  | fuel + 1, s :: rest, m =>
    let m := runStatement fuel s m
    if m.exited then m else runScript fuel rest m

def runStatement : Nat → Statement → Machine → Machine
  | 0, _, m => m
  | _, [], m => m
  | fuel + 1, (connector, p) :: rest, m =>
    let wanted := match connector with
      | .always => true
      | .andThen => m.status = 0
      | .orElse => m.status ≠ 0
    let m := if wanted then runPipeline fuel p m else m
    if m.exited then m else runStatement fuel rest m

/-- Runs commands one after the other, each on the output of the one before it. -/
def runPipeline : Nat → Pipeline → Machine → Machine
  | 0, _, m => m
  | _, [], m => m
  | fuel + 1, [c], m => runCommand fuel c m
  | fuel + 1, c :: rest, m =>
    let first := runCommand fuel c { m with output := .empty }
    let later := runPipeline fuel rest { first with input := first.output, output := m.output, exited := false }
    { later with input := first.input, exited := false }

def runCommand : Nat → Command → Machine → Machine
  | 0, _, m => m
  | fuel + 1, .loop name items body, m =>
    let values := match items with
      | some ws => ws.flatMap m.expand
      | none => m.arguments
    runLoop fuel name values body m
  | fuel + 1, .simple words redirections, m =>
    let input := m.input
    let expanded := words.flatMap m.expand
    match m.redirectAll ⟨.output, .errors⟩ redirections with
    | .error text => { m.complain text with status := 2 }
    | .ok (n, sinks) =>
      match expanded with
      | [] => { n with status := 0, input := input }
      | name :: args =>
        let (name, args, last) := match name, args with
          | "exec", next :: args => (next, args, true)
          | name, args => (name, args, false)
        let before : Machine := { n with output := .empty, errors := .empty }
        let result : Result := match before.subshell? name args with
          | some (none, path, _) => quiet (before.complain ("sh: 0: cannot open " ++ path ++ ": No such file")) 2
          | some (some text, path, args) =>
            match Script.parse text with
            | none => quiet (before.complain (path ++ ": 1: Syntax error")) 2
            | some script =>
              let inner := runScript fuel script
                { before with name := path, arguments := args, bindings := [], status := 0, exited := false }
              ⟨{ before with tree := inner.tree, input := inner.input, errors := inner.errors }, inner.output, inner.status⟩
          | none => before.utility name args
        let after := result.machine
        let restored : Machine := { after with output := n.output, errors := n.errors, status := result.status }
        let done := restored.deliver sinks result.output after.errors
        let takesInput := redirections.any fun
          | .input _ | .closeInput => true
          | _ => false
        { done with
          input := if takesInput then input else after.input
          exited := after.exited || last }

def runLoop : Nat → String → List String → Script → Machine → Machine
  | 0, _, _, _, m => m
  | _, _, [], _, m => m
  | fuel + 1, name, v :: rest, body, m =>
    let m := runScript fuel body (m.setVariable name v)
    if m.exited then m else runLoop fuel name rest body m

end

end Machine

end FilePlacement.Shell
