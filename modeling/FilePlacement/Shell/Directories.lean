import FilePlacement.Files.Tree
import FilePlacement.Text.Numeral

/-!
# Making directories from a shell

The utility `mkdir` with its option for the directories above. It goes from one directory to the
next, so its path names may be longer than those that the system takes at once, and it complains
about the one that it cannot make or enter.
-/

namespace FilePlacement.Shell.Directories

/-! ## Arguments -/

structure Invocation where
  /-- The directories above are made, too, and what is there is left alone. -/
  withParents : Bool
  paths : List String
deriving DecidableEq, Repr

/-- What cannot be understood about arguments. -/
inductive Misuse where
  | unknownWord (argument : String)
  | unknownLetter (letter : Char)
  | nothingToDo
deriving DecidableEq, Repr

def Misuse.message : Misuse → String
  | .unknownWord argument => "unrecognized option '" ++ argument ++ "'"
  | .unknownLetter letter => "invalid option -- '" ++ letter.toString ++ "'"
  | .nothingToDo => "missing operand"

/-- Reads the letters of an option; says whether one of them is for the directories above. -/
def readLetters : List Char → Except Misuse Bool
  | [] => .ok false
  | 'p' :: r => (readLetters r).map fun _ => true
  | 'v' :: r => readLetters r
  | c :: _ => .error (.unknownLetter c)

def readArguments : List String → Except Misuse Invocation
  | [] => .ok ⟨false, []⟩
  | argument :: r =>
    match argument.toList with
    | ['-', '-'] => .ok ⟨false, r⟩
    | '-' :: '-' :: _ =>
      if argument = "--parents" then (readArguments r).map fun i => { i with withParents := true }
      else .error (.unknownWord argument)
    | '-' :: c :: cs => do
      let withParents ← readLetters (c :: cs)
      let i ← readArguments r
      return { i with withParents := withParents || i.withParents }
    | _ => (readArguments r).map fun i => { i with paths := argument :: i.paths }

def Invocation.ofArguments (arguments : List String) : Except Misuse Invocation := do
  let i ← readArguments arguments
  if i.paths.isEmpty then .error .nothingToDo else return i

/-! ## Making -/

/-- Why a directory is not there, and the path name of the one at fault. -/
structure Failure where
  path : List Char
  why : IoError
deriving DecidableEq, Repr

/-- Makes the directories of a path name that is cut at its slashes, one in the other. `seen` are
the parts in front, and `here` is the directory that they lead to. -/
def makeParts (t : FileTree) (here : Location) (seen : List (List Char)) :
    List (List Char) → FileTree × Except Failure Unit
  | [] => (t, .ok ())
  | part :: r =>
    let path := seen ++ [part]
    let failure (why : IoError) : Failure := ⟨Text.join ['/'] (if r.all (· = []) then path ++ r else path), why⟩
    if part = [] || part = ['.'] then makeParts t here path r
    else if part = ['.', '.'] then makeParts t here.dropLast path r
    else if FileTree.utf8Length part > FileTree.maxNameBytes then (t, .error (failure .nameTooLong))
    else
      let next := here ++ [String.ofList part]
      match t.node? next with
      | some (.file _) => (t, .error (failure (if r.all (· = []) then .alreadyExists else .notADirectory)))
      | some .directory => makeParts t next path r
      | none => makeParts (t.put next .directory) next path r

/-- Makes a directory and those above it, from the root or the working directory on. -/
def makeAll (t : FileTree) (path : String) : FileTree × Except Failure Unit :=
  let cs := path.toList
  if cs.isEmpty then (t, .error ⟨cs, .notFound⟩)
  else
    let here := if cs.head? = some '/' then [] else t.workingDirectory
    makeParts t here [] (Text.pieces '/' cs)

def make (t : FileTree) (withParents : Bool) (path : String) : FileTree × Except Failure Unit :=
  if withParents then makeAll t path
  else match t.makeDirectory path with
    | .ok t => (t, .ok ())
    | .error why => (t, .error ⟨path.toList, why⟩)

/-! ## Complaints -/

/-- A byte of a name between single quotes: what is not plain ASCII is escaped. -/
def quotedByte (b : UInt8) : List Char :=
  match b.toNat with
  | 7 => ['\\', 'a']
  | 8 => ['\\', 'b']
  | 9 => ['\\', 't']
  | 10 => ['\\', 'n']
  | 11 => ['\\', 'v']
  | 12 => ['\\', 'f']
  | 13 => ['\\', 'r']
  | 39 => ['\\', '\'']
  | 92 => ['\\', '\\']
  | n => if 32 ≤ n && n < 127 then [Char.ofNat n] else '\\' :: Text.zeroPadded 3 (Text.digits 8 n)

def reason : IoError → String
  | .notFound => "No such file or directory"
  | .alreadyExists => "File exists"
  | .notADirectory => "Not a directory"
  | .nameTooLong => "File name too long"
  | e => e.message

def Failure.message (f : Failure) : String :=
  "cannot create directory '" ++ String.ofList ((f.path.flatMap String.utf8EncodeChar).flatMap quotedByte) ++ "': "
    ++ reason f.why

end FilePlacement.Shell.Directories
