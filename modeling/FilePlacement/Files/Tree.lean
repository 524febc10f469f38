import FilePlacement.Files.IoError
import FilePlacement.Files.PathName
import FilePlacement.Time.Calendar

/-!
# File trees

A file tree knows the files and directories of a machine by their locations. A path name is walked
component by component from the working directory or the root: each component that is entered has
to be a directory, `..` leads up, and the walk says which of the ways of failing comes first.

The view of a tree is `node?`. Every operation that changes the tree does so at one location
(`node?_put`, `node?_remove`).
-/

namespace FilePlacement

/-- A place in a file tree: the names on the way from the root. -/
abbrev Location := List String

/-- When a file was last changed. -/
structure FileTime where
  /-- Whole seconds since 1970, rounded down. -/
  seconds : Int
  nanos : Nat
deriving DecidableEq, Repr

structure FileData where
  bytes : ByteArray
  changed : FileTime
  mode : Nat

inductive FileNode where
  | file (data : FileData)
  | directory

/-- What can be seen of a file without opening it. -/
structure FileStat where
  size : Nat
  changed : FileTime
deriving DecidableEq, Repr

structure FileTree where
  nodes : List (Location × FileNode)
  /-- Where path names that do not begin at the root begin. -/
  workingDirectory : Location
  /-- The time that new and changed files get. -/
  now : FileTime

namespace FileTree

/-- What there is at a location; the root is always a directory. -/
def node? (t : FileTree) (loc : Location) : Option FileNode :=
  if loc = [] then some .directory else t.nodes.lookup loc

/-- Sets an entry of an association list, behind all others if it is new. -/
def assign (loc : Location) (n : FileNode) : List (Location × FileNode) → List (Location × FileNode)
  | [] => [(loc, n)]
  | (l, m) :: r => if l = loc then (l, n) :: r else (l, m) :: assign loc n r

def put (t : FileTree) (loc : Location) (n : FileNode) : FileTree := { t with nodes := assign loc n t.nodes }

def remove (t : FileTree) (loc : Location) : FileTree :=
  { t with nodes := t.nodes.filter fun (l, _) => l != loc }

theorem lookup_assign (loc : Location) (n : FileNode) (nodes : List (Location × FileNode)) (l : Location) :
    (assign loc n nodes).lookup l = if l = loc then some n else nodes.lookup l := by
  induction nodes with
  | nil => by_cases h : l = loc <;> simp [assign, h, List.lookup_cons, beq_false_of_ne]
  | cons p r ih =>
    obtain ⟨x, m⟩ := p
    by_cases hx : x = loc
    · subst hx
      by_cases h : l = x
      · simp [assign, h]
      · simp [assign, h, List.lookup_cons, beq_false_of_ne h]
    · by_cases h : l = x
      · subst h; simp [assign, hx]
      · simp [assign, hx, List.lookup_cons, beq_false_of_ne h, ih]

theorem node?_put (t : FileTree) (loc : Location) (n : FileNode) (l : Location) (h : loc ≠ []) :
    (t.put loc n).node? l = if l = loc then some n else t.node? l := by
  by_cases hl : l = []
  · subst hl; simp [node?, Ne.symm h]
  · simp [node?, put, hl, lookup_assign]

theorem node?_remove (t : FileTree) (loc l : Location) (h : loc ≠ []) :
    (t.remove loc).node? l = if l = loc then none else t.node? l := by
  by_cases hl : l = []
  · subst hl; simp [node?, Ne.symm h]
  · simp only [node?, hl, if_false, remove]
    induction t.nodes with
    | nil => simp
    | cons p r ih =>
      obtain ⟨x, m⟩ := p
      by_cases hx : x = loc
      · subst hx
        by_cases hlx : l = x
        · simpa [hlx] using ih
        · simp only [bne_self_eq_false, Bool.false_eq_true, not_false_eq_true, List.filter_cons_of_neg, hlx, if_false,
            List.lookup_cons, beq_false_of_ne hlx] at ih ⊢
          exact ih
      · have : (x != loc) = true := by simpa using hx
        rw [List.filter_cons_of_pos (by simpa using hx)]
        by_cases hlx : l = x
        · subst hlx; simp [hx]
        · simp only [List.lookup_cons, beq_false_of_ne hlx, ih]

/-! ## Path names -/

/-- The bytes that a name may have. -/
def maxNameBytes : Nat := 255

/-- The bytes that a path name has to stay below. -/
def maxPathBytes : Nat := 4096

def utf8Length (cs : List Char) : Nat := (String.ofList cs).utf8ByteSize

/-- Walks components from a location. What the last one leads to need not exist. -/
def walk (t : FileTree) (here : Location) : List (List Char) → Except IoError Location
  | [] => .ok here
  | c :: r =>
    match t.node? here with
    | none => .error .notFound
    | some (.file _) => .error .notADirectory
    | some .directory =>
      if c = [] ∨ c = ['.'] then walk t here r
      else if c = ['.', '.'] then walk t here.dropLast r
      else if utf8Length c > maxNameBytes then .error .nameTooLong
      else walk t (here ++ [String.ofList c]) r

/-- Where the walk along a path name begins, and the components that are left. -/
def start (t : FileTree) (path : List Char) : Location × List (List Char) :=
  match path with
  | '/' :: r => ([], Text.pieces '/' r)
  | r => (t.workingDirectory, Text.pieces '/' r)

/-- Where the walk along a path name begins, unless it is no path name at all. -/
def enter (t : FileTree) (path : String) : Except IoError (Location × List (List Char)) :=
  let cs := path.toList
  if cs.contains '\x00' then .error .nulInPath
  else if cs.isEmpty then .error .notFound
  else if utf8Length cs ≥ maxPathBytes then .error .nameTooLong
  else .ok (t.start cs)

/-- The location that a path name leads to. -/
def locate (t : FileTree) (path : String) : Except IoError Location := do
  let (here, rest) ← t.enter path
  t.walk here rest

/-- The last component of a path name, and where it is looked up. -/
structure Entrance where
  /-- A directory. -/
  directory : Location
  /-- Empty for the root. -/
  name : List Char
  /-- A slash follows the name, so it has to be the name of a directory. -/
  slash : Bool

/-- Whether the name is one that something new can have. -/
def Entrance.isNew (e : Entrance) : Bool := !(e.name.isEmpty || e.name = ['.'] || e.name = ['.', '.'])

/-- Walks along a path name up to its last component. -/
def approach (t : FileTree) (path : String) : Except IoError Entrance := do
  let (here, rest) ← t.enter path
  let names := (rest.reverse.dropWhile (· = [])).reverse
  match names.getLast? with
  | none => return ⟨here, [], true⟩
  | some name =>
    let directory ← t.walk here names.dropLast
    match t.node? directory with
    | none => .error .notFound
    | some (.file _) => .error .notADirectory
    | some .directory => return ⟨directory, name, names.length < rest.length⟩

/-- A name in a directory that is given by a path name. -/
def pathIn (dir name : String) : String :=
  if dir.isEmpty || name.toList.head? == some '/' then name
  else if dir.toList.getLast? == some '/' then dir ++ name
  else dir ++ "/" ++ name

/-! ## Looking -/

/-- What there is under a path name. -/
def find (t : FileTree) (path : String) : Except IoError FileNode := do
  match t.node? (← t.locate path) with
  | some n => return n
  | none => .error .notFound

/-- An open file. Reading gives its bytes; a directory can be opened and then not be read. -/
structure Opened where
  content : Except IoError ByteArray

def openFile (t : FileTree) (path : String) : Except IoError Opened :=
  (t.find path).map fun
    | .file data => ⟨.ok data.bytes⟩
    | .directory => ⟨.error .isADirectory⟩

def contents (t : FileTree) (path : String) : Except IoError ByteArray := do
  (← t.openFile path).content

def stat (t : FileTree) (path : String) : Except IoError FileStat :=
  (t.find path).map fun
    | .file data => ⟨data.bytes.size, data.changed⟩
    | .directory => ⟨4096, t.now⟩

/-- The names in a directory. -/
def names (t : FileTree) (loc : Location) : List String :=
  t.nodes.filterMap fun (l, _) => if l.dropLast = loc && !l.isEmpty then l.getLast? else none

/-- All files below a location with the rest of their location. -/
def filesBelow (t : FileTree) (loc : Location) : List (Location × FileData) :=
  t.nodes.filterMap fun
    | (l, .file data) => if loc.isPrefixOf l && l ≠ loc then some (l.drop loc.length, data) else none
    | (_, .directory) => none

def isDirectory (t : FileTree) (path : String) : Bool :=
  match t.find path with
  | .ok .directory => true
  | _ => false

/-! ## Changing -/

def defaultMode : Nat := 0o644

/-- Opens a file for writing: makes it if it is not there, and empties it unless it is to `keep` what
it holds. -/
def openForWriting (t : FileTree) (path : String) (keep : Bool) : Except IoError FileTree := do
  if (← t.approach path).slash then .error .isADirectory
  else
    let loc ← t.locate path
    match t.node? loc with
    | some .directory => .error .isADirectory
    | some (.file data) => return if keep then t else t.put loc (.file { data with bytes := .empty, changed := t.now })
    | none => return t.put loc (.file ⟨.empty, t.now, defaultMode⟩)

/-- Makes an empty file, or empties the one that is there. -/
def create (t : FileTree) (path : String) : Except IoError FileTree := t.openForWriting path false

/-- Appends bytes to a file that is there. -/
def append (t : FileTree) (path : String) (bytes : ByteArray) : Except IoError FileTree := do
  let loc ← t.locate path
  match t.node? loc with
  | some .directory => .error .isADirectory
  | some (.file data) => return t.put loc (.file { data with bytes := data.bytes ++ bytes, changed := t.now })
  | none => .error .notFound

/-- Removes a file. -/
def unlink (t : FileTree) (path : String) : Except IoError FileTree := do
  let loc ← t.locate path
  match t.node? loc with
  | some .directory => .error .isADirectory
  | some (.file _) => return t.remove loc
  | none => .error .notFound

/-- Removes whatever lies at a location and below it. -/
def removeBelow (t : FileTree) (loc : Location) : FileTree :=
  { t with nodes := t.nodes.filter fun (l, _) => !loc.isPrefixOf l }

def setMode (t : FileTree) (path : String) (mode : Nat) : Except IoError FileTree := do
  let loc ← t.locate path
  match t.node? loc with
  | some (.file data) => return t.put loc (.file { data with mode := mode })
  | some .directory => return t
  | none => .error .notFound

/-- Makes a directory in one that is there. -/
def makeDirectory (t : FileTree) (path : String) : Except IoError FileTree := do
  let e ← t.approach path
  if !e.isNew then .error .alreadyExists
  else if utf8Length e.name > maxNameBytes then .error .nameTooLong
  else
    let loc := e.directory ++ [String.ofList e.name]
    match t.node? loc with
    | some _ => .error .alreadyExists
    | none => return t.put loc .directory

/-- Makes the first one of some directories of which each is in the next one, after those that it is
in. Directories that are there stay as they are, and those that were made before a failure too. -/
def makeChain (t : FileTree) : List String → FileTree × Except IoError Unit
  | [] => (t, .ok ())
  | path :: above =>
    match t.makeDirectory path with
    | .ok t => (t, .ok ())
    | .error .notFound =>
      match t.makeChain above with
      | (t, .error e) => (t, .error e)
      | (t, .ok ()) =>
        match t.makeDirectory path with
        | .ok t => (t, .ok ())
        | .error e => (t, if e = .alreadyExists && t.isDirectory path then .ok () else .error e)
    | .error e => (t, if e = .alreadyExists && t.isDirectory path then .ok () else .error e)

/-- Makes a directory and those above it. The empty path name is the working directory. -/
def makeDirectories (t : FileTree) (path : String) : FileTree × Except IoError Unit :=
  if path.isEmpty then (t, .ok ())
  else t.makeChain (path :: (PathName.parents path.toList).map String.ofList)

/-- The path name of the directory that a file is in, without a slash at its end. -/
def parentPath (path : String) : String :=
  match Text.cutLast '/' path.toList with
  | some (dir, _) => String.ofList dir
  | none => ""

/-- Sets a file, and makes the directories above it. A directory is never replaced. -/
def supply (t : FileTree) (path : String) (data : FileData) : FileTree :=
  let t := (t.makeDirectories (parentPath path)).1
  match t.locate path with
  | .error _ => t
  | .ok loc =>
    match t.node? loc with
    | some .directory => t
    | _ => t.put loc (.file data)

/-- A tree that holds an empty working directory. -/
def empty : FileTree := ⟨[(["work"], .directory)], ["work"], ⟨1700000000, 0⟩⟩

end FileTree

end FilePlacement
