import FilePlacement.Calls
import FilePlacement.Cluster.Wire
import FilePlacement.Http.Network
import FilePlacement.Shell.Run

/-!
# Worlds

A world is one machine: its files, its network, its clock, and the programs it can start. It
answers the local requests of a reconciler (`World.surroundings`) and the requests behind calls to
a cluster (`World.wire`).

Time passes only where a request says so: in pauses. A request that would go on behind the limit
is not answered in time; one that takes no time is answered unless the limit has been reached. Work
on files that has been asked for is done even if nobody waits for it any more (`World.abandon`).
-/

namespace FilePlacement

structure Timekeeper where
  /-- Milliseconds since the beginning. -/
  now : Nat
  deadline : Option Nat
  /-- The span that the deadline was set to. -/
  limit : Time.Span

namespace Timekeeper

def begin : Timekeeper := ⟨0, none, ⟨0⟩⟩

def isOver (t : Timekeeper) : Bool := t.deadline.any fun d => d ≤ t.now

def setLimit (t : Timekeeper) (limit : Time.Span) : Timekeeper :=
  { t with deadline := some (t.now + limit.milliseconds), limit := limit }

def pass (t : Timekeeper) (milliseconds : Nat) : Timekeeper := { t with now := t.now + milliseconds }

/-- Lets time pass unless the deadline comes first; says whether it did not. -/
def passInTime (t : Timekeeper) (milliseconds : Nat) : Bool × Timekeeper :=
  match t.deadline with
  | some d => if t.now + milliseconds > d then (false, { t with now := d }) else (true, t.pass milliseconds)
  | none => (true, t.pass milliseconds)

end Timekeeper

structure World where
  tree : FileTree
  network : Http.Network
  time : Timekeeper
  /-- How many temporary names have been given. -/
  names : Nat
  /-- Directories whose executable files are found by their names. -/
  searchPath : List String

namespace World

def ofTree (tree : FileTree) : World := ⟨tree, .silent, .begin, 0, []⟩

/-! ## Local requests -/

/-- A name in the form of a random UUID, different for each number. -/
def uuid (n : Nat) : String :=
  let ds := Text.zeroPadded 12 (Text.digits 16 n)
  "00000000-0000-4000-8000-" ++ String.ofList ds

def temporaryName (stem : String) (n : Nat) : String := stem ++ "-" ++ uuid n ++ ".tmp"

def makeTemporary (w : World) (dir stem : String) : Except IoError String × World :=
  let path := FileTree.pathIn dir (temporaryName stem w.names)
  match w.tree.create path with
  | .ok tree => (.ok path, { w with tree := tree, names := w.names + 1 })
  | .error e => (.error e, w)

def append (w : World) (path : String) (bytes : ByteArray) : Except IoError Unit × World :=
  match w.tree.append path bytes with
  | .ok tree => (.ok (), { w with tree := tree })
  | .error e => (.error e, w)

def answerLocal : (c : LocalCall) → World → c.Reply × World
  | .exchange request, w =>
    let (response, network) := w.network.exchange request
    (response, { w with network := network })
  | .makeDirectories path, w =>
    let (tree, r) := w.tree.makeDirectories path
    (r, { w with tree := tree })
  | .makeTemporary dir stem, w => w.makeTemporary dir stem
  | .append path bytes, w => w.append path bytes
  | .contents path, w => (w.tree.contents path, w)
  | .stat path, w => (w.tree.stat path, w)

def discard (w : World) (path : String) : World :=
  match w.tree.unlink path with
  | .ok tree => { w with tree := tree }
  | .error _ => w

/-- What comes of a request that nobody waits for any more: an exchange is given up, work on files goes on to its
end. -/
def abandon (w : World) : LocalCall → World
  | .exchange _ => w
  | c => (w.answerLocal c).2

/-- The local surroundings that a world is. -/
def surroundings : Host Surroundings World where
  answer := answerLocal
  answerInTime c w :=
    if w.time.isOver then (none, w.abandon c)
    else
      let (reply, w) := w.answerLocal c
      (some reply, w)
  act
    | .discard path, w => w.discard path
  setLimit limit w := { w with time := w.time.setLimit limit }

/-! ## Programs -/

/-- What the bytes between two programs can pile up to. -/
def pipeCapacity : Nat := 65536

def isExecutable (data : FileData) : Bool := data.mode &&& 0o111 ≠ 0

/-- What is run when a program is started: the shell, one of its utilities, or a script in a file. -/
inductive Executable where
  | shell
  | utility (name : String)
  | script (path : String)
deriving DecidableEq, Repr

/-- The utilities that are programs, too, and do not care about their arguments. -/
def lenientUtilities : List String := ["true", "false", "echo"]

/-- The words of the command that runs a program with some arguments. -/
def Executable.words (args : List String) : Executable → List String
  | .shell => "sh" :: args
  | .utility name => name :: args
  | .script path => "sh" :: path :: args

/-- The program that a path name stands for. -/
def executableAt (w : World) (path : String) : Except IoError Executable :=
  match w.tree.find path with
  | .error e => .error e
  | .ok .directory => .error (.other "Permission denied (os error 13)")
  | .ok (.file data) =>
    if !isExecutable data then .error (.other "Permission denied (os error 13)")
    else if "#!".toList.isPrefixOf (Text.lossy data.bytes).toList then .ok (.script path)
    else .error (.other "Exec format error (os error 8)")

/-- The programs that every machine has. -/
def systemProgram? (name : String) : Option Executable :=
  if name = "sh" then some .shell
  else if lenientUtilities.contains name then some (.utility name)
  else none

/-- The directories of the programs that every machine has. -/
def systemDirectories : List String := ["/bin/", "/usr/bin/"]

/-- The program of every machine that a path name stands for. -/
def systemProgramAt? (path : String) : Option Executable :=
  systemDirectories.findSome? fun dir =>
    if dir.toList.isPrefixOf path.toList then systemProgram? (String.ofList (path.toList.drop dir.length)) else none

/-- The program that a name stands for: the one at a path name, one of the search path, or one that
every machine has. -/
def executable (w : World) (name : String) : Except IoError Executable :=
  if name.toList.contains '/' then
    match systemProgramAt? name with
    | some e => .ok e
    | none => w.executableAt name
  else if name.utf8ByteSize > FileTree.maxNameBytes then .error .nameTooLong
  else
    match w.searchPath.findSome? fun dir => (w.executableAt (FileTree.pathIn dir name)).toOption with
    | some e => .ok e
    | none => (systemProgram? name).elim (.error .notFound) .ok

/-- The words that run a command line, once its program has been found. -/
def runnable (w : World) (command : List String) : Except IoError (List String) :=
  if command.any fun a => a.toList.contains '\x00' then .error .nulInArgument
  else match command with
    | [] => .error .notFound
    | name :: args => (w.executable name).map (Executable.words args)

/-- Whether bytes can be written to a program that takes so many of them and ends. -/
def copied (size taken : Nat) : Except IoError Unit :=
  if size ≤ taken + pipeCapacity then .ok () else .error .brokenPipe

/-- More steps than a script of an upload can take. -/
def scriptFuel : Nat := 100000

/-- Runs a program on the bytes of a file. -/
def feed (w : World) (command : List String) (file : FileTree.Opened) : Cluster.ClientEnd × World :=
  match w.runnable command with
  | .error e => (⟨.error e, false, .empty⟩, w)
  | .ok command =>
    let input := file.content.toOption.getD .empty
    let words := command.map fun a => a.toList.map fun c => Shell.Piece.char c true
    let m := Shell.Machine.runCommand scriptFuel (.simple words [])
      ⟨w.tree, [], "sh", [], input, .empty, .empty, 0, false⟩
    let written := match file.content with
      | .ok bytes => copied bytes.size (bytes.size - m.input.size)
      | .error e => .error e
    (⟨written, m.status = 0, m.errors⟩, { w with tree := m.tree })

/-! ## Requests behind calls to a cluster -/

def answerWire : (c : Cluster.WireCall) → World → c.Reply × World
  | .exchange request, w =>
    let (response, network) := w.network.exchange request
    (response, { w with network := network })
  | .openFile path, w => (w.tree.openFile path, w)
  | .pause, w => ((), { w with time := w.time.pass 1000 })
  | .startClient command, w => ((w.runnable command).map fun _ => (), w)
  | .feedClient command file, w => w.feed command file

/-- The wire that a world is. A program that is ended before it is fed has done nothing. -/
def wire : Host Cluster.Wire World where
  answer := answerWire
  answerInTime
    | .pause, w =>
      let (inTime, time) := w.time.passInTime 1000
      (if inTime then some () else none, { w with time := time })
    | c, w =>
      if w.time.isOver then (none, w)
      else
        let (reply, w) := w.answerWire c
        (some reply, w)
  act
    | .killClient, w => w
  setLimit limit w := { w with time := w.time.setLimit limit }

end World

end FilePlacement
