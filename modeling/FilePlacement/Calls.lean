import FilePlacement.Backend
import FilePlacement.Files.Tree
import FilePlacement.Http.Message

/-!
# What reconciling asks for

A reconciler calls a storage backend, exchanges messages with web servers, and works on local
files. A temporary file gets a name of its own from whoever answers; removing it is a deed.

Backend and local surroundings may be two hosts that share a state (`Host.join`).
-/

namespace FilePlacement

inductive LocalCall where
  | exchange (request : Http.Request)
  | makeDirectories (path : String)
  /-- Makes an empty file with a fresh name that begins with the stem, and gives its path name. -/
  | makeTemporary (dir stem : String)
  | append (path : String) (bytes : ByteArray)
  | contents (path : String)
  | stat (path : String)

def LocalCall.Reply : LocalCall → Type
  | exchange _ => Option Http.Response
  | makeDirectories _ | append .. => Except IoError Unit
  | makeTemporary .. => Except IoError String
  | contents _ => Except IoError ByteArray
  | stat _ => Except IoError FileStat

inductive LocalDeed where
  /-- Removes a temporary file; that it is gone or cannot be removed does not matter. -/
  | discard (path : String)
deriving DecidableEq, Repr

def Surroundings : Interface where
  Request := LocalCall
  Reply := LocalCall.Reply
  Deed := LocalDeed

inductive Call where
  | backend (call : BackendCall)
  | here (call : LocalCall)

def Call.Reply : Call → Type
  | backend call => Except Fault call.Result
  | here call => call.Reply

def Reconciling : Interface where
  Request := Call
  Reply := Call.Reply
  Deed := LocalDeed

/-- A backend and local surroundings with one state; the surroundings keep the time. -/
def Host.join {σ : Type} (backend : Host Storage σ) (here : Host Surroundings σ) : Host Reconciling σ where
  answer
    | .backend call, s => backend.answer call s
    | .here call, s => here.answer call s
  answerInTime
    | .backend call, s => backend.answerInTime call s
    | .here call, s => here.answerInTime call s
  act := here.act
  setLimit := here.setLimit

/-- A host on a part of a larger state. -/
def Host.zoom {I : Interface} {σ τ : Type} (h : Host I σ) (get : τ → σ) (put : τ → σ → τ) : Host I τ where
  answer r t :=
    let (reply, s) := h.answer r (get t)
    (reply, put t s)
  answerInTime r t :=
    let (reply, s) := h.answerInTime r (get t)
    (reply, put t s)
  act d t := put t (h.act d (get t))
  setLimit limit t := put t (h.setLimit limit (get t))

namespace Reconciling

/-- Calls the backend. -/
def call (c : BackendCall) : Task Reconciling c.Result := Task.ofProgram (Program.request (I := Reconciling) (.backend c))

def listFiles (node datastore : String) : Task Reconciling (List Listed) := call (.listFiles node datastore)

def datastore (name : String) : Task Reconciling Datastore := call (.datastore name)

def apiUpload (node datastore : String) (upload : Upload) : Task Reconciling Unit :=
  call (.apiUpload node datastore upload)

def streamUpload (node path : String) (upload : Upload) : Task Reconciling Unit := call (.streamUpload node path upload)

/-- Asks the local surroundings. -/
def localRequest (c : LocalCall) : Program Reconciling c.Reply := Program.request (I := Reconciling) (.here c)

def exchange (request : Http.Request) : Program Reconciling (Option Http.Response) := localRequest (.exchange request)

def makeDirectories (path : String) : Task Reconciling Unit := Task.ofIo (localRequest (.makeDirectories path))

def makeTemporary (dir stem : String) : Task Reconciling String := Task.ofIo (localRequest (.makeTemporary dir stem))

def append (path : String) (bytes : ByteArray) : Task Reconciling Unit := Task.ofIo (localRequest (.append path bytes))

def contents (path : String) : Task Reconciling ByteArray := Task.ofIo (localRequest (.contents path))

def stat (path : String) : Program Reconciling (Except IoError FileStat) := localRequest (.stat path)

end Reconciling

end FilePlacement
