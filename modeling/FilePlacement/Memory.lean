import FilePlacement.ContentKind
import FilePlacement.World

/-!
# A storage backend in memory

A `Store` is a datastore as a list of entries, newest last. `Memory` is a world with such a store
behind its backend calls; disturbances can delay a call, make it fail, or lose an upload. Every call
is recorded before anything happens to it.
-/

namespace FilePlacement

structure Store where
  name : String
  release : Except Fault Release
  path : Option String
  content : List String
  files : List Listed

namespace Store

/-- The entry that an upload makes. Backups lie in a directory of another name. -/
def entryOf (s : Store) (upload : Upload) : Listed :=
  let kind := if upload.contentType = ContentKind.backup.directory then ContentKind.backup.name else upload.contentType
  ⟨s.name ++ ":" ++ kind ++ "/" ++ upload.fileName, kind⟩

/-- Puts an entry in the place of one with its identity, behind all others. -/
def add (s : Store) (entry : Listed) : Store :=
  { s with files := s.files.filter (fun e => e.volumeId != entry.volumeId) ++ [entry] }

def remove (s : Store) (volumeId : String) : Store :=
  { s with files := s.files.filter fun e => e.volumeId != volumeId }

def holds (s : Store) (volumeId : String) : Bool := s.files.any fun e => e.volumeId == volumeId

end Store

/-- The calls of a backend without their arguments. -/
inductive CallKind where
  | listFiles
  | datastore
  | release
  | apiUpload
  | streamUpload
  | deleteFile
deriving DecidableEq, Repr

def BackendCall.kind : BackendCall → CallKind
  | listFiles .. => .listFiles
  | datastore _ => .datastore
  | release => .release
  | apiUpload .. => .apiUpload
  | streamUpload .. => .streamUpload
  | deleteFile .. => .deleteFile

def BackendCall.upload? : BackendCall → Option Upload
  | apiUpload _ _ u | streamUpload _ _ u => some u
  | _ => none

/-- What goes wrong with a call. -/
structure Disturbance where
  /-- Milliseconds before anything happens. -/
  delay : Nat
  fault : Option Fault
  /-- An upload succeeds and stores nothing. -/
  lost : Bool

def Disturbance.none : Disturbance := ⟨0, Option.none, false⟩

/-- A call with the bytes that it would upload. -/
structure CallRecord where
  call : BackendCall
  data : Option (Except IoError ByteArray)

structure Memory where
  world : World
  store : Store
  /-- What awaits the next calls of each kind. -/
  disturbances : List (CallKind × List Disturbance)
  calls : List CallRecord

namespace Memory

/-- Takes the first disturbance of a kind off. -/
def take (kind : CallKind) : List (CallKind × List Disturbance) → Disturbance × List (CallKind × List Disturbance)
  | [] => (.none, [])
  | (k, ds) :: r =>
    if k = kind then (ds.headD .none, (k, ds.tail) :: r)
    else
      let (d, r) := take kind r
      (d, (k, ds) :: r)

/-- Records a call and says what awaits it. -/
def record (m : Memory) (call : BackendCall) : Disturbance × Memory :=
  let data := call.upload?.map fun u => m.world.tree.contents u.localPath
  let (d, rest) := take call.kind m.disturbances
  (d, { m with disturbances := rest, calls := m.calls ++ [⟨call, data⟩] })

/-- Stores an upload, if its file can be read. -/
def receive (m : Memory) (d : Disturbance) (upload : Upload) : Except Fault Unit × Memory :=
  match m.world.tree.contents upload.localPath with
  | .error e => (.error (.io e), m)
  | .ok _ => (.ok (), if d.lost then m else { m with store := m.store.add (m.store.entryOf upload) })

/-- What a call does once nothing is in its way. -/
def perform (m : Memory) (d : Disturbance) : (call : BackendCall) → Except Fault call.Result × Memory
  | .listFiles .. => (.ok m.store.files, m)
  | .datastore _ => (.ok ⟨m.store.name, m.store.path, m.store.content⟩, m)
  | .release => (m.store.release, m)
  | .apiUpload _ _ upload => m.receive d upload
  | .streamUpload _ _ upload => m.receive d upload
  | .deleteFile _ _ volumeId =>
    if m.store.holds volumeId then (.ok (), { m with store := m.store.remove volumeId })
    else (.error (.notFound volumeId), m)

def settle (m : Memory) (d : Disturbance) (call : BackendCall) : Except Fault call.Result × Memory :=
  match d.fault with
  | some fault => (.error fault, m)
  | none => m.perform d call

def setTime (m : Memory) (time : Timekeeper) : Memory := { m with world := { m.world with time := time } }

/-- The backend; it knows no nodes and only one datastore. -/
def backend : Host Storage Memory where
  answer call m :=
    let (d, m) := m.record call
    (m.setTime (m.world.time.pass d.delay)).settle d call
  answerInTime call m :=
    let (d, m) := m.record call
    if d.delay = 0 then
      let (reply, m) := m.settle d call
      (some reply, m)
    else
      let (inTime, time) := m.world.time.passInTime d.delay
      if inTime then
        let (reply, m) := (m.setTime time).settle d call
        (some reply, m)
      else (none, m.setTime time)
  act d _ := nomatch d
  setLimit limit m := m.setTime (m.world.time.setLimit limit)

def host : Host Reconciling Memory :=
  Host.join backend (World.surroundings.zoom Memory.world fun m w => { m with world := w })

end Memory

end FilePlacement
