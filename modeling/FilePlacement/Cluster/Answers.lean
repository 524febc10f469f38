import FilePlacement.Backend
import FilePlacement.Json.Record
import FilePlacement.Text.Blank

/-!
# Answers of the cluster

The data that the web service of a cluster sends, each inside an envelope with the one field
`data`.
-/

namespace FilePlacement.Cluster

open Json

/-- A record of which only one field is known, and needed. -/
def readOnly {α : Type} (name : String) (read : Draft → Except Flaw α) : Draft → Except Flaw α :=
  readRecord [.of name read (fun b : Option α => b) fun _ v => some v] none id

/-- The data of an answer. -/
def readEnvelope {α : Type} (read : Draft → Except Flaw α) : Draft → Except Flaw α := readOnly "data" read

/-- One entry of a listing. -/
def readListed : Draft → Except Flaw Listed :=
  readRecord (B := Option String × Option String)
    [.of "volid" Draft.asText (·.1) fun b v => (some v, b.2), .of "content" Draft.asText (·.2) fun b v => (b.1, some v)]
    (none, none)
    fun b => do return ⟨← b.1, ← b.2⟩

/-- The texts between commas, without white space around them and without empty ones. -/
def contentNames (text : String) : List String :=
  ((Text.pieces ',' text.toList).map Text.trim).filterMap fun p => if p.isEmpty then none else some (String.ofList p)

structure StoragePartial where
  storage : Option String
  path : Option (Option String)
  content : Option String

def readDatastore : Draft → Except Flaw Datastore :=
  readRecord (B := StoragePartial)
    [.of "storage" Draft.asText (·.storage) fun b v => { b with storage := some v },
     .of "path" (Draft.asOption Draft.asText) (·.path) fun b v => { b with path := some v },
     .of "content" Draft.asText (·.content) fun b v => { b with content := some v }]
    ⟨none, none, none⟩
    fun b => b.storage.map fun name => ⟨name, b.path.join, contentNames (b.content.getD "")⟩

/-- The text of a release. -/
def readReleaseText : Draft → Except Flaw String := readOnly "version" Draft.asText

/-- The state of a task. -/
structure TaskStatus where
  status : String
  exitStatus : Option String
deriving DecidableEq, Repr

namespace TaskStatus

def isRunning (t : TaskStatus) : Bool := t.status != "stopped"

def succeeded (t : TaskStatus) : Bool := t.exitStatus == some "OK"

end TaskStatus

def readTaskStatus : Draft → Except Flaw TaskStatus :=
  readRecord (B := Option String × Option (Option String))
    [.of "status" Draft.asText (·.1) fun b v => (some v, b.2),
     .of "exitstatus" (Draft.asOption Draft.asText) (·.2) fun b v => (b.1, some v)]
    (none, none)
    fun b => b.1.map fun status => ⟨status, b.2.join⟩

end FilePlacement.Cluster
