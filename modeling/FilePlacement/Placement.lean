import FilePlacement.Artifact
import FilePlacement.Audit
import FilePlacement.ContentKind
import FilePlacement.VolumeId

/-!
# Placing an artifact

The way to the datastore depends on the content kind: the cluster's upload service takes ISO
images, container templates and disk images for import, all else is streamed into the directory of
its kind. Before that, `checkCollision` looks for files of the same name.
-/

namespace FilePlacement

/-- Where an artifact is to go. -/
structure Target where
  node : String
  datastore : String
  kind : ContentKind
deriving DecidableEq, Repr

def ContentKind.transport (kind : ContentKind) : Transport := if kind.usesApiUpload then .api else .stream

namespace Placement

/-! ## Collisions -/

/-- The parseable entries of a listing with a file name. -/
def namesakes (fileName : String) (listing : List Listed) : List VolumeId :=
  listing.filterMap fun entry =>
    match VolumeId.parse entry.volumeId with
    | .ok v => if v.fileName = fileName then some v else none
    | .error _ => none

def overwriteWarning (v : VolumeId) : String :=
  "the existing file \"" ++ v.format ++ "\" has been overwritten by the resource"

/-- The files of the same name that may be overwritten; fails on the first one that may not. -/
def collisions (overwrite : Bool) (fileName : String) (listing : List Listed) : Except Fault (List VolumeId) :=
  match overwrite, namesakes fileName listing with
  | false, v :: _ => .error (.alreadyExists v.format)
  | _, vs => .ok vs

/-- Looks a datastore through for files of the same name. -/
def checkCollision (node datastore fileName : String) (overwrite : Bool) : Task Reconciling (List VolumeId) := do
  let listing ← Reconciling.listFiles node datastore
  Task.ofExcept (collisions overwrite fileName listing)

/-! ## Uploading -/

def sortTexts (ss : List String) : List String := ss.mergeSort fun a b => decide (a ≤ b)

def unsupportedWarning (datastore : String) (kind : ContentKind) (supported : List String) : String :=
  "the datastore \"" ++ datastore ++ "\" does not support content type \"" ++ kind.name
    ++ "\"; supported content types are: " ++ Text.quotedList (sortTexts supported)

def uploadViaApi (target : Target) (artifact : Artifact) (mode : Option FileMode) : Task Reconciling (List String) := do
  Reconciling.apiUpload target.node target.datastore ⟨target.kind.name, artifact.fileName, artifact.path, mode⟩
  return []

/-- Streams into the directory of the datastore. A datastore that is not meant for the content
kind is only warned about: whether the file may lie there is for the cluster to say. -/
def uploadViaStream (target : Target) (artifact : Artifact) (mode : Option FileMode) :
    Task Reconciling (List String) := do
  let datastore ← Reconciling.datastore target.datastore
  match stated datastore.path with
  | none => throw (.noDestinationPath target.datastore)
  | some path =>
    Reconciling.streamUpload target.node path ⟨target.kind.directory, artifact.fileName, artifact.path, mode⟩
    return if datastore.content.contains target.kind.name then []
      else [unsupportedWarning target.datastore target.kind datastore.content]

/-- Uploads an artifact the way its content kind goes, and gives the warnings. -/
def upload (target : Target) (artifact : Artifact) (mode : Option FileMode) : Task Reconciling (List String) :=
  match target.kind.transport with
  | .api => uploadViaApi target artifact mode
  | .stream => uploadViaStream target artifact mode

end Placement

end FilePlacement
