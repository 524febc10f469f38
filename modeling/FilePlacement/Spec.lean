import FilePlacement.FileMode

/-!
# Desired and recorded state of a file

A `Spec` says which file has to lie where, and where its bytes come from. A `State` is what was
last seen of it. Of an optional setting the empty text counts as absent (`stated`).
-/

namespace FilePlacement

/-- A setting that is given and not empty. -/
def stated : Option String → Option String
  | some text => if text.isEmpty then none else some text
  | none => none

@[simp] theorem stated_none : stated none = none := rfl

@[simp] theorem stated_empty : stated (some "") = none := rfl

theorem stated_ne_empty {setting : Option String} {text : String} (h : stated setting = some text) : text ≠ "" := by
  unfold stated at h
  split at h
  · split at h <;> simp_all
  · simp at h

/-- A source in a local file or behind an HTTP(S) URL. -/
structure SourceFile where
  path : String
  /-- The SHA-256 digest that the file has to have, in hexadecimal. -/
  checksum : Option String
  /-- The name to store the file under instead of its own. -/
  fileName : Option String
  /-- Whether certificates of an HTTPS source are taken unchecked. -/
  insecure : Bool
  /-- The oldest version of TLS that is good enough for an HTTPS source. -/
  minTls : Option String
deriving DecidableEq, Repr

/-- A source whose bytes are in the desired state itself. -/
structure SourceRaw where
  data : String
  fileName : String
  /-- The number of bytes to fill the data up to with spaces; zero leaves them as they are. -/
  resize : UInt64
deriving DecidableEq, Repr

/-- The desired state of a file. -/
structure Spec where
  nodeName : String
  datastoreId : String
  /-- The content kind, told by the file name if absent. -/
  contentType : Option String
  sourceFile : Option SourceFile
  sourceRaw : Option SourceRaw
  /-- Octal permission bits for streamed uploads. -/
  fileMode : Option String
  overwrite : Bool
  /-- The seconds that placing the file may take. -/
  timeoutUpload : UInt64
deriving DecidableEq, Repr

namespace Spec

def defaultTimeout : UInt64 := 1800

/-- The permission bits asked for, if any. -/
def mode (spec : Spec) : Except Fault (Option FileMode) :=
  match stated spec.fileMode with
  | some text => (FileMode.parse text).map some
  | none => .ok none

/-- The time that placing the file may take. -/
def timeout (spec : Spec) : Time.Span := .ofSeconds spec.timeoutUpload.toNat

end Spec

/-- What is known of a source: unknown values are empty and zero. -/
structure Observation where
  /-- The moment of the last change, in UTC. -/
  modificationDate : String
  size : Int64
  tag : String
deriving DecidableEq, Repr

namespace Observation

def unknown : Observation := ⟨"", 0, ""⟩

/-- Something is known. -/
def isKnown (o : Observation) : Bool := !o.modificationDate.isEmpty || o.size != 0 || !o.tag.isEmpty

/-- Everything is known. -/
def isComplete (o : Observation) : Bool := !o.modificationDate.isEmpty && o.size != 0 && !o.tag.isEmpty

/-- Whether a source differs from what was recorded of it. Against an incomplete record nothing
reliable can be said, so no change is reported. -/
def hasChanged (previous current : Observation) : Bool := previous.isComplete && previous != current

theorem not_hasChanged_self (o : Observation) : hasChanged o o = false := by simp [hasChanged]

end Observation

/-- The recorded state of a file. -/
structure State where
  /-- The written identity of the volume. -/
  id : String
  nodeName : String
  datastoreId : String
  contentType : String
  fileName : String
  /-- The source as it was when the record was made. -/
  source : Observation
  /-- The source differs from the record before this one. -/
  sourceChanged : Bool
deriving DecidableEq, Repr

namespace State

def blank : State := ⟨"", "", "", "", "", .unknown, false⟩

end State

end FilePlacement
