import FilePlacement.Drift
import FilePlacement.Placement

/-!
# Reconciling

Creating, reading, updating, deleting and importing one file on a datastore. A file is never
changed in place: what a host cannot change by recording it, it deletes and creates again.

Creating runs within the limit of the desired state, in two stages. `place` checks the desired
state, looks for collisions and uploads; `readBack` looks whether the file is there. What `place`
has uploaded is deleted again when `readBack` does not succeed, and that deletion has no limit.
-/

namespace FilePlacement

/-- What a successful operation gives, with the warnings on the way. -/
structure Outcome (α : Type) where
  value : α
  warnings : List String
deriving Repr

/-- Another value with the same warnings. -/
def Outcome.map {α β : Type} (f : α → β) (o : Outcome α) : Outcome β := ⟨f o.value, o.warnings⟩

/-- An operation that is over: its outcome, the events to record and the state of the host. -/
structure Finished (σ α : Type) where
  result : Except Fault (Outcome α)
  events : List AuditEvent
  host : σ

namespace Reconciler

/-! ## Desired states without looking anywhere -/

/-- What a desired state says once it has been checked. -/
structure Plan where
  source : Source
  mode : Option FileMode
  fileName : String

/-- Checks all that can be checked of a desired state without asking anything. -/
def plan (spec : Spec) : Except Fault Plan := do
  let source ← spec.source
  source.validate
  let mode ← spec.mode
  let fileName ← source.fileName
  return ⟨source, mode, fileName⟩

/-- The file name of a desired state, empty if it has none. -/
def nameOrEmpty (spec : Spec) : String :=
  match spec.source with
  | .ok source => source.fileName.toOption.getD ""
  | .error _ => ""

/-! ## Placing -/

/-- The release of the cluster; the oldest one if the cluster does not tell. -/
def releaseOrMinimum : Program Reconciling Release :=
  (Program.request (I := Reconciling) (.backend .release)).bind fun
    | .ok release => .done release
    | .error _ => .done .minimum

/-- The content kind of a file. The release matters only where no kind is stated. -/
def contentKind (spec : Spec) (fileName : String) : Task Reconciling ContentKind :=
  match stated spec.contentType with
  | some text => Task.ofExcept (ContentKind.parse text)
  | none => Task.ofProgram (releaseOrMinimum.bind fun release => .done (ContentKind.infer fileName release.canImport))

/-- A file that has been uploaded. -/
structure Placed where
  volume : VolumeId
  kind : ContentKind
  overwritten : List VolumeId
  warnings : List String

/-- Checks a desired state, gets its source and uploads it. -/
def place (tmpDir : String) (spec : Spec) : Task Reconciling Placed := do
  let plan ← Task.ofExcept (plan spec)
  let kind ← contentKind spec plan.fileName
  let overwritten ← Placement.checkCollision spec.nodeName spec.datastoreId plan.fileName spec.overwrite
  let artifact ← Artifact.resolve tmpDir plan.source
  let target : Target := ⟨spec.nodeName, spec.datastoreId, kind⟩
  let warnings ← Task.guarded artifact.deeds (Placement.upload target artifact plan.mode)
  return ⟨⟨spec.datastoreId, kind.name, plan.fileName⟩, kind, overwritten,
    overwritten.map Placement.overwriteWarning ++ warnings⟩

/-- The events of an upload: first what it has overwritten. -/
def Placed.events (node : String) (p : Placed) : List AuditEvent :=
  p.overwritten.map (fun v => .overwritten node v.format) ++ [.uploaded node p.volume.format p.kind.transport]

/-! ## Reading -/

/-- The record of a listed file, its source not looked at. -/
def refreshed (spec : Spec) (state : State) (entry : Listed) (v : VolumeId) : State :=
  { state with
    nodeName := spec.nodeName, datastoreId := v.datastore, fileName := v.fileName, contentType := entry.contentType,
    sourceChanged := false }

/-- A record with what has been observed of the source now. An unknown source leaves the record of
the source as it is. -/
def withObservation (state : State) (observed : Observation) : State :=
  { state with
    source := if observed.isKnown then observed else state.source
    sourceChanged := state.source.hasChanged observed }

/-- Refreshes a record; none if the file is not listed any more. -/
def refresh (spec : Spec) (state : State) : Task Reconciling (Option State) := do
  let listing ← Reconciling.listFiles spec.nodeName spec.datastoreId
  match listing.find? fun entry => entry.volumeId = state.id with
  | none => return none
  | some entry =>
    let v ← Task.ofExcept (VolumeId.parse entry.volumeId)
    let next := refreshed spec state entry v
    match spec.sourceFile with
    | none => return some next
    | some file => return some (withObservation next (← Drift.observe file))

/-- The first record of a file that has been uploaded. -/
def Placed.state (spec : Spec) (p : Placed) : State :=
  { State.blank with
    id := p.volume.format, nodeName := spec.nodeName, datastoreId := spec.datastoreId, contentType := p.kind.name,
    fileName := p.volume.fileName }

/-- Refreshes the first record of an upload, which has to be listed. -/
def readBack (spec : Spec) (p : Placed) : Task Reconciling State := do
  match ← refresh spec (p.state spec) with
  | some state => return state
  | none => throw (.readBackFailed p.volume.format)

/-! ## Operations -/

variable {σ : Type}

/-- An operation that ends with the event of its failure. -/
def failed (spec : Spec) (events : List AuditEvent) (fault : Fault) (s : σ) : Finished σ State :=
  ⟨.error fault, events ++ [.uploadFailed spec.nodeName (nameOrEmpty spec) fault.message], s⟩

/-- Deletes what has been uploaded, and fails with the fault that made this necessary. -/
def rollBack (h : Host Reconciling σ) (spec : Spec) (p : Placed) (fault : Fault) (s : σ) : Finished σ State :=
  match h.answer (.backend (.deleteFile spec.nodeName spec.datastoreId p.volume.format)) s with
  | (.ok _, s) =>
    failed spec (p.events spec.nodeName ++ [.rolledBack spec.nodeName p.volume.format]) fault s
  | (.error _, s) => failed spec (p.events spec.nodeName) fault s

/-- Places the file that a desired state asks for. -/
def create (h : Host Reconciling σ) (tmpDir : String) (spec : Spec) (s : σ) : Finished σ State :=
  match Program.runInTime h (place tmpDir spec) (h.setLimit spec.timeout s) with
  | (none, s) => failed spec [] (.timeout spec.timeout) s
  | (some (.error fault), s) => failed spec [] fault s
  | (some (.ok placed), s) =>
    match Program.runInTime h (readBack spec placed) s with
    | (none, s) => rollBack h spec placed (.timeout spec.timeout) s
    | (some (.error fault), s) => rollBack h spec placed fault s
    | (some (.ok state), s) => ⟨.ok ⟨state, placed.warnings⟩, placed.events spec.nodeName, s⟩

/-- Refreshes a record; none if the file is gone. -/
def read (h : Host Reconciling σ) (spec : Spec) (state : State) (s : σ) : Finished σ (Option State) :=
  match Program.run h (refresh spec state) s with
  | (.ok next, s) => ⟨.ok ⟨next, []⟩, [], s⟩
  | (.error fault, s) => ⟨.error fault, [], s⟩

/-- Takes over what can change without touching the file. -/
def update (spec : Spec) (state : State) : Except Fault (Outcome State) := do
  let _ ← spec.mode
  return ⟨state, []⟩

/-- Deletes a file. One that is gone already counts as deleted. -/
def delete (h : Host Reconciling σ) (spec : Spec) (state : State) (s : σ) : Finished σ Unit :=
  match h.answer (.backend (.deleteFile spec.nodeName spec.datastoreId state.id)) s with
  | (.ok _, s) => ⟨.ok ⟨(), []⟩, [.deleted spec.nodeName state.id], s⟩
  | (.error (.notFound _), s) => ⟨.ok ⟨(), []⟩, [], s⟩
  | (.error fault, s) => ⟨.error fault, [], s⟩

/-- The first record of a file that is there already, from its identity with the node in front. -/
def importState (id : String) : Except Fault State := do
  let (node, v) ← VolumeId.parseOnNode id
  return { State.blank with
    id := v.format, nodeName := node, datastoreId := v.datastore, contentType := v.contentType, fileName := v.fileName }

end Reconciler

end FilePlacement
