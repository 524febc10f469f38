import FilePlacement.Proofs.CallSequence
import Mathlib.Tactic.Simps.Basic

/-!
# Empty settings

Five settings of a desired state are optional texts, and each is read in a place of its own. Wherever that is, an
empty text counts as absent: what is made of a desired state is the same with its empty settings left out, check by
check, then stage by stage. So an operation does the same and gives the same (`run_omitting`), whatever the host is,
and so does a run of operations in each of which other empty settings are left out (`empty_settings_are_absent`).
-/

namespace FilePlacement

open Reconciler

/-! ## Leaving empty settings out -/

/-- The optional settings of a desired state and of its source. -/
inductive Setting where
  | contentType
  | fileMode
  | checksum
  | fileName
  | minTls
deriving DecidableEq, Repr

/-- A setting, left out if it is empty and may be dropped. -/
def omitEmpty (drop : Bool) (setting : Option String) : Option String :=
  if drop = true ∧ setting = some "" then none else setting

theorem omitEmpty_eq_or (drop : Bool) (setting : Option String) :
    omitEmpty drop setting = setting ∨ setting = some "" ∧ omitEmpty drop setting = none := by
  unfold omitEmpty
  split
  · rename_i hdrop
    exact Or.inr ⟨hdrop.2, rfl⟩
  · exact Or.inl rfl

@[simp] theorem stated_omitEmpty (drop : Bool) (setting : Option String) :
    stated (omitEmpty drop setting) = stated setting := by
  rcases omitEmpty_eq_or drop setting with heq | ⟨rfl, heq⟩
  · rw [heq]
  · rw [heq, stated_empty, stated_none]

@[simp] theorem getD_omitEmpty (drop : Bool) (setting : Option String) :
    (omitEmpty drop setting).getD "" = setting.getD "" := by
  rcases omitEmpty_eq_or drop setting with heq | ⟨rfl, heq⟩
  · rw [heq]
  · rw [heq]
    rfl

/-- The source without those of its empty settings that may be dropped. -/
@[simps] def SourceFile.omitting (drop : Setting → Bool) (f : SourceFile) : SourceFile :=
  { f with
    checksum := omitEmpty (drop .checksum) f.checksum
    fileName := omitEmpty (drop .fileName) f.fileName
    minTls := omitEmpty (drop .minTls) f.minTls }

def Source.omitting (drop : Setting → Bool) : Source → Source
  | .file f => .file (f.omitting drop)
  | .raw r => .raw r

@[simps] def Spec.omitting (drop : Setting → Bool) (spec : Spec) : Spec :=
  { spec with
    contentType := omitEmpty (drop .contentType) spec.contentType
    fileMode := omitEmpty (drop .fileMode) spec.fileMode
    sourceFile := spec.sourceFile.map (SourceFile.omitting drop) }

def Operation.omitting (drop : Setting → Bool) : Operation → Operation
  | .create spec => .create (spec.omitting drop)
  | .read spec state => .read (spec.omitting drop) state
  | .update spec state => .update (spec.omitting drop) state
  | .delete spec state => .delete (spec.omitting drop) state

variable {σ : Type} (drop : Setting → Bool)

/-! ## Checks -/

@[simp] theorem minimumTls_omitting (f : SourceFile) : (f.omitting drop).minimumTls = f.minimumTls := by
  simp [SourceFile.minimumTls]

@[simp] theorem isUrl_omitting (f : SourceFile) : (f.omitting drop).isUrl = f.isUrl := rfl

@[simp] theorem ownName?_omitting (f : SourceFile) : (f.omitting drop).ownName? = f.ownName? := rfl

@[simp] theorem tlsPolicy_omitting (f : SourceFile) : Artifact.tlsPolicy (f.omitting drop) = Artifact.tlsPolicy f := by
  simp [Artifact.tlsPolicy]

@[simp] theorem fileName_omitting (source : Source) : (source.omitting drop).fileName = source.fileName := by
  cases source <;> simp [Source.omitting, Source.fileName]

@[simp] theorem validate_omitting (source : Source) : (source.omitting drop).validate = source.validate := by
  unfold Source.validate
  rw [fileName_omitting]
  cases source <;> simp [Source.omitting]

@[simp] theorem source_omitting (spec : Spec) : (spec.omitting drop).source = spec.source.map (Source.omitting drop) := by
  unfold Spec.source
  rw [Spec.omitting_sourceFile, Spec.omitting_sourceRaw]
  cases spec.sourceFile <;> cases spec.sourceRaw <;> rfl

@[simp] theorem mode_omitting (spec : Spec) : (spec.omitting drop).mode = spec.mode := by simp [Spec.mode]

@[simp] theorem timeout_omitting (spec : Spec) : (spec.omitting drop).timeout = spec.timeout := rfl

/-- A desired state is planned alike, up to the settings that its source has. -/
theorem plan_omitting (spec : Spec) :
    plan (spec.omitting drop) = (plan spec).map fun p => { p with source := p.source.omitting drop } := by
  unfold plan
  rw [source_omitting, mode_omitting]
  cases spec.source with
  | error f => rfl
  | ok source =>
    simp only [Except.map, bind, Except.bind, validate_omitting, fileName_omitting]
    cases source.validate <;> cases spec.mode <;> cases source.fileName <;> rfl

@[simp] theorem nameOrEmpty_omitting (spec : Spec) : nameOrEmpty (spec.omitting drop) = nameOrEmpty spec := by
  unfold nameOrEmpty
  rw [source_omitting]
  cases spec.source with
  | error f => rfl
  | ok source => exact congrArg (fun name => name.toOption.getD "") (fileName_omitting drop source)

/-! ## Stages -/

@[simp] theorem contentKind_omitting (spec : Spec) (fileName : String) :
    contentKind (spec.omitting drop) fileName = contentKind spec fileName := by
  simp [contentKind]

@[simp] theorem verify_omitEmpty (path : String) (b : Bool) (checksum : Option String) :
    Artifact.verify path (omitEmpty b checksum) = Artifact.verify path checksum := by
  simp [Artifact.verify]

@[simp] theorem resolve_omitting (tmpDir : String) (source : Source) :
    Artifact.resolve tmpDir (source.omitting drop) = Artifact.resolve tmpDir source := by
  unfold Artifact.resolve
  rw [fileName_omitting]
  cases source <;> simp [Source.omitting]

@[simp] theorem place_omitting (tmpDir : String) (spec : Spec) :
    place tmpDir (spec.omitting drop) = place tmpDir spec := by
  unfold place
  rw [plan_omitting]
  cases plan spec with
  | error f => rfl
  | ok p => simp [Except.map, Task.ofExcept]

@[simp] theorem observe_omitting (f : SourceFile) : Drift.observe (f.omitting drop) = Drift.observe f := by
  simp [Drift.observe]

@[simp] theorem refreshed_omitting (spec : Spec) : refreshed (spec.omitting drop) = refreshed spec := rfl

@[simp] theorem refresh_omitting (spec : Spec) (state : State) :
    refresh (spec.omitting drop) state = refresh spec state := by
  unfold refresh
  cases hfile : spec.sourceFile <;> simp [hfile]

@[simp] theorem state_omitting (spec : Spec) (p : Placed) : p.state (spec.omitting drop) = p.state spec := rfl

@[simp] theorem readBack_omitting (spec : Spec) (p : Placed) : readBack (spec.omitting drop) p = readBack spec p := by
  simp [readBack]

/-! ## Operations -/

@[simp] theorem failed_omitting (spec : Spec) (events : List AuditEvent) (fault : Fault) (s : σ) :
    failed (spec.omitting drop) events fault s = failed spec events fault s := by
  simp [failed]

@[simp] theorem rollBack_omitting (h : Host Reconciling σ) (spec : Spec) (p : Placed) (fault : Fault) (s : σ) :
    rollBack h (spec.omitting drop) p fault s = rollBack h spec p fault s := by
  unfold rollBack
  simp only [failed_omitting]
  rw [Spec.omitting_nodeName, Spec.omitting_datastoreId]
  rcases h.answer (Call.backend (.deleteFile spec.nodeName spec.datastoreId p.volume.format)) s with ⟨_ | _, t⟩ <;> rfl

@[simp] theorem delete_omitting (h : Host Reconciling σ) (spec : Spec) (state : State) (s : σ) :
    Reconciler.delete h (spec.omitting drop) state s = Reconciler.delete h spec state s := by
  unfold Reconciler.delete
  rw [Spec.omitting_nodeName, Spec.omitting_datastoreId]
  rcases h.answer (Call.backend (.deleteFile spec.nodeName spec.datastoreId state.id)) s with ⟨f | _, t⟩
  · cases f <;> rfl
  · rfl

/-- An operation does the same without empty settings: from the same state it comes to the same result, events and
state of the host. -/
theorem run_omitting (h : Host Reconciling σ) (tmpDir : String) (op : Operation) :
    (op.omitting drop).run h tmpDir = op.run h tmpDir := by
  funext s
  cases op with
  | create spec => simp [Operation.omitting, Operation.run, create]
  | read spec state => simp [Operation.omitting, Operation.run, Reconciler.read]
  | update spec state => simp [Operation.omitting, Operation.run, Reconciler.update]
  | delete spec state => simp [Operation.omitting, Operation.run]

/-- Operations do the same one after the other, whatever is left out in each of them. -/
theorem runAll_omitting (h : Host Reconciling σ) (tmpDir : String) (ops : List ((Setting → Bool) × Operation)) (s : σ) :
    runAll h tmpDir (ops.map fun op => op.2.omitting op.1) s = runAll h tmpDir (ops.map Prod.snd) s := by
  induction ops generalizing s with
  | nil => rfl
  | cons op ops ih =>
    have hfirst : ((op.2.omitting op.1).run h tmpDir s).host = (op.2.run h tmpDir s).host := by rw [run_omitting]
    change runAll h tmpDir _ ((op.2.omitting op.1).run h tmpDir s).host = runAll h tmpDir _ (op.2.run h tmpDir s).host
    rw [hfirst]
    exact ih _

/-- **An empty setting is an absent one.** Whichever of the empty optional settings of a desired state are left out,
an operation comes to the same result, warnings and events on every host, leaves it in the same state, and asks it
for the same in the same order. A run of operations leaves the same state behind, whatever is left out in each. -/
theorem empty_settings_are_absent (h : Host Reconciling σ) (tmpDir : String) :
    (∀ drop op s, (Operation.omitting drop op).run h tmpDir s = op.run h tmpDir s ∧
      (Operation.omitting drop op).log h tmpDir s = op.log h tmpDir s) ∧
    ∀ (ops : List ((Setting → Bool) × Operation)) s,
      runAll h tmpDir (ops.map fun op => op.2.omitting op.1) s = runAll h tmpDir (ops.map Prod.snd) s := by
  refine ⟨fun drop op s => ⟨?_, ?_⟩, fun ops s => runAll_omitting h tmpDir ops s⟩
  · rw [run_omitting]
  · unfold Operation.log
    rw [run_omitting]

end FilePlacement
