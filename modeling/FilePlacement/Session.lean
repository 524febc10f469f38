import FilePlacement.Cluster.Backend
import FilePlacement.Memory
import FilePlacement.Reconcile

/-!
# Sessions

A session works on one file step by step. It remembers the record that the last step gave, and a
step that is not given a record works on the remembered one.
-/

namespace FilePlacement

structure Session (σ : Type) where
  host : Host Reconciling σ
  tmpDir : String
  /-- The record that the next step works on. -/
  current : State
  surroundings : σ

namespace Session

variable {σ : Type}

/-- What a step says: the record that it gives, none for a file that is gone, and the events. -/
structure Report where
  result : Except Fault (Outcome (Option State))
  events : List AuditEvent

def start (host : Host Reconciling σ) (tmpDir : String) (surroundings : σ) : Session σ :=
  ⟨host, tmpDir, .blank, surroundings⟩

/-- A session behind a step: the record that the step gave becomes the current one. -/
def after (s : Session σ) (f : Finished σ (Option State)) : Report × Session σ :=
  let current := match f.result with
    | .ok outcome => outcome.value.getD s.current
    | .error _ => s.current
  (⟨f.result, f.events⟩, { s with current := current, surroundings := f.host })

def create (s : Session σ) (spec : Spec) : Report × Session σ :=
  let f := Reconciler.create s.host s.tmpDir spec s.surroundings
  s.after ⟨f.result.map (Outcome.map some), f.events, f.host⟩

def read (s : Session σ) (spec : Spec) (state : Option State) : Report × Session σ :=
  s.after (Reconciler.read s.host spec (state.getD s.current) s.surroundings)

def update (s : Session σ) (spec : Spec) (state : Option State) : Report × Session σ :=
  let result := Reconciler.update spec (state.getD s.current)
  s.after ⟨result.map (Outcome.map some), [], s.surroundings⟩

def delete (s : Session σ) (spec : Spec) (state : Option State) : Report × Session σ :=
  let f := Reconciler.delete s.host spec (state.getD s.current) s.surroundings
  s.after ⟨f.result.map (Outcome.map fun _ => none), f.events, f.host⟩

/-- Takes a file over that is there already. -/
def importFile (s : Session σ) (id : String) : Except Fault State × Session σ :=
  match Reconciler.importState id with
  | .ok state => (.ok state, { s with current := state })
  | .error f => (.error f, s)

end Session

/-- A reconciler on a cluster that a world can reach. -/
def World.host (connection : Cluster.Connection) : Host Reconciling World :=
  Host.join (connection.host World.wire fun w => w.time.limit) World.surroundings

end FilePlacement
