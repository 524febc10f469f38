import FilePlacement.Proofs.Log
import FilePlacement.Proofs.Requests

/-!
# The course of creating a file

Run on a host that keeps a log, creating takes one of four courses (`create_course`): nothing is
uploaded; the upload does not succeed; it succeeds and so does reading back; it succeeds, reading
back does not, and what has been uploaded is deleted again. `Course` says for each of them what the
log looks like.
-/

namespace FilePlacement

open Reconciler

variable {σ τ : Type}

/-! ## Logs of reconciling -/

namespace Call

/-- A backend did what it was asked for. -/
def succeeded : (c : Call) → Option c.Reply → Bool
  | .backend _, some (.ok _) => true
  | _, _ => false

/-- A backend said where a datastore has its files. -/
def Reports (datastore path : String) : (c : Call) → Option c.Reply → Prop
  | .backend (.datastore name), some (.ok d) => name = datastore ∧ Datastore.path d = some path
  | _, _ => False

end Call

namespace Entry

def call (e : Entry Reconciling σ) : Call := e.request

def answer (e : Entry Reconciling σ) : Option e.call.Reply := e.reply

def succeeded (e : Entry Reconciling σ) : Bool := e.call.succeeded e.answer

def Reports (datastore path : String) (e : Entry Reconciling σ) : Prop := e.call.Reports datastore path e.answer

/-- The volume of an upload that has succeeded. -/
def completed? (streamed : String) (e : Entry Reconciling σ) : Option VolumeId :=
  if e.succeeded then e.call.volume? streamed else none

end Entry

/-- The volumes that have been uploaded successfully. -/
def completed (streamed : String) (log : List (Entry Reconciling σ)) : List VolumeId :=
  log.filterMap (Entry.completed? streamed)

/-- The requests that delete. -/
def deletions (log : List (Entry Reconciling σ)) : List Call := (log.map Entry.call).filter Call.isDeletion

/-- Nothing is uploaded and nothing deleted. -/
def QuietLog (log : List (Entry Reconciling σ)) : Prop := ∀ e ∈ log, e.call.Quiet

theorem Call.volume?_eq_none {c : Call} {streamed : String} (hc : c.isUpload = false) : c.volume? streamed = none := by
  unfold Call.isUpload at hc
  unfold Call.volume?
  split at hc <;> simp_all

theorem Call.isUpload_of_volume? {c : Call} {streamed : String} {v : VolumeId} (hc : c.volume? streamed = some v) :
    c.isUpload = true := by
  cases hu : c.isUpload with
  | true => rfl
  | false => rw [Call.volume?_eq_none hu] at hc; cases hc

theorem Call.isDeletion_of_volume? {c : Call} {streamed : String} {v : VolumeId} (hc : c.volume? streamed = some v) :
    c.isDeletion = false := by
  unfold Call.volume? at hc
  split at hc <;> first | rfl | simp at hc

theorem completed_append (streamed : String) (log new : List (Entry Reconciling σ)) :
    completed streamed (log ++ new) = completed streamed log ++ completed streamed new := List.filterMap_append

theorem completed_eq_nil {streamed : String} {log : List (Entry Reconciling σ)}
    (hl : ∀ e ∈ log, e.call.isUpload = false) : completed streamed log = [] := by
  refine List.filterMap_eq_nil_iff.2 fun e he => ?_
  unfold Entry.completed?
  rw [Call.volume?_eq_none (hl e he)]
  exact ite_self none

theorem completed_of_quiet {streamed : String} {log : List (Entry Reconciling σ)} (hl : QuietLog log) :
    completed streamed log = [] := completed_eq_nil fun e he => (hl e he).1

theorem deletions_append (log new : List (Entry Reconciling σ)) :
    deletions (log ++ new) = deletions log ++ deletions new := by
  unfold deletions
  rw [List.map_append, List.filter_append]

theorem deletions_of_quiet {log : List (Entry Reconciling σ)} (hl : QuietLog log) : deletions log = [] := by
  unfold deletions
  refine List.filter_eq_nil_iff.2 fun c hc => ?_
  obtain ⟨e, he, rfl⟩ := List.mem_map.1 hc
  simp [(hl e he).2]

theorem QuietLog.append {log new : List (Entry Reconciling σ)} (hl : QuietLog log) (hn : QuietLog new) :
    QuietLog (log ++ new) := fun e he => (List.mem_append.1 he).elim (hl e) (hn e)

theorem quietLog_singleton {e : Entry Reconciling σ} (he : e.call.Quiet) : QuietLog [e] :=
  List.forall_mem_singleton.2 he

/-! ## Calls with a log -/

namespace Reconciling

theorem wp_call {h : Host Reconciling σ} (c : BackendCall) {Q : c.Result → σ → Prop} {E : Fault → σ → Prop}
    {C : σ → Prop} {s : σ} :
    (call c).wp h Q E C s ↔
      (∀ a t, h.answerInTime (.backend c) s = (some (.ok a), t) → Q a t) ∧
      (∀ f t, h.answerInTime (.backend c) s = (some (.error f), t) → E f t) ∧
      (∀ t, h.answerInTime (.backend c) s = (none, t) → C t) := by
  refine (Program.wp_ask (I := Reconciling)).trans ?_
  constructor
  · exact fun hw => ⟨fun a => hw.1 (.ok a), fun f => hw.1 (.error f), hw.2⟩
  · rintro ⟨hQ, hE, hC⟩
    refine ⟨fun reply t ht => ?_, hC⟩
    match reply, ht with
    | .ok a, ht => exact hQ a t ht
    | .error f, ht => exact hE f t ht

theorem wp_localRequest {h : Host Reconciling σ} (c : LocalCall) {Q : c.Reply → σ → Prop} {C : σ → Prop} {s : σ} :
    (localRequest c).wp h Q C s ↔
      (∀ r t, h.answerInTime (Call.here c) s = (some r, t) → Q r t) ∧
      (∀ t, h.answerInTime (Call.here c) s = (none, t) → C t) := Program.wp_ask

/-- With a log there is one more entry after the call. -/
theorem wp_call_logged {h : Host Reconciling σ} (c : BackendCall)
    {Q : c.Result → σ × List (Entry Reconciling σ) → Prop} {E : Fault → σ × List (Entry Reconciling σ) → Prop}
    {C : σ × List (Entry Reconciling σ) → Prop} {s : σ} {log : List (Entry Reconciling σ)}
    (hQ : ∀ a t, h.answerInTime (.backend c) s = (some (.ok a), t) → Q a (t, log ++ [.askedInTime h (.backend c) s]))
    (hE : ∀ f t, h.answerInTime (.backend c) s = (some (.error f), t) →
      E f (t, log ++ [.askedInTime h (.backend c) s]))
    (hC : ∀ t, h.answerInTime (.backend c) s = (none, t) → C (t, log ++ [.askedInTime h (.backend c) s])) :
    (call c).wp h.logged Q E C (s, log) := by
  refine (wp_call c).2 ⟨fun a t ht => ?_, fun f t ht => ?_, fun t ht => ?_⟩ <;>
    simp only [Host.logged, Prod.mk.injEq] at ht <;> obtain ⟨hr, rfl⟩ := ht
  · exact hQ a _ (Prod.ext hr rfl)
  · exact hE f _ (Prod.ext hr rfl)
  · exact hC _ (Prod.ext hr rfl)

end Reconciling

variable {h : Host Reconciling σ}

theorem succeeded_of_ok {c : BackendCall} {s t : σ} {a : c.Result}
    (ht : h.answerInTime (.backend c) s = (some (.ok a), t)) :
    (Entry.askedInTime h (.backend c) s : Entry Reconciling σ).succeeded = true := by
  change Call.succeeded (.backend c) (h.answerInTime (Call.backend c) s).1 = _
  rw [ht]
  rfl

theorem succeeded_of_error {c : BackendCall} {s t : σ} {f : Fault}
    (ht : h.answerInTime (.backend c) s = (some (.error f), t)) :
    (Entry.askedInTime h (.backend c) s : Entry Reconciling σ).succeeded = false := by
  change Call.succeeded (.backend c) (h.answerInTime (Call.backend c) s).1 = _
  rw [ht]
  rfl

theorem succeeded_of_none {c : BackendCall} {s t : σ} (ht : h.answerInTime (.backend c) s = (none, t)) :
    (Entry.askedInTime h (.backend c) s : Entry Reconciling σ).succeeded = false := by
  change Call.succeeded (.backend c) (h.answerInTime (Call.backend c) s).1 = _
  rw [ht]
  rfl

theorem reports_of_ok {datastore path : String} {s t : σ} {d : Datastore}
    (ht : h.answerInTime (Call.backend (.datastore datastore)) s = (some (.ok d), t)) (hd : d.path = some path) :
    (Entry.askedInTime h (Call.backend (.datastore datastore)) s : Entry Reconciling σ).Reports datastore path := by
  change Call.Reports datastore path (.backend (.datastore datastore))
    (h.answerInTime (Call.backend (.datastore datastore)) s).1
  rw [ht]
  exact ⟨rfl, hd⟩

theorem quiet_answerInTime {c : Call} (hc : c.Quiet) {s : σ × List (Entry Reconciling σ)} (hs : QuietLog s.2) :
    QuietLog (h.logged.answerInTime c s).2.2 :=
  QuietLog.append hs (quietLog_singleton hc)

/-! ## Placing -/

theorem eq_some_of_stated {setting : Option String} {text : String} (hs : stated setting = some text) :
    setting = some text := by
  unfold stated at hs
  split at hs
  · split at hs
    · cases hs
    · exact hs
  · cases hs

/-- The volume is one that the desired state can stand for. -/
def IsTarget (spec : Spec) (v : VolumeId) : Prop :=
  v.datastore = spec.datastoreId ∧ ∃ p kind, plan spec = .ok p ∧ v.fileName = p.fileName ∧
    KindFor spec p.fileName kind ∧ v.contentType = kind.name

/-- A stream goes where the backend has said that the datastore has its files. -/
def Addressed (datastore : String) (log : List (Entry Reconciling σ)) (c : Call) : Prop :=
  ∀ node path u, c = .backend (.streamUpload node path u) → ∃ e ∈ log, e.Reports datastore path

/-- The log ends with an upload of the volume, the only one. -/
def Uploads (spec : Spec) (v : VolumeId) (success : Bool) (log : List (Entry Reconciling σ)) : Prop :=
  ∃ pre e, log = pre ++ [e] ∧ QuietLog pre ∧ IsTarget spec v ∧ e.call.volume? spec.datastoreId = some v ∧
    e.succeeded = success ∧ Addressed spec.datastoreId pre e.call

theorem QuietLog.volume?_ne {log : List (Entry Reconciling σ)} (hl : QuietLog log) {e : Entry Reconciling σ}
    (he : e ∈ log) {streamed : String} {v : VolumeId} : e.call.volume? streamed ≠ some v := by
  rw [Call.volume?_eq_none (hl e he).1]
  exact nofun

theorem Uploads.isTarget {spec : Spec} {v : VolumeId} {success : Bool} {log : List (Entry Reconciling σ)}
    (hu : Uploads spec v success log) : IsTarget spec v := by
  obtain ⟨-, -, -, -, htarget, -⟩ := hu
  exact htarget

/-- The upload of such a log is the only one. -/
theorem Uploads.unique {spec : Spec} {v : VolumeId} {success : Bool} {log : List (Entry Reconciling σ)}
    (hu : Uploads spec v success log) :
    ∃ e ∈ log, e.call.volume? spec.datastoreId = some v ∧ e.succeeded = success ∧
      ∀ e' ∈ log, ∀ w, e'.call.volume? spec.datastoreId = some w → e' = e := by
  obtain ⟨pre, e, rfl, hpre, -, hv, hs, -⟩ := hu
  refine ⟨e, by simp, hv, hs, fun e' he' w hw => ?_⟩
  rcases List.mem_append.1 he' with he' | he'
  · exact absurd hw (hpre.volume?_ne he')
  · exact List.mem_singleton.1 he'

/-- No upload was asked for, or one that did not succeed. -/
def NotUploaded (spec : Spec) (log : List (Entry Reconciling σ)) : Prop :=
  QuietLog log ∨ ∃ v, Uploads spec v false log

namespace Target

variable (target : Target) (artifact : Artifact) (mode : Option FileMode)

/-- The question where the datastore has its files. -/
def question : Call := .backend (.datastore target.datastore)

def apiUpload : Call :=
  .backend (.apiUpload target.node target.datastore ⟨target.kind.name, artifact.fileName, artifact.path, mode⟩)

def streamUpload (path : String) : Call :=
  .backend (.streamUpload target.node path ⟨target.kind.directory, artifact.fileName, artifact.path, mode⟩)

end Target

/-- How an upload continues a log, and whether it succeeds. A stream comes behind the question where it
is to go, and not at all if the backend does not say. -/
inductive Sends (h : Host Reconciling σ) (target : Target) (artifact : Artifact) (mode : Option FileMode) (s : σ)
    (log : List (Entry Reconciling σ)) : Bool → List (Entry Reconciling σ) → Prop
  | unaddressed (hway : target.kind.transport = .stream) :
      Sends h target artifact mode s log false (log ++ [.askedInTime h target.question s])
  | api {success : Bool} (hs : (Entry.askedInTime h (target.apiUpload artifact mode) s).succeeded = success)
      (hway : target.kind.transport = .api) :
      Sends h target artifact mode s log success (log ++ [.askedInTime h (target.apiUpload artifact mode) s])
  | stream {success : Bool} {path : String}
      (hr : (Entry.askedInTime h target.question s).Reports target.datastore path)
      (hs : (Entry.askedInTime h (target.streamUpload artifact mode path)
        (h.answerInTime target.question s).2).succeeded = success)
      (hway : target.kind.transport = .stream) :
      Sends h target artifact mode s log success (log ++ [.askedInTime h target.question s] ++
        [.askedInTime h (target.streamUpload artifact mode path) (h.answerInTime target.question s).2])

theorem wp_upload (h : Host Reconciling σ) (target : Target) (artifact : Artifact) (mode : Option FileMode) (s : σ)
    (log : List (Entry Reconciling σ)) :
    (Placement.upload target artifact mode).wp h.logged (fun _ t => Sends h target artifact mode s log true t.2)
      (fun _ t => Sends h target artifact mode s log false t.2)
      (fun t => Sends h target artifact mode s log false t.2) (s, log) := by
  unfold Placement.upload
  cases hway : target.kind.transport with
  | api =>
    unfold Placement.uploadViaApi
    refine Task.wp_bind.2 (Reconciling.wp_call_logged
      (.apiUpload target.node target.datastore ⟨target.kind.name, artifact.fileName, artifact.path, mode⟩)
      (fun a t ht => ?_) (fun f t ht => ?_) fun t ht => ?_)
    · exact .api (succeeded_of_ok ht) hway
    · exact .api (succeeded_of_error ht) hway
    · exact .api (succeeded_of_none ht) hway
  | stream =>
    unfold Placement.uploadViaStream
    refine Task.wp_bind.2 (Reconciling.wp_call_logged (.datastore target.datastore)
      (fun d t ht => ?_) (fun f t ht => .unaddressed hway) fun t ht => .unaddressed hway)
    cases hd : stated (d : Datastore).path with
    | none => exact .unaddressed hway
    | some path =>
      have hr : (Entry.askedInTime h target.question s).Reports target.datastore path :=
        reports_of_ok ht (eq_some_of_stated hd)
      obtain rfl : (h.answerInTime target.question s).2 = t := congrArg Prod.snd ht
      refine Task.wp_bind.2 (Reconciling.wp_call_logged
        (.streamUpload target.node path ⟨target.kind.directory, artifact.fileName, artifact.path, mode⟩)
        (fun a u hu => ?_) (fun f u hu => ?_) fun u hu => ?_)
      · exact .stream hr (succeeded_of_ok hu) hway
      · exact .stream hr (succeeded_of_error hu) hway
      · exact .stream hr (succeeded_of_none hu) hway

/-- Behind a quiet log there is one upload at most, of the volume that is to be made. -/
theorem Sends.uploads {spec : Spec} {kind : ContentKind} {artifact : Artifact} {mode : Option FileMode} {s : σ}
    {log new : List (Entry Reconciling σ)} {success : Bool}
    (hsends : Sends h ⟨spec.nodeName, spec.datastoreId, kind⟩ artifact mode s log success new) (hlog : QuietLog log)
    (htarget : IsTarget spec ⟨spec.datastoreId, kind.name, artifact.fileName⟩) :
    Uploads spec ⟨spec.datastoreId, kind.name, artifact.fileName⟩ success new ∨ success = false ∧ QuietLog new := by
  have hquiet : QuietLog (log ++ [.askedInTime h (Target.question ⟨spec.nodeName, spec.datastoreId, kind⟩) s]) :=
    hlog.append (quietLog_singleton ⟨rfl, rfl⟩)
  cases hsends with
  | unaddressed => exact Or.inr ⟨rfl, hquiet⟩
  | api hs => exact Or.inl ⟨log, _, rfl, hlog, htarget, rfl, hs, nofun⟩
  | @stream _ path hr hs =>
    refine Or.inl ⟨_, _, rfl, hquiet, htarget, ?_, hs, ?_⟩
    · change (Target.streamUpload _ artifact mode path).volume? spec.datastoreId = _
      simp only [Call.volume?, Target.streamUpload, kindName_directory]
    · rintro node path u ⟨⟩
      exact ⟨_, List.mem_append_right log List.mem_cons_self, hr⟩

theorem Sends.notUploaded {spec : Spec} {kind : ContentKind} {artifact : Artifact} {mode : Option FileMode} {s : σ}
    {log new : List (Entry Reconciling σ)}
    (hsends : Sends h ⟨spec.nodeName, spec.datastoreId, kind⟩ artifact mode s log false new) (hlog : QuietLog log)
    (htarget : IsTarget spec ⟨spec.datastoreId, kind.name, artifact.fileName⟩) : NotUploaded spec new := by
  rcases hsends.uploads hlog htarget with hu | ⟨-, hq⟩
  · exact Or.inr ⟨_, hu⟩
  · exact Or.inl hq

theorem wp_prepare (h : Host Reconciling σ) (tmpDir : String) (spec : Spec) (s : σ) :
    (prepare tmpDir spec).wp h.logged
      (fun p t => (plan spec = .ok p.plan ∧ KindFor spec p.plan.fileName p.kind ∧
        p.artifact.fileName = p.plan.fileName) ∧ QuietLog t.2)
      (fun _ t => QuietLog t.2) (fun t => QuietLog t.2) (s, []) :=
  Task.wp_ends (ends_prepare tmpDir spec) <| Task.wp_of_asksOnly (h := h.logged) (fun t => QuietLog t.2)
    (fun r t hr ht => quiet_answerInTime hr.quiet ht) (fun d t ht => ht) (asksOnly_prepare tmpDir spec)
    (s := (s, [])) (by simp [QuietLog])

/-- Deeds at the end of a task do not change its log. -/
theorem Task.wp_guarded_logged {α : Type} {t : Task Reconciling α} {ds : List LocalDeed}
    {Q : α → List (Entry Reconciling σ) → Prop} {E : Fault → List (Entry Reconciling σ) → Prop}
    {C : List (Entry Reconciling σ) → Prop} {s : σ × List (Entry Reconciling σ)}
    (ht : t.wp h.logged (fun a u => Q a u.2) (fun f u => E f u.2) (fun u => C u.2) s) :
    Task.wp h.logged (fun a u => Q a u.2) (fun f u => E f u.2) (fun u => C u.2) (t.guarded ds) s := by
  have hacts := fun u => congrArg Prod.snd (acts_logged (h := h) ds u)
  refine Task.wp_guarded.2 (Task.wp_mono ht (fun a u hu => ?_) (fun f u hu => ?_) fun _ hu => hu)
  · rw [← hacts u] at hu
    exact hu
  · rw [← hacts u] at hu
    exact hu

/-- Uploading what has been made ready gives what was made ready. -/
theorem wp_uploadPrepared (h : Host Reconciling σ) (spec : Spec) (p : Prepared) (t : σ × List (Entry Reconciling σ)) :
    (uploadPrepared spec p).wp h.logged
      (fun placed u => (placed.volume = ⟨spec.datastoreId, p.kind.name, p.plan.fileName⟩ ∧ placed.kind = p.kind ∧
        placed.overwritten = p.overwritten) ∧
        Sends h ⟨spec.nodeName, spec.datastoreId, p.kind⟩ p.artifact p.plan.mode t.1 t.2 true u.2)
      (fun _ u => Sends h ⟨spec.nodeName, spec.datastoreId, p.kind⟩ p.artifact p.plan.mode t.1 t.2 false u.2)
      (fun u => Sends h ⟨spec.nodeName, spec.datastoreId, p.kind⟩ p.artifact p.plan.mode t.1 t.2 false u.2) t := by
  have hupload := wp_upload h ⟨spec.nodeName, spec.datastoreId, p.kind⟩ p.artifact p.plan.mode t.1 t.2
  refine Task.wp_bind.2 (Task.wp_mono (Task.wp_guarded_logged hupload) (fun a u hu => ?_) (fun f u hu => hu)
    fun u hu => hu)
  exact ⟨⟨rfl, rfl, rfl⟩, hu⟩

theorem wp_place (h : Host Reconciling σ) (tmpDir : String) (spec : Spec) (s : σ) :
    (place tmpDir spec).wp h.logged (fun p t => Uploads spec p.volume true t.2)
      (fun _ t => NotUploaded spec t.2) (fun t => NotUploaded spec t.2) (s, []) := by
  rw [place_eq]
  refine Task.wp_bind.2 (Task.wp_mono (wp_prepare h tmpDir spec s) (fun p t hp => ?_) (fun f t ht => Or.inl ht)
    fun t ht => Or.inl ht)
  obtain ⟨⟨hplan, hkind, hname⟩, hlog⟩ := hp
  have htarget : IsTarget spec ⟨spec.datastoreId, p.kind.name, p.artifact.fileName⟩ :=
    ⟨rfl, p.plan, p.kind, hplan, hname, hname ▸ hkind, rfl⟩
  refine Task.wp_mono (wp_uploadPrepared h spec p t) ?_ (fun f u hu => hu.notUploaded hlog htarget) fun u hu =>
    hu.notUploaded hlog htarget
  rintro placed u ⟨⟨hvolume, -, -⟩, hu⟩
  rcases hu.uploads hlog htarget with hu | ⟨hno, -⟩
  · rw [hvolume, ← hname]
    exact hu
  · cases hno

theorem wp_readBack (h : Host Reconciling σ) (spec : Spec) (p : Placed) (s : σ) (log : List (Entry Reconciling σ)) :
    (readBack spec p).wp h.logged (fun st t => st.id = p.volume.format ∧ ∃ back, t.2 = log ++ back ∧ QuietLog back)
      (fun _ t => ∃ back, t.2 = log ++ back ∧ QuietLog back) (fun t => ∃ back, t.2 = log ++ back ∧ QuietLog back)
      (s, log) := by
  refine Task.wp_ends (ends_readBack spec p) <| Task.wp_of_asksOnly
    (h := h.logged) (s := (s, log)) (fun t => ∃ back, t.2 = log ++ back ∧ QuietLog back)
    ?_ (fun d t ht => ht) (asksOnly_readBack spec p) ⟨[], (List.append_nil log).symm, by simp [QuietLog]⟩
  rintro r ⟨t, _⟩ hr ⟨back, rfl, hback⟩
  refine ⟨back ++ [Entry.askedInTime h r t], ?_, hback.append (quietLog_singleton (Call.Looks.quiet hr))⟩
  exact List.append_assoc log back [Entry.askedInTime h r t]

/-! ## Creating -/

namespace Reconciler

/-- Places a file and reads it back. -/
def attempt (tmpDir : String) (spec : Spec) : Task Reconciling (Outcome State) := do
  let placed ← place tmpDir spec
  let state ← readBack spec placed
  return ⟨state, placed.warnings⟩

/-- What the attempt asks for. -/
def attemptLog (h : Host Reconciling σ) (tmpDir : String) (spec : Spec) (s : σ) : List (Entry Reconciling σ) :=
  ((attempt tmpDir spec).runInTime h.logged (h.logged.setLimit spec.timeout (s, []))).2.2

theorem runInTime_attempt (h : Host Reconciling σ) (tmpDir : String) (spec : Spec) (s : σ) :
    (attempt tmpDir spec).runInTime h s = match (place tmpDir spec).runInTime h s with
      | (some (.ok p), t) => (match (readBack spec p).runInTime h t with
        | (some (.ok state), u) => (some (.ok ⟨state, p.warnings⟩), u)
        | (some (.error f), u) => (some (.error f), u)
        | (none, u) => (none, u))
      | (some (.error f), t) => (some (.error f), t)
      | (none, t) => (none, t) := by
  unfold attempt
  rw [Task.runInTime_bind]
  rcases (place tmpDir spec).runInTime h s with ⟨_ | f | p, t⟩
  · rfl
  · rfl
  · dsimp only
    rw [Task.runInTime_bind]
    rcases (readBack spec p).runInTime h t with ⟨_ | f | state, u⟩ <;> rfl

/-- The result is that of the attempt, whatever taking an upload back comes to. -/
theorem create_result (h : Host Reconciling σ) (tmpDir : String) (spec : Spec) (s : σ) :
    (create h tmpDir spec s).result =
      withinLimit spec ((attempt tmpDir spec).runInTime h (h.setLimit spec.timeout s)).1 := by
  have hstages := create_stages h tmpDir spec s
  generalize create h tmpDir spec s = finished at hstages
  rw [runInTime_attempt]
  cases hstages with
  | @unplaced r f t hplace hr => rw [hplace]; rcases r with _ | fault | p <;> simp_all [withinLimit, failed]
  | @undone p t r f u hplace hback hr =>
    rw [hplace, rollBack_result]
    dsimp only
    rw [hback]
    rcases r with _ | fault | state <;> simp_all [withinLimit]
  | created hplace hback =>
    rw [hplace]
    dsimp only
    rw [hback]
    rfl

end Reconciler

/-- What creating comes to, and the host when the attempt is over: nothing has been placed, in `E`; what has
been placed could not be read back, in `F`, and is taken back; or the file is there, in `B`. -/
inductive Concludes (h : Host Reconciling σ) (spec : Spec) (E : Fault → σ → Prop) (F : Placed → Fault → σ → Prop)
    (B : Placed → State → σ → Prop) : Finished σ State → σ → Prop
  | unplaced {f t} (hf : E f t) : Concludes h spec E F B (failed spec [] f t) t
  | undone {p f t} (hf : F p f t) : Concludes h spec E F B (rollBack h spec p f t) t
  | created {p state t} (hs : B p state t) :
      Concludes h spec E F B ⟨.ok ⟨state, p.warnings⟩, p.events spec.nodeName, t⟩ t

/-- What holds of the two stages, and of a cut-off with its fault, holds of creating. -/
theorem create_concludes (h : Host Reconciling σ) (tmpDir : String) (spec : Spec) (s : σ) {Q : Placed → σ → Prop}
    {E : Fault → σ → Prop} {F : Placed → Fault → σ → Prop} {B : Placed → State → σ → Prop}
    (hplace : (place tmpDir spec).wp h Q E (E (.timeout spec.timeout)) (h.setLimit spec.timeout s))
    (hback : ∀ p t, Q p t → (readBack spec p).wp h (B p) (F p) (F p (.timeout spec.timeout)) t)
    (hE : ∀ f d t, E f t → E f (h.act d t)) (hF : ∀ p f d t, F p f t → F p f (h.act d t)) :
    Concludes h spec E F B (create h tmpDir spec s)
      ((attempt tmpDir spec).runInTime h (h.setLimit spec.timeout s)).2 := by
  unfold create
  rw [runInTime_attempt]
  rcases hp : (place tmpDir spec).runInTime h (h.setLimit spec.timeout s) with ⟨_ | f | p, t⟩
  · exact .unplaced (Task.of_runInTime_none hplace (hE _) hp)
  · exact .unplaced (Task.of_runInTime_error hplace hp)
  · have hread := hback p t (Task.of_runInTime_ok hplace hp)
    dsimp only
    rcases hb : (readBack spec p).runInTime h t with ⟨_ | f | state, u⟩
    · exact .undone (Task.of_runInTime_none hread (hF p _) hb)
    · exact .undone (Task.of_runInTime_error hread hb)
    · exact .created (Task.of_runInTime_ok hread hb)

/-- How creating comes to its result: the log of the attempt, and of what comes after it. -/
inductive Course (h : Host Reconciling σ) (spec : Spec) :
    Except Fault (Outcome State) → List (Entry Reconciling σ) → List (Entry Reconciling σ) → Prop
  | unplaced {f log} (hlog : NotUploaded spec log) : Course h spec (.error f) log []
  | created {o v log back} (hid : o.value.id = v.format) (hlog : Uploads spec v true log) (hback : QuietLog back) :
      Course h spec (.ok o) (log ++ back) []
  | undone {f v log back m} (hlog : Uploads spec v true log) (hback : QuietLog back) :
      Course h spec (.error f) (log ++ back) [.asked h (deletion spec v) m]

/-- The log when what has been placed has been looked for: its upload, and nothing behind it that changes
anything. -/
def UploadsThenLooks (spec : Spec) (v : VolumeId) (log : List (Entry Reconciling σ)) : Prop :=
  ∃ first back, log = first ++ back ∧ Uploads spec v true first ∧ QuietLog back

theorem wp_readBack_looks (h : Host Reconciling σ) {spec : Spec} {p : Placed} {t : σ × List (Entry Reconciling σ)}
    (hu : Uploads spec p.volume true t.2) :
    (readBack spec p).wp h.logged (fun st u => st.id = p.volume.format ∧ UploadsThenLooks spec p.volume u.2)
      (fun _ u => UploadsThenLooks spec p.volume u.2) (fun u => UploadsThenLooks spec p.volume u.2) t := by
  have hlooks : ∀ u : σ × List (Entry Reconciling σ), (∃ back, u.2 = t.2 ++ back ∧ QuietLog back) →
      UploadsThenLooks spec p.volume u.2 := by
    rintro u ⟨back, hlog, hback⟩
    exact ⟨t.2, back, hlog, hu, hback⟩
  refine Task.wp_mono (wp_readBack h spec p t.1 t.2) ?_ (fun _ => hlooks) hlooks
  intro st u hst
  exact ⟨hst.1, hlooks u hst.2⟩

theorem create_course (h : Host Reconciling σ) (tmpDir : String) (spec : Spec) (s : σ) :
    ∃ undo, createLog h tmpDir spec s = attemptLog h tmpDir spec s ++ undo ∧
      Course h spec (create h tmpDir spec s).result (attemptLog h tmpDir spec s) undo := by
  have hconcludes := create_concludes h.logged tmpDir spec (s, [])
    (E := fun _ t => NotUploaded spec t.2) (F := fun p _ t => UploadsThenLooks spec p.volume t.2)
    (B := fun p st t => st.id = p.volume.format ∧ UploadsThenLooks spec p.volume t.2)
    (wp_place h tmpDir spec (h.setLimit spec.timeout s)) (fun p t hu => wp_readBack_looks h hu)
    (fun _ _ _ hn => hn) fun _ _ _ _ hu => hu
  rw [create_logged, createLog, attemptLog]
  generalize create h.logged tmpDir spec (s, []) = finished at hconcludes
  generalize ((attempt tmpDir spec).runInTime h.logged (h.logged.setLimit spec.timeout (s, []))).2 = t at hconcludes
  cases hconcludes with
  | unplaced hn => exact ⟨[], (List.append_nil t.2).symm, .unplaced hn⟩
  | @undone p f _ hu =>
    obtain ⟨first, back, hlog, hu, hback⟩ := hu
    rw [rollBack_result, rollBack_host]
    exact ⟨[Entry.asked h (deletion spec p.volume) t.1], rfl, hlog ▸ .undone hu hback⟩
  | created hs =>
    obtain ⟨hid, first, back, hlog, hu, hback⟩ := hs
    exact ⟨[], (List.append_nil t.2).symm, hlog ▸ .created hid hu hback⟩

end FilePlacement
