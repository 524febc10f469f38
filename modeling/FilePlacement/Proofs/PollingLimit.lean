import FilePlacement.Proofs.TemporaryFiles
import FilePlacement.Proofs.TimedPolling
import FilePlacement.Proofs.UnreadableSources

/-!
# Creating within its time limit

Where nothing takes time but the pauses between two looks at a task (`Timed`), the limit of a creation is a limit on
its looks: however the cluster answers, it is asked at most once more than there are seconds (`asked_create`). A task
that is still running then makes the creation fail for want of time, with nothing temporary left
(`create_of_running`); a task that stops successfully before makes it what it is without any limit
(`create_of_stopped`). The patience of the polling itself has no part in this (`create_of_patience`).
-/

namespace FilePlacement

open Reconciler

variable {σ : Type}

namespace Call

/-- An upload through the web service. -/
def isApiUpload : Call → Bool
  | .backend (.apiUpload ..) => true
  | _ => false

/-- An upload through the client program. -/
def isStreamUpload : Call → Bool
  | .backend (.streamUpload ..) => true
  | _ => false

theorem isApiUpload_of_quiet {c : Call} (hc : c.Quiet) : c.isApiUpload = false := by
  cases c with
  | here call => rfl
  | backend call => cases call <;> first | rfl | cases hc.1

theorem of_isApiUpload {c : Call} (hc : c.isApiUpload = true) : c.IsPlain ∧ c.isStreamUpload = false := by
  cases c with
  | here call => cases hc
  | backend call => cases call <;> first | exact ⟨trivial, rfl⟩ | cases hc

theorem isStreamUpload_of_quiet {c : Call} (hc : c.Quiet) : c.isStreamUpload = false := by
  cases c with
  | here call => rfl
  | backend call => cases call <;> first | rfl | cases hc.1

end Call

/-- The local surroundings do the deeds. -/
theorem Host.act_join (backend : Host Storage σ) (here : Host Surroundings σ) : (Host.join backend here).act = here.act :=
  rfl

namespace Reconciler

/-- What is uploaded of what has been made ready. -/
def Prepared.upload (p : Prepared) : Upload := ⟨p.kind.name, p.artifact.fileName, p.artifact.path, p.plan.mode⟩

/-- What a successful upload of it through the web service gives. -/
def Prepared.placed (spec : Spec) (p : Prepared) : Placed :=
  ⟨⟨spec.datastoreId, p.kind.name, p.plan.fileName⟩, p.kind, p.overwritten,
    p.overwritten.map Placement.overwriteWarning ++ []⟩

theorem asksOnly_uploadPrepared_api {spec : Spec} {p : Prepared} (hway : p.kind.transport = .api) :
    (uploadPrepared spec p).AsksOnly fun call => Call.isApiUpload call = true := by
  unfold uploadPrepared Placement.upload
  rw [hway]
  refine Task.AsksOnly.bind (Task.AsksOnly.guarded ?_ _) fun _ => Task.asksOnly_pure _
  exact Task.AsksOnly.bind (asksOnly_call rfl) fun _ => Task.asksOnly_pure _

theorem asksOnly_uploadPrepared_stream {spec : Spec} {p : Prepared} (hway : p.kind.transport = .stream) :
    (uploadPrepared spec p).AsksOnly fun call => Call.isApiUpload call = false := by
  unfold uploadPrepared Placement.upload
  rw [hway]
  refine Task.AsksOnly.bind (Task.AsksOnly.guarded ?_ _) fun _ => Task.asksOnly_pure _
  refine Task.AsksOnly.bind (asksOnly_call rfl) fun datastore => ?_
  split
  · exact Task.asksOnly_throw _
  · exact Task.AsksOnly.bind (asksOnly_call rfl) fun _ => Task.asksOnly_pure _

/-- An upload through the web service is one call, and nothing temporary outlives it. -/
theorem runInTime_uploadPrepared {spec : Spec} {p : Prepared} (hway : p.kind.transport = .api)
    (h : Host Reconciling σ) {t u : σ} {r : Option (Except Fault Unit)}
    (hr : h.answerInTime (Call.backend (.apiUpload spec.nodeName spec.datastoreId p.upload)) t = (r, u)) :
    Program.runInTime h (uploadPrepared spec p) t =
      (r.map fun r => r.map fun _ => p.placed spec, p.artifact.deeds.foldl (fun s d => h.act d s) u) := by
  unfold uploadPrepared Placement.upload
  rw [hway]
  have hguarded : Program.runInTime h (Task.guarded p.artifact.deeds
      (Placement.uploadViaApi ⟨spec.nodeName, spec.datastoreId, p.kind⟩ p.artifact p.plan.mode)) t =
        (r.map fun r => r.map fun _ => [], p.artifact.deeds.foldl (fun s d => h.act d s) u) := by
    unfold Artifact.deeds
    cases p.artifact.isTemporary <;>
    · rcases r with _ | f | a
      · exact Program.runInTime_ask_none hr
      · exact Program.runInTime_ask_some hr
      · exact Program.runInTime_ask_some hr
  rw [Task.runInTime_bind]
  dsimp only
  rw [hguarded]
  rcases r with _ | f | a <;> rfl

theorem create_of_cut {h : Host Reconciling σ} {tmpDir : String} {spec : Spec} {s t : σ}
    (hplace : Program.runInTime h (place tmpDir spec) (h.setLimit spec.timeout s) = (none, t)) :
    create h tmpDir spec s = failed spec [] (.timeout spec.timeout) t := by
  unfold create
  rw [hplace]

/-- A run that comes to its end has got an answer to all that it has asked for. -/
theorem answered_runInTime {I : Interface} {α : Type} {P : I.Request → Prop} (h : Host I σ) {p : Program I α}
    (hp : p.AsksOnly P) {s : σ} {a : α} {t : σ × List (Entry I σ)} (hr : p.runInTime h.logged (s, []) = (some a, t)) :
    ∀ e ∈ t.2, P e.request ∧ e.reply.isSome = true := by
  refine Program.of_runInTime_some (Q := fun _ t => ∀ e ∈ t.2, P e.request ∧ e.reply.isSome = true)
    (Program.wp_answered (h := h.logged) ?_ (fun _ _ ht => ht) hp ?_) hr
  · intro r u reply v hr hu heq e he
    obtain ⟨hreply, rfl⟩ := Prod.mk.inj heq
    rcases List.mem_append.1 he with he | he
    · exact hu e he
    · obtain rfl := List.mem_singleton.1 he
      exact ⟨hr, congrArg Option.isSome hreply⟩
  · intro e he
    exact absurd he List.not_mem_nil

/-- What has been asked for when an upload is cut off: all that has been prepared for it has been answered. -/
theorem createLog_of_cut {P Q : Call → Prop} {h : Host Reconciling σ} {tmpDir : String} {spec : Spec} {s t u : σ}
    {p : Prepared} (hready : Program.runInTime h (prepare tmpDir spec) (h.setLimit spec.timeout s) = (some (.ok p), t))
    (hcut : Program.runInTime h (uploadPrepared spec p) t = (none, u)) (hprepare : (prepare tmpDir spec).AsksOnly P)
    (hupload : (uploadPrepared spec p).AsksOnly Q) :
    ∀ e ∈ createLog h tmpDir spec s, P e.call ∧ e.answer.isSome = true ∨ Q e.call := by
  have hready' := Program.runInTime_agrees (logged_agrees h) (prepare tmpDir spec).run (h.setLimit spec.timeout s, [])
  rw [ExceptT.run] at hready'
  rcases hr : Program.runInTime h.logged (prepare tmpDir spec) (h.setLimit spec.timeout s, []) with ⟨r, t', log⟩
  rw [hr] at hready'
  obtain ⟨rfl, rfl⟩ := Prod.mk.inj (hready.symm.trans hready')
  have hfirst := answered_runInTime h hprepare hr
  have hcut' := Program.runInTime_agrees (logged_agrees h) (uploadPrepared spec p).run (t, log)
  have hrest := grown_runInTime h hupload (t, log)
  rw [ExceptT.run] at hrest hcut'
  rcases hu : Program.runInTime h.logged (uploadPrepared spec p) (t, log) with ⟨r, u', log'⟩
  rw [hu] at hrest hcut'
  obtain ⟨rfl, rfl⟩ := Prod.mk.inj (hcut.symm.trans hcut')
  have hplace : Program.runInTime h.logged (place tmpDir spec) (h.logged.setLimit spec.timeout (s, [])) =
      (none, u, log') := by
    rw [place_eq]
    exact (Task.runInTime_bind_ok hr _).trans hu
  have hlog : createLog h tmpDir spec s = log' := congrArg (fun f => f.host.2) (create_of_cut hplace)
  obtain ⟨new, hnew, hQ⟩ := hrest
  rw [hlog, show log' = log ++ new from hnew]
  exact fun e he => (List.mem_append.1 he).imp (hfirst e) (hQ e)

theorem runInTime_uploadPrepared_congr {h k : Host Reconciling σ} {spec : Spec} {p : Prepared}
    (hway : p.kind.transport = .api) {t : σ}
    (hanswer : h.answerInTime (Call.backend (.apiUpload spec.nodeName spec.datastoreId p.upload)) t =
      k.answerInTime (Call.backend (.apiUpload spec.nodeName spec.datastoreId p.upload)) t)
    (hact : h.act = k.act) :
    Program.runInTime h (uploadPrepared spec p) t = Program.runInTime k (uploadPrepared spec p) t := by
  rcases hr : h.answerInTime (Call.backend (.apiUpload spec.nodeName spec.datastoreId p.upload)) t with ⟨r, u⟩
  rw [runInTime_uploadPrepared hway h hr, runInTime_uploadPrepared hway k (hanswer.symm.trans hr), hact]

/-- Creating is the same where its stages are. -/
theorem create_congr {h k : Host Reconciling σ} {tmpDir : String} {spec : Spec} {s : σ}
    (hprepare : Program.runInTime h (prepare tmpDir spec) (h.setLimit spec.timeout s) =
      Program.runInTime k (prepare tmpDir spec) (k.setLimit spec.timeout s))
    (hupload : ∀ p t, Program.runInTime h (prepare tmpDir spec) (h.setLimit spec.timeout s) = (some (.ok p), t) →
      Program.runInTime h (uploadPrepared spec p) t = Program.runInTime k (uploadPrepared spec p) t)
    (hback : ∀ p t, Program.runInTime h (place tmpDir spec) (h.setLimit spec.timeout s) = (some (.ok p), t) →
      Program.runInTime h (readBack spec p) t = Program.runInTime k (readBack spec p) t)
    (hundo : ∀ v t, h.answer (deletion spec v) t = k.answer (deletion spec v) t) :
    create h tmpDir spec s = create k tmpDir spec s := by
  have hplace : Program.runInTime h (place tmpDir spec) (h.setLimit spec.timeout s) =
      Program.runInTime k (place tmpDir spec) (k.setLimit spec.timeout s) := by
    rw [place_eq, Task.runInTime_bind, Task.runInTime_bind, ← hprepare]
    rcases hp : Program.runInTime h (prepare tmpDir spec) (h.setLimit spec.timeout s) with ⟨_ | f | p, t⟩
    · rfl
    · rfl
    · exact hupload p t hp
  have hroll : ∀ p f t, rollBack h spec p f t = rollBack k spec p f t := by
    intro p f t
    unfold rollBack
    rw [show h.answer (Call.backend (.deleteFile spec.nodeName spec.datastoreId p.volume.format)) t = _ from
      hundo p.volume t]
    rfl
  unfold create
  rw [← hplace]
  rcases hp : Program.runInTime h (place tmpDir spec) (h.setLimit spec.timeout s) with ⟨_ | f | p, t⟩
  · rfl
  · rfl
  · dsimp only
    rw [hback p t hp]
    simp only [hroll]

end Reconciler

namespace Cluster

/-- Nothing takes time but the pauses, the limit that the local surroundings set is that of the clock, and there is
patience for a task up to the limit. -/
structure Timed (wire : Host Wire σ) (here : Host Surroundings σ) (patience : σ → Time.Span)
    (clock : σ → Timekeeper) : Prop where
  onWire : wire.KeepsTime clock WireCall.takes
  atHome : here.KeepsTime clock fun _ => some 0
  setLimit : ∀ limit s, clock (here.setLimit limit s) = (clock s).setLimit limit
  patient : ∀ s, (clock s).limit.milliseconds ≤ (patience s).milliseconds

/-- All calls but uploads are questions that take no time. -/
theorem Connection.asksOnly_serve (c : Connection) {call : BackendCall} (hq : Call.isUpload (.backend call) = false)
    (patience : Time.Span) : (c.serve patience call).AsksOnly fun r => WireCall.takes r = some 0 := by
  have hask (q : Inquiry) : (q.ask c.api).AsksOnly fun r => WireCall.takes r = some 0 :=
    q.asksOnly_ask (fun _ => rfl) c.api
  cases call with
  | listFiles node datastore => exact hask (.content node datastore)
  | datastore name => exact hask (.datastore name)
  | release => exact Task.AsksOnly.bind (hask .release) fun text => Task.asksOnly_ofExcept _
  | deleteFile node datastore id => exact hask (.deletion node datastore id)
  | apiUpload node datastore upload => cases hq
  | streamUpload node path upload => cases hq

namespace Timed

variable {wire : Host Wire σ} {here : Host Surroundings σ} {patience : σ → Time.Span} {clock : σ → Timekeeper}
  (ht : Timed wire here patience clock) (c : Connection) {call : Call} {s t : σ}

include ht

/-- A log of the wire does not take time. -/
theorem traced : Timed wire.logged (here.zoom Prod.fst fun t s => (s, t.2))
    (fun t : σ × List (Entry Wire σ) => patience t.1) fun t => clock t.1 where
  onWire := ht.onWire.logged
  atHome :=
    { clock_answer := fun r ms t hr => ht.atHome.clock_answer r ms t.1 hr
      answer_eq := fun r ms t reply u hr heq => by
        obtain ⟨hreply, rfl⟩ := Prod.mk.inj heq
        have hanswer := ht.atHome.answer_eq r ms t.1 reply (here.answerInTime r t.1).2 hr (Prod.ext hreply rfl)
        simp only [Host.zoom, hanswer]
      early := fun r ms t hr => ht.atHome.early r ms t.1 hr
      late := fun r ms t hr => ht.atHome.late r ms t.1 hr
      act := fun d t => ht.atHome.act d t.1 }
  setLimit limit t := ht.setLimit limit t.1
  patient t := ht.patient t.1

theorem clock_answer (hq : call.isUpload = false) (s : σ) :
    clock ((Host.join (c.host wire patience) here).answer call s).2 = clock s := by
  cases call with
  | here call => exact ht.atHome.clock_answer call 0 s rfl
  | backend call => exact ht.onWire.clock_run (c.asksOnly_serve hq (patience s)) s

theorem clock_answered (hq : call.isUpload = false) {reply : call.Reply}
    (hr : (Host.join (c.host wire patience) here).answerInTime call s = (some reply, t)) : clock t = clock s := by
  cases call with
  | here call =>
    have hclock := ht.atHome.clock_answer call 0 s rfl
    rw [ht.atHome.answer_eq call 0 s reply t rfl hr] at hclock
    exact hclock
  | backend call =>
    have htimed : (c.serve (patience s) call).AsksOnly fun r => (WireCall.takes r).isSome = true :=
      (c.asksOnly_serve hq (patience s)).mono fun r hr => by rw [hr]; rfl
    have hrun := ht.onWire.run_of_runInTime htimed hr
    have hclock := ht.onWire.clock_run (c.asksOnly_serve hq (patience s)) s
    rw [hrun] at hclock
    exact hclock

/-- All calls but uploads are answered before the limit as they are without one. -/
theorem punctual : (Host.join (c.host wire patience) here).Punctual clock fun call => call.isUpload = false where
  onward call s hq := ⟨0, ht.clock_answer c hq s⟩
  early call s hq hearly := by
    rw [ht.clock_answer c hq] at hearly
    cases call with
    | here call =>
      have htakes : (fun _ : LocalCall => some 0) call = some 0 := rfl
      exact ht.atHome.answerInTime_eq htakes hearly
    | backend call =>
      have htimed : (c.serve (patience s) call).AsksOnly fun r => (WireCall.takes r).isSome = true :=
        (c.asksOnly_serve hq (patience s)).mono fun r hr => by rw [hr]; rfl
      refine ht.onWire.punctual.runInTime_eq htimed ?_
      rwa [ht.onWire.clock_run (c.asksOnly_serve hq (patience s)) s]
  act d s := ht.atHome.act d s

theorem clock_run {α : Type} {p : Program Reconciling α} (hp : p.AsksOnly fun call => Call.isUpload call = false)
    (s : σ) : clock (p.run (Host.join (c.host wire patience) here) s).2 = clock s := by
  have hkeeps := Program.runInTime_keeps (h := (Host.join (c.host wire patience) here).patient) (v := clock)
    (fun call s hq => ht.clock_answer c hq s) (fun d s => ht.atHome.act d s) hp s
  rwa [Program.runInTime_patient] at hkeeps

theorem runInTime_eq {α : Type} {p : Program Reconciling α} (hp : p.AsksOnly fun call => Call.isUpload call = false)
    (hearly : (clock s).IsEarly) : p.runInTime (Host.join (c.host wire patience) here) s =
      (some (p.run (Host.join (c.host wire patience) here) s).1,
        (p.run (Host.join (c.host wire patience) here) s).2) := by
  refine (ht.punctual c).runInTime_eq hp ?_
  rwa [ht.clock_run c hp s]

end Timed

/-! ## What is asked within the limit -/

section
variable {wire : Host Wire σ} {here : Host Surroundings σ} {patience : σ → Time.Span} {clock : σ → Timekeeper}
  {c : Connection} {call : Call} {most : Nat} {t : σ × List (Entry Wire σ)}

/-- Only an upload through the web service asks how a task does. -/
theorem asked_answerInTime (hcall : call.isApiUpload = false) (hl : Asked c.api most t.2) :
    Asked c.api most ((c.traced wire here patience).answerInTime call t).2.2 := by
  cases call with
  | here call => exact hl
  | backend call =>
    obtain ⟨qs, hqs, hcount⟩ := hl
    have hother : ∀ node datastore upload, call ≠ .apiUpload node datastore upload := by
      rintro node datastore upload rfl
      cases hcall
    have hled : (c.serve (patience t.1) call).Leads wire.logged _ t := leads_serve c (patience t.1) hother hqs
    refine ⟨qs ++ call.inquiry?.toList, List.map_append ▸ hled.host fun _ _ hu => hu, ?_⟩
    have hno : call.inquiry?.toList.countP Inquiry.isTask = 0 := by cases call <;> rfl
    rw [List.countP_append, hno]
    exact hcount

theorem asked_deletion (spec : Spec) (v : VolumeId) (hl : Asked c.api most t.2) :
    Asked c.api most ((c.traced wire here patience).answer (deletion spec v) t).2.2 := by
  obtain ⟨qs, hqs, hcount⟩ := hl
  obtain ⟨now, hnow, hask⟩ :=
    (Inquiry.deletion spec.nodeName spec.datastoreId v.format).run_ask_logged c.api wire hqs t.1
  have hlog : ((c.traced wire here patience).answer (deletion spec v) t).2.2 = now :=
    congrArg (fun r => r.2.2) hask
  refine ⟨qs ++ [.deletion spec.nodeName spec.datastoreId v.format], ?_, ?_⟩
  · rw [hlog, List.map_append]
    exact hnow
  · rw [List.countP_append]
    exact hcount

/-- What does not upload through the web service does not ask how a task does. -/
theorem leads_asked {α : Type} {task : Task Reconciling α} (htask : task.AsksOnly fun call => Call.isApiUpload call = false)
    (hl : Asked c.api most t.2) : task.Leads (c.traced wire here patience) (fun u => Asked c.api most u.2) t :=
  Task.leads_of_asksOnly (fun u : σ × List (Entry Wire σ) => Asked c.api most u.2)
    (fun _ _ hcall hu => asked_answerInTime hcall hu) (fun _ _ hu => hu) htask hl

variable (ht : Timed wire here patience clock)

include ht

/-- A deadline that is some seconds ahead leaves time for that many looks and one more, and those are all that
creating takes. -/
theorem leads_uploadPrepared (spec : Spec) (p : Prepared) (hl : Asked c.api 0 t.2) {d n : Nat}
    (hd : (clock t.1).deadline = some d) (hn : d ≤ (clock t.1).now + n * 1000) :
    (uploadPrepared spec p).Leads (c.traced wire here patience) (fun u => Asked c.api (n + 1) u.2) t := by
  cases hway : p.kind.transport with
  | api =>
    have hled := leads_upload_inTime ht.onWire c.api spec.nodeName spec.datastoreId p.upload (patience t.1) hl hd hn
    have hend : Asked c.api (n + 1) ((c.traced wire here patience).answerInTime
        (.backend (.apiUpload spec.nodeName spec.datastoreId p.upload)) t).2.2 := hled.host fun _ _ hu => hu
    have hcall : (Reconciling.apiUpload spec.nodeName spec.datastoreId p.upload).Leads (c.traced wire here patience)
        (fun u => Asked c.api (n + 1) u.2) t := by
      refine (Reconciling.wp_call (.apiUpload spec.nodeName spec.datastoreId p.upload)).2
        ⟨fun a u hu => ?_, fun f u hu => ?_, fun u hu => ?_⟩ <;>
      · rw [hu] at hend
        exact hend
    have hupload : (Placement.uploadViaApi ⟨spec.nodeName, spec.datastoreId, p.kind⟩ p.artifact p.plan.mode).Leads
        (c.traced wire here patience) (fun u => Asked c.api (n + 1) u.2) t :=
      Task.wp_bind.2 (Task.wp_mono hcall (fun _ _ hu => hu) (fun _ _ hu => hu) fun _ hu => hu)
    have hguarded := hupload.guarded (fun _ _ hu => hu) p.artifact.deeds
    unfold uploadPrepared Placement.upload
    rw [hway]
    exact Task.wp_bind.2 (Task.wp_mono hguarded (fun _ _ hu => hu) (fun _ _ hu => hu) fun _ hu => hu)
  | stream => exact leads_asked (asksOnly_uploadPrepared_stream hway) (hl.mono (Nat.zero_le _))

theorem leads_place (c : Connection) (tmpDir : String) (spec : Spec) (s : σ) :
    (place tmpDir spec).Leads (c.traced wire here patience)
      (fun u => Asked c.api (spec.timeoutUpload.toNat + 1) u.2) (here.setLimit spec.timeout s, []) := by
  have hquiet : (prepare tmpDir spec).AsksOnly Call.Quiet := (asksOnly_prepare tmpDir spec).mono fun _ hr => hr.quiet
  have hasked : (prepare tmpDir spec).Leads (c.traced wire here patience) (fun u => Asked c.api 0 u.2)
      (here.setLimit spec.timeout s, []) :=
    leads_asked (hquiet.mono fun _ => Call.isApiUpload_of_quiet) ⟨[], .nil, Nat.le_refl 0⟩
  have hclock : (prepare tmpDir spec).wp (c.traced wire here patience)
      (fun _ u => clock u.1 = (clock s).setLimit spec.timeout) (fun _ _ => True) (fun _ => True)
      (here.setLimit spec.timeout s, []) :=
    Task.wp_answered (fun r u reply v hr hu heq => (ht.traced.clock_answered c hr.1 heq).trans hu)
      (fun d u hu => (ht.atHome.act d u.1).trans hu) hquiet (ht.setLimit spec.timeout s)
  rw [place_eq]
  refine Task.wp_bind.2 (Task.wp_mono (Task.wp_and hasked hclock) (fun p u hu => ?_)
    (fun _ u hu => hu.1.mono (Nat.zero_le _)) fun u hu => hu.1.mono (Nat.zero_le _))
  obtain ⟨hl, hnow⟩ := hu
  have hd : (clock u.1).deadline = some ((clock s).now + spec.timeout.milliseconds) := by rw [hnow]; rfl
  refine leads_uploadPrepared ht spec p hl hd ?_
  rw [hnow]
  exact Nat.le_refl _

/-- **However the cluster answers**, creating asks it at most once more than there are seconds how a task does. -/
theorem asked_create (c : Connection) (tmpDir : String) (spec : Spec) (s : σ) :
    Asked c.api (spec.timeoutUpload.toNat + 1) (create (c.traced wire here patience) tmpDir spec (s, [])).host.2 := by
  have hback : ∀ (p : Placed) (u : σ × List (Entry Wire σ)), Asked c.api (spec.timeoutUpload.toNat + 1) u.2 →
      (readBack spec p).Leads (c.traced wire here patience)
        (fun u => Asked c.api (spec.timeoutUpload.toNat + 1) u.2) u := fun p u hu =>
    leads_asked ((asksOnly_readBack spec p).mono fun _ hr => Call.isApiUpload_of_quiet hr.quiet) hu
  have hconcludes := create_concludes (c.traced wire here patience) tmpDir spec (s, [])
    (leads_place ht c tmpDir spec s) hback (fun _ _ _ hu => hu) fun _ _ _ _ hu => hu
  generalize create (c.traced wire here patience) tmpDir spec (s, []) = finished at hconcludes
  cases hconcludes with
  | unplaced hu => exact hu
  | @undone p f u hu =>
    rw [rollBack_host]
    exact asked_deletion spec p.volume hu
  | created hu => exact hu

end

/-! ## What the limit makes of creating -/

section
variable (c : Connection) (wire : Host Wire σ) (here : Host Surroundings σ) (patience : σ → Time.Span)

/-- All before the polling succeeds: something has been made ready for the web service, which takes it and begins a
task. -/
structure Begins (tmpDir : String) (spec : Spec) (s : σ) (p : Prepared) (t : σ) (form : Http.Form) (task : String)
    (u : σ) : Prop where
  prepared : Program.run (Host.join (c.host wire patience) here) (prepare tmpDir spec)
    (here.setLimit spec.timeout s) = (.ok p, t)
  way : p.kind.transport = .api
  submits : Submits wire c.api spec.nodeName spec.datastoreId p.upload t form task u

end

section
variable {wire : Host Wire σ} {here : Host Surroundings σ} {patience : σ → Time.Span} {clock : σ → Timekeeper}
  (ht : Timed wire here patience clock) {c : Connection} {tmpDir : String} {spec : Spec} {s t u : σ} {p : Prepared}
  {form : Http.Form} {task : String}

include ht

theorem isEarly_setLimit (hT : 0 < spec.timeoutUpload.toNat) : (clock (here.setLimit spec.timeout s)).IsEarly := by
  rw [ht.setLimit]
  intro d hd
  obtain rfl := Option.some.inj hd
  change (clock s).now < (clock s).now + spec.timeoutUpload.toNat * 1000
  omega

theorem clock_prepare (c : Connection) (tmpDir : String) (spec : Spec) (s : σ) :
    clock (Program.run (Host.join (c.host wire patience) here) (prepare tmpDir spec)
      (here.setLimit spec.timeout s)).2 = (clock s).setLimit spec.timeout :=
  (ht.clock_run c ((asksOnly_prepare tmpDir spec).mono fun _ hr => hr.quiet.1) _).trans (ht.setLimit spec.timeout s)

/-- Preparing is over before the limit. -/
theorem runInTime_prepare (hT : 0 < spec.timeoutUpload.toNat) (c : Connection) (tmpDir : String) (s : σ) :
    Program.runInTime (Host.join (c.host wire patience) here) (prepare tmpDir spec) (here.setLimit spec.timeout s) =
      (some (Program.run (Host.join (c.host wire patience) here) (prepare tmpDir spec) (here.setLimit spec.timeout s)).1,
        (Program.run (Host.join (c.host wire patience) here) (prepare tmpDir spec) (here.setLimit spec.timeout s)).2) :=
  ht.runInTime_eq c ((asksOnly_prepare tmpDir spec).mono fun _ hr => hr.quiet.1) (isEarly_setLimit ht hT)

theorem Begins.clock_eq (hb : Begins c wire here patience tmpDir spec s p t form task u) :
    clock t = (clock s).setLimit spec.timeout := by
  have hclock := clock_prepare ht c tmpDir spec s
  rw [hb.prepared] at hclock
  exact hclock

theorem Begins.runInTime_place (hb : Begins c wire here patience tmpDir spec s p t form task u)
    (hT : 0 < spec.timeoutUpload.toNat) :
    Program.runInTime (Host.join (c.host wire patience) here) (place tmpDir spec) (here.setLimit spec.timeout s) =
      Program.runInTime (Host.join (c.host wire patience) here) (uploadPrepared spec p) t := by
  have hprepare := runInTime_prepare ht hT c tmpDir s
  rw [hb.prepared] at hprepare
  rw [place_eq, Task.runInTime_bind_ok hprepare]

/-- There is patience for one look more than there are seconds. -/
theorem looksWithin_patience (hclock : clock t = (clock s).setLimit spec.timeout) :
    spec.timeoutUpload.toNat + 1 ≤ Api.looksWithin (patience t) := by
  have hpatient := ht.patient t
  rw [hclock] at hpatient
  change spec.timeoutUpload.toNat * 1000 ≤ (patience t).milliseconds at hpatient
  unfold Api.looksWithin
  omega

/-- Where the task is still running at the limit, placing is cut off. -/
theorem place_of_running (hT : 0 < spec.timeoutUpload.toNat)
    (hb : Begins c wire here patience tmpDir spec s p t form task u)
    (hr : RunsFor wire c.api spec.nodeName task (spec.timeoutUpload.toNat + 1) u) : ∃ v,
    Program.runInTime (Host.join (c.host wire patience) here) (place tmpDir spec) (here.setLimit spec.timeout s) =
      (none, v) := by
  have hclock := hb.clock_eq ht
  have hd : (clock t).deadline = some ((clock s).now + spec.timeoutUpload.toNat * 1000) := by rw [hclock]; rfl
  have hnow : (clock t).now = (clock s).now := by rw [hclock]; rfl
  have hcut := runInTime_upload_cut ht.onWire hd (by omega) hb.submits hr (by omega) (looksWithin_patience ht hclock)
  have hanswer : (Host.join (c.host wire patience) here).answerInTime
      (Call.backend (.apiUpload spec.nodeName spec.datastoreId p.upload)) t = (none, _) := Prod.ext hcut rfl
  rw [hb.runInTime_place ht hT, runInTime_uploadPrepared hb.way _ hanswer]
  exact ⟨_, rfl⟩

/-- **A task that is still running at the limit** makes creating fail for want of time. -/
theorem create_of_running (hT : 0 < spec.timeoutUpload.toNat)
    (hb : Begins c wire here patience tmpDir spec s p t form task u)
    (hr : RunsFor wire c.api spec.nodeName task (spec.timeoutUpload.toNat + 1) u) :
    (create (Host.join (c.host wire patience) here) tmpDir spec s).result = .error (.timeout spec.timeout) ∧
      (create (Host.join (c.host wire patience) here) tmpDir spec s).events =
        [.uploadFailed spec.nodeName (nameOrEmpty spec) (Fault.timeout spec.timeout).message] := by
  obtain ⟨v, hplace⟩ := place_of_running ht hT hb hr
  have hcreate := create_of_cut hplace
  rw [hcreate]
  exact ⟨rfl, rfl⟩

/-- On the way there, nothing is streamed, and no temporary file is waited for in vain. -/
theorem log_of_running (hT : 0 < spec.timeoutUpload.toNat)
    (hb : Begins c wire here patience tmpDir spec s p t form task u)
    (hr : RunsFor wire c.api spec.nodeName task (spec.timeoutUpload.toNat + 1) u) :
    ∀ e ∈ createLog (Host.join (c.host wire patience) here) tmpDir spec s,
      e.call.isStreamUpload = false ∧ e.abandons = false := by
  obtain ⟨v, hplace⟩ := place_of_running ht hT hb hr
  have hprepare := runInTime_prepare ht hT c tmpDir s
  rw [hb.prepared] at hprepare
  rw [hb.runInTime_place ht hT] at hplace
  intro e he
  rcases createLog_of_cut hprepare hplace (asksOnly_prepare tmpDir spec) (asksOnly_uploadPrepared_api hb.way) e he with
    ⟨hcall, hanswered⟩ | hupload
  · exact ⟨Call.isStreamUpload_of_quiet hcall.quiet, Entry.abandons_of_answer hanswered⟩
  · obtain ⟨hplain, hstream⟩ := Call.of_isApiUpload hupload
    exact ⟨hstream, congrArg Option.isSome (hplain.unanswered _)⟩

theorem clock_acts (ds : List LocalDeed) (v : σ) :
    clock (ds.foldl (fun s d => here.act d s) v) = clock v := by
  induction ds generalizing v with
  | nil => rfl
  | cons d ds ih => exact (ih (here.act d v)).trans (ht.atHome.act d v)

end

section
variable {wire : Host Wire σ} {here : Host Surroundings σ} {c : Connection}

/-- How long there is patience for a task matters to uploads through the web service only. -/
theorem answer_of_patience (patience patience' : σ → Time.Span) {call : Call} (hcall : call.isApiUpload = false) (s : σ) :
    (Host.join (c.host wire patience) here).answer call s = (Host.join (c.host wire patience') here).answer call s ∧
      (Host.join (c.host wire patience) here).answerInTime call s =
        (Host.join (c.host wire patience') here).answerInTime call s := by
  cases call with
  | here call => exact ⟨rfl, rfl⟩
  | backend call =>
    have hserve : c.serve (patience s) call = c.serve (patience' s) call := by
      cases call with
      | apiUpload node datastore upload => cases hcall
      | _ => rfl
    exact ⟨congrArg (fun q => Program.run wire q s) hserve, congrArg (fun q => Program.runInTime wire q s) hserve⟩

theorem run_of_patience (patience patience' : σ → Time.Span) {α : Type} {p : Program Reconciling α}
    (hp : p.AsksOnly fun call => Call.isApiUpload call = false) (s : σ) :
    p.run (Host.join (c.host wire patience) here) s = p.run (Host.join (c.host wire patience') here) s ∧
      p.runInTime (Host.join (c.host wire patience) here) s =
        p.runInTime (Host.join (c.host wire patience') here) s := by
  have hact : ∀ d t, (Host.join (c.host wire patience) here).act d t =
      (Host.join (c.host wire patience') here).act d t := by
    simp only [Host.act_join, implies_true]
  constructor
  · exact Program.run_congr (fun _ t hc => (answer_of_patience patience patience' hc t).1) hact hp s
  · exact Program.runInTime_congr (fun _ t hc => (answer_of_patience patience patience' hc t).2) hact hp s

end

section
variable {wire : Host Wire σ} {here : Host Surroundings σ} {patience patience' : σ → Time.Span} {clock : σ → Timekeeper}
  (ht : Timed wire here patience clock) {c : Connection} {tmpDir : String} {spec : Spec} {s t u : σ} {p : Prepared}
  {form : Http.Form} {task : String}

include ht

/-- Questions that are answered before the limit are answered as if there were none, and nobody's patience matters. -/
theorem Timed.runInTime_eq_patient (c : Connection) (patience' : σ → Time.Span) {α : Type} {q : Program Reconciling α}
    (hq : q.AsksOnly Call.Quiet) (hearly : (clock s).IsEarly) :
    q.runInTime (Host.join (c.host wire patience) here) s =
      q.runInTime (Host.join (c.host wire patience') here).patient s := by
  rw [ht.runInTime_eq c (hq.mono fun _ hc => hc.1) hearly, Program.runInTime_patient,
    (run_of_patience patience patience' (hq.mono fun _ => Call.isApiUpload_of_quiet) s).1]

/-- **A task that stops before the limit** makes creating what it is without a limit, for whoever waits long
enough. -/
theorem create_of_stopped {n : Nat} (hn : n < spec.timeoutUpload.toNat)
    (hb : Begins c wire here patience tmpDir spec s p t form task u)
    (hr : RunsFor wire c.api spec.nodeName task n u) {r : Except Fault Unit}
    (hd : Decides spec.nodeName task (look wire c.api spec.nodeName task n u) r) {enough : Time.Span}
    (henough : n < Api.looksWithin enough) :
    create (Host.join (c.host wire patience) here) tmpDir spec s =
      create (Host.join (c.host wire fun _ => enough) here).patient tmpDir spec s := by
  have hT : 0 < spec.timeoutUpload.toNat := by omega
  have hclock := hb.clock_eq ht
  have hearly : ((clock t).pass (n * 1000)).IsEarly := by
    rw [hclock]
    intro d hd
    obtain rfl := Option.some.inj hd
    change (clock s).now + n * 1000 < (clock s).now + spec.timeoutUpload.toNat * 1000
    omega
  obtain ⟨v, hv, hupload⟩ := runInTime_upload_stopped ht.onWire hearly hb.submits hr hd
  have hlooks : n < Api.looksWithin (patience t) := by
    have hmany := looksWithin_patience ht hclock
    omega
  have hready := runInTime_prepare ht hT c tmpDir s
  rw [hb.prepared] at hready
  have hanswer : (Host.join (c.host wire patience) here).answerInTime
      (Call.backend (.apiUpload spec.nodeName spec.datastoreId p.upload)) t = (some r, v) :=
    (hupload (patience t) hlooks).2
  have hanswer' : (Host.join (c.host wire fun _ => enough) here).patient.answerInTime
      (Call.backend (.apiUpload spec.nodeName spec.datastoreId p.upload)) t = (some r, v) :=
    congrArg (fun answered : Except Fault Unit × σ => (some answered.1, answered.2)) (hupload enough henough).1
  refine create_congr ?_ (fun p' t' hp' => ?_) (fun p' t' hp' => ?_) fun v t => ?_
  · exact ht.runInTime_eq_patient c _ ((asksOnly_prepare tmpDir spec).mono fun _ hr => hr.quiet) (isEarly_setLimit ht hT)
  · obtain ⟨heq, rfl⟩ := Prod.mk.inj (hready.symm.trans hp')
    cases heq
    exact runInTime_uploadPrepared_congr hb.way (hanswer.trans hanswer'.symm) rfl
  · have hplace := (hb.runInTime_place ht hT).trans (runInTime_uploadPrepared hb.way _ hanswer)
    obtain ⟨-, rfl⟩ := Prod.mk.inj (hplace.symm.trans hp')
    refine ht.runInTime_eq_patient c _ ((asksOnly_readBack spec p').mono fun _ hr => hr.quiet) ?_
    have hacts := clock_acts ht p.artifact.deeds v
    rw [← hv, ← hacts] at hearly
    exact hearly
  · exact (answer_of_patience patience (fun _ => enough) rfl t).1

theorem runInTime_uploadPrepared_of_patience (ht' : Timed wire here patience' clock)
    (hT : 0 < spec.timeoutUpload.toNat) (hclock : clock t = (clock s).setLimit spec.timeout) (c : Connection) :
    Program.runInTime (Host.join (c.host wire patience) here) (uploadPrepared spec p) t =
      Program.runInTime (Host.join (c.host wire patience') here) (uploadPrepared spec p) t := by
  cases hway : p.kind.transport with
  | api =>
    have hd : (clock t).deadline = some ((clock s).now + spec.timeoutUpload.toNat * 1000) := by rw [hclock]; rfl
    have hnow : (clock t).now = (clock s).now := by rw [hclock]; rfl
    have hmany := looksWithin_patience ht hclock
    have hmany' := looksWithin_patience ht' hclock
    have hanswer : (Host.join (c.host wire patience) here).answerInTime
        (Call.backend (.apiUpload spec.nodeName spec.datastoreId p.upload)) t =
          (Host.join (c.host wire patience') here).answerInTime
            (Call.backend (.apiUpload spec.nodeName spec.datastoreId p.upload)) t :=
      runInTime_upload_congr ht.onWire hd (by omega) (by omega) (by omega)
    exact runInTime_uploadPrepared_congr hway hanswer ((Host.act_join _ here).trans (Host.act_join _ here).symm)
  | stream => exact (run_of_patience patience patience' (asksOnly_uploadPrepared_stream hway) t).2

/-- **How long there is patience for a task** does not matter, as long as there is up to the limit. -/
theorem create_of_patience (ht' : Timed wire here patience' clock) (hT : 0 < spec.timeoutUpload.toNat) (c : Connection)
    (tmpDir : String) (s : σ) :
    create (Host.join (c.host wire patience) here) tmpDir spec s =
      create (Host.join (c.host wire patience') here) tmpDir spec s := by
  have hprepare := (asksOnly_prepare tmpDir spec).mono fun _ hr => Call.isApiUpload_of_quiet hr.quiet
  refine create_congr (run_of_patience patience patience' hprepare _).2 (fun p t hp => ?_) (fun p t hp => ?_)
    fun v t => (answer_of_patience patience patience' rfl t).1
  · have hready := (runInTime_prepare ht hT c tmpDir s).symm.trans hp
    obtain ⟨-, rfl⟩ := Prod.mk.inj hready
    exact runInTime_uploadPrepared_of_patience ht ht' hT (clock_prepare ht c tmpDir spec s) c
  · exact (run_of_patience patience patience'
      ((asksOnly_readBack spec p).mono fun _ hr => Call.isApiUpload_of_quiet hr.quiet) t).2

/-- A cut-off upload leaves the local files as they were, where the names of temporary files are new. -/
theorem files_of_running (hT : 0 < spec.timeoutUpload.toNat)
    (hb : Begins c wire here patience tmpDir spec s p t form task u)
    (hr : RunsFor wire c.api spec.nodeName task (spec.timeoutUpload.toNat + 1) u) {tree : σ → FileTree}
    (hk : KeepsTree (Host.join (c.host wire patience) here) tree)
    (hwire : ∀ r v, WireCall.isClient r = false →
      tree (wire.answer r v).2 = tree v ∧ tree (wire.answerInTime r v).2 = tree v)
    (hact : ∀ d v, tree (wire.act d v) = tree v) {loc : Location}
    (hnew : ∀ e ∈ createLog (Host.join (c.host wire patience) here) tmpDir spec s, ∀ path ∈ e.call.made e.answer,
      (tree e.before).goal path = loc → (tree e.before).file? loc = none) :
    (tree (create (Host.join (c.host wire patience) here) tmpDir spec s).host).file? loc = (tree s).file? loc := by
  have hlog := log_of_running ht hT hb hr
  refine (tidied_create hk tmpDir spec s).unchanged (fun e he => (hlog e he).2) loc fun e he =>
    ⟨fun hbackend => ?_, hnew e he⟩
  have hstream := (hlog e he).1
  have hg := genuine_createLog _ tmpDir spec s e he
  refine congrArg (FileTree.file? · loc) ?_
  obtain ⟨call, reply, before, after⟩ := e
  cases call with
  | here call => cases hbackend
  | backend call =>
    have hcall : ∀ node path upload, call ≠ .streamUpload node path upload := by
      rintro node path upload rfl
      cases hstream
    obtain ⟨hanswer, hanswerInTime⟩ := c.host_keeps hwire hact patience hcall before
    rcases hg with hg | hg <;> rw [hg]
    · exact hanswerInTime
    · exact hanswer

end

end Cluster

/-! ## One machine -/

namespace World

open Cluster

theorem timed : Timed wire surroundings (fun w => w.time.limit) time where
  onWire := keepsTime_wire
  atHome := keepsTime_surroundings
  setLimit _ _ := rfl
  patient _ := Nat.le_refl _

theorem tree_wire {r : WireCall} (hr : r.isClient = false) (w : World) :
    (wire.answer r w).2.tree = w.tree ∧ (wire.answerInTime r w).2.tree = w.tree := by
  cases r with
  | startClient command => cases hr
  | feedClient command file => cases hr
  | pause => exact ⟨rfl, rfl⟩
  | _ =>
    refine ⟨rfl, ?_⟩
    unfold wire
    dsimp only
    split <;> rfl

/-- A connection without a client program. -/
def clientless : Connection := ⟨.sample, ⟨[], "root", 22, none, .empty⟩⟩

/-- A machine that reaches a cluster without a client program. -/
def reconciling : Host Reconciling World := Host.join (clientless.host wire fun w => w.time.limit) surroundings

/-- Without a client program, no call touches the files. -/
theorem keepsTree_reconciling : KeepsTree reconciling tree := by
  have hkeeps : ∀ (call : BackendCall) (w : World),
      ((clientless.host wire fun w => w.time.limit).answer call w).2.tree = w.tree ∧
        ((clientless.host wire fun w => w.time.limit).answerInTime call w).2.tree = w.tree := by
    intro call w
    by_cases hstream : ∃ node path upload, call = .streamUpload node path upload
    · obtain ⟨node, path, upload, rfl⟩ := hstream
      exact ⟨rfl, rfl⟩
    · exact clientless.host_keeps (fun r w hr => tree_wire hr w) (fun _ _ => rfl) _
        (fun node path upload heq => hstream ⟨node, path, upload, heq⟩) w
  exact keepsTree_join (clientless.host wire fun w => w.time.limit) keptBy_surroundings id (fun _ w => w) (fun _ _ => rfl)
    (fun call w => (hkeeps call w).1.symm ▸ .refl _) fun call w => (hkeeps call w).2.symm ▸ .refl _

/-- A web server that takes an upload and has its task run on. -/
def busy : World :=
  let answer (body : String) : Option Http.Response := some ⟨200, [], ⟨[body.toUTF8], true⟩⟩
  let running := answer "\x7b\"data\":\x7b\"status\":\"running\"\x7d\x7d"
  { ofTree .empty with network := ⟨some "10.0.0.1:8006",
      [answer "\x7b\"data\":[]\x7d", answer "\x7b\"data\":\"UPID:1\"\x7d", running, running], []⟩ }

/-- An image for which there is one second. -/
def urgent : Spec := ⟨"pve", "local", some "iso", none, some ⟨"data", "debian.iso", 0⟩, none, true, 1⟩

/-- What is uploaded of it. -/
def image : Upload := ⟨"iso", "debian.iso", "tmp/raw-00000000-0000-4000-8000-000000000000.tmp", none⟩

/-- The machine when the image has been made ready. -/
def ready : World := (Program.run reconciling (prepare "tmp" urgent) (surroundings.setLimit urgent.timeout busy)).2

/-- The form that is sent. -/
def imageForm : Http.Form := Api.uploadForm image "data".toUTF8

/-- The machine when the task has begun. -/
def begun : World := (Inquiry.upload "pve" "local" imageForm).after wire Api.sample (afterOpening wire image ready)

theorem prepared_urgent : ∃ p,
    Program.run reconciling (prepare "tmp" urgent) (surroundings.setLimit urgent.timeout busy) = (.ok p, ready) ∧
      p.kind.transport = .api ∧ p.upload = image := by
  have hready : (match (Program.run reconciling (prepare "tmp" urgent) (surroundings.setLimit urgent.timeout busy)).1 with
      | .ok p => decide (p.kind.transport = .api ∧ p.upload = image)
      | .error _ => false) = true := by decide +kernel
  unfold ready
  split at hready
  · rename_i p hp
    exact ⟨p, Prod.ext hp rfl, of_decide_eq_true hready⟩
  · cases hready

theorem submits_urgent : Submits wire Api.sample "pve" "local" image ready imageForm "UPID:1" begun := by
  have hfile : ((opening wire image ready).toOption.bind fun file => file.content.toOption) = some "data".toUTF8 := by
    decide +kernel
  have htask : @Except.toOption Fault String ((Inquiry.upload "pve" "local" imageForm).settle
      (posted wire Api.sample "pve" "local" image ready imageForm)) = some "UPID:1" := by decide +kernel
  obtain ⟨file, hopen, hbytes⟩ := Option.bind_eq_some_iff.1 hfile
  exact ⟨⟨file, _, eq_ok_of_toOption hopen, eq_ok_of_toOption hbytes, rfl⟩,
    Inquiry.settle_eq_ok_iff.1 (eq_ok_of_toOption htask), rfl⟩

theorem runsFor_urgent : RunsFor wire Api.sample "pve" "UPID:1" 2 begun := by
  have hlook : ∀ i < 2, @Except.toOption Fault TaskStatus ((Inquiry.task "pve" "UPID:1").settle
      (look wire Api.sample "pve" "UPID:1" i begun)) = some ⟨"running", none⟩ := by decide +kernel
  intro i hi
  exact ⟨⟨"running", none⟩, Inquiry.settle_eq_ok_iff.1 (eq_ok_of_toOption (hlook i hi)), by decide⟩

theorem all_isNew_urgent : ((createLog reconciling "tmp" urgent busy).all fun e => (e.call.made e.answer).all fun path =>
    (e.before.tree.file? (e.before.tree.goal path)).isNone) = true := by decide +kernel

end World

namespace Cluster

/-! ## The limit of creating -/

/-- **Creating keeps within its limit**, where nothing takes time but the pauses between two looks at a task. However
the cluster answers, it is asked at most once more than there are seconds how a task does, and how long there would be
patience beyond the limit does not matter. A task that all those looks find running makes creating fail for want of
just that time, with one event and with the local files as they were, where the names of temporary files were new. A
task that stops before makes creating what it is without any limit, for whoever waits long enough. -/
theorem create_keeps_its_limit {wire : Host Wire σ} {here : Host Surroundings σ} {patience : σ → Time.Span}
    {clock : σ → Timekeeper} (ht : Timed wire here patience clock) (c : Connection) (tmpDir : String) (spec : Spec)
    (s : σ) (hT : 1 ≤ spec.timeoutUpload.toNat) :
    Asked c.api (spec.timeoutUpload.toNat + 1) (create (c.traced wire here patience) tmpDir spec (s, [])).host.2 ∧
      (∀ patience', Timed wire here patience' clock →
        create (Host.join (c.host wire patience') here) tmpDir spec s =
          create (Host.join (c.host wire patience) here) tmpDir spec s) ∧
      (∀ p t form task u, Begins c wire here patience tmpDir spec s p t form task u →
        RunsFor wire c.api spec.nodeName task (spec.timeoutUpload.toNat + 1) u →
        (create (Host.join (c.host wire patience) here) tmpDir spec s).result =
            .error (.timeout (.ofSeconds spec.timeoutUpload.toNat)) ∧
          (create (Host.join (c.host wire patience) here) tmpDir spec s).events =
            [.uploadFailed spec.nodeName (nameOrEmpty spec)
              (Fault.timeout (.ofSeconds spec.timeoutUpload.toNat)).message] ∧
          ∀ tree : σ → FileTree, KeepsTree (Host.join (c.host wire patience) here) tree →
            (∀ r v, WireCall.isClient r = false →
              tree (wire.answer r v).2 = tree v ∧ tree (wire.answerInTime r v).2 = tree v) →
            (∀ d v, tree (wire.act d v) = tree v) →
            ∀ loc, (∀ e ∈ createLog (Host.join (c.host wire patience) here) tmpDir spec s,
                ∀ path ∈ e.call.made e.answer,
                  (tree e.before).goal path = loc → (tree e.before).file? loc = none) →
              (tree (create (Host.join (c.host wire patience) here) tmpDir spec s).host).file? loc =
                (tree s).file? loc) ∧
      ∀ p t form task u, Begins c wire here patience tmpDir spec s p t form task u →
        ∀ n < spec.timeoutUpload.toNat, RunsFor wire c.api spec.nodeName task n u →
          ∀ r, Decides spec.nodeName task (look wire c.api spec.nodeName task n u) r →
            ∀ enough : Time.Span, n < Api.looksWithin enough →
              create (Host.join (c.host wire patience) here) tmpDir spec s =
                create (Host.join (c.host wire fun _ => enough) here).patient tmpDir spec s := by
  refine ⟨asked_create ht c tmpDir spec s, fun patience' ht' => ?_, fun p t form task u hb hr => ?_, ?_⟩
  · exact create_of_patience ht' ht hT c tmpDir s
  · obtain ⟨hresult, hevents⟩ := create_of_running ht hT hb hr
    exact ⟨hresult, hevents, fun tree hk hwire hact loc hnew => files_of_running ht hT hb hr hk hwire hact hnew⟩
  · intro p t form task u hb n hn hr r hd enough henough
    exact create_of_stopped ht hn hb hr hd henough

/-- An upload whose task runs on is cut off behind its second, with the temporary file that was made for it. -/
theorem create_keeps_its_limit_urgent :
    1 ≤ World.urgent.timeoutUpload.toNat ∧
      Timed World.wire World.surroundings (fun w => w.time.limit) World.time ∧
      (create World.reconciling "tmp" World.urgent World.busy).result = .error (.timeout (.ofSeconds 1)) ∧
      (temporaries (createLog World.reconciling "tmp" World.urgent World.busy)).length = 1 ∧
      ∀ loc, (create World.reconciling "tmp" World.urgent World.busy).host.tree.file? loc =
        World.busy.tree.file? loc := by
  obtain ⟨-, -, hrunning, -⟩ :=
    create_keeps_its_limit World.timed World.clientless "tmp" World.urgent World.busy (by decide)
  obtain ⟨p, hready, hway, himage⟩ := World.prepared_urgent
  obtain ⟨hresult, -, hfiles⟩ := hrunning p World.ready World.imageForm "UPID:1" World.begun
    ⟨hready, hway, himage ▸ World.submits_urgent⟩ World.runsFor_urgent
  refine ⟨by decide, World.timed, hresult, by decide +kernel, fun loc => ?_⟩
  refine hfiles World.tree World.keepsTree_reconciling (fun r w hr => World.tree_wire hr w) (fun _ _ => rfl) loc ?_
  intro e he path hpath hat
  have hnone := List.all_eq_true.1 (List.all_eq_true.1 World.all_isNew_urgent e he) path hpath
  rw [hat] at hnone
  exact Option.isNone_iff_eq_none.1 hnone

end Cluster

end FilePlacement
