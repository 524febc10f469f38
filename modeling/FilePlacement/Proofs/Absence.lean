import FilePlacement.Proofs.FailedCalls
import FilePlacement.Proofs.TaskOutcome

/-!
# Who may take a thing for absent

Every answer of the cluster that says that something is not there makes its request fail with `Fault.notFound`, and
only deleting takes that for success: what is not there is deleted (`delete_ok_iff`). Creating and reading fail
with it, as with every other fault of a request that has to succeed (`create_of_inquiry`, `run_upload_of_broken`,
`read_absent_iff`); only the release need not be told, and no fault of asking for it is ever one of creating
(`create_not_of_release`).
-/

namespace FilePlacement

open Reconciler

/-- What a failed request to the cluster was for. -/
def Fault.asked? : Fault → Option String
  | notFound what | requestFailed what _ | backend (.refused what ..) => some what
  | _ => none

/-- No fault of asking for the release. -/
def Fault.SparesRelease (f : Fault) : Prop := f.asked? ≠ some "version" ∧ ∀ text, f ≠ .backend (.invalidRelease text)

/-! ## Faults of programs -/

namespace Task

variable {I : Interface} {α β : Type} {R : Fault → Prop}

/-- Every fault that the task can fail with satisfies `R`. -/
def FailsIn (R : Fault → Prop) (t : Task I α) : Prop := Program.Ends (fun r => ∀ f, r = .error f → R f) t.run

namespace FailsIn

theorem pure (a : α) : FailsIn R (Pure.pure a : Task I α) := fun _ hf => nomatch hf

theorem throw {f : Fault} (hf : R f) : FailsIn R (MonadExcept.throw f : Task I α) := fun _ h => Except.error.inj h ▸ hf

theorem ofExcept {r : Except Fault α} (hr : ∀ f, r = .error f → R f) : FailsIn R (Task.ofExcept r : Task I α) := by
  cases r with
  | ok a => exact pure a
  | error f => exact throw (hr f rfl)

theorem bind {t : Task I α} {f : α → Task I β} (ht : t.FailsIn R) (hf : ∀ a, (f a).FailsIn R) :
    FailsIn R (t >>= f) := by
  unfold FailsIn
  rw [ExceptT.run_bind, Program.bind_eq]
  refine Program.Ends.bind ht fun r hr => ?_
  cases r with
  | ok a => exact hf a
  | error e => exact fun g hg => hr g (congrArg Except.error (Except.error.inj hg))

theorem lift (p : Program I α) : FailsIn R (Task.lift p) := Program.Ends.bind (Program.ends_true p) fun _ _ => nofun

theorem ofIo (hR : ∀ e, R (.io e)) (p : Program I (Except IoError α)) : FailsIn R (Task.ofIo p) := by
  refine Program.Ends.bind (Program.ends_true p) fun r _ => ?_
  cases r with
  | ok a => exact nofun
  | error e => exact fun f hf => Except.error.inj hf ▸ hR e

theorem unlessOk {t : Task I α} (ht : t.FailsIn R) (d : I.Deed) : FailsIn R (t.unlessOk d) := by
  have hheld : ∀ (p : Program I (Except Fault α)), p.Ends (fun r => ∀ f, r = .error f → R f) →
      (p.holding d).Ends fun r => ∀ f, r = .error f → R f := by
    intro p hp
    induction p with
    | done a => exact hp
    | ask r due next ih => exact fun reply => ih reply (hp reply)
    | act e next ih => exact ih hp
  refine Program.Ends.bind (hheld t ht) fun r hr => ?_
  cases r with
  | ok a => exact nofun
  | error f => exact hr

end FailsIn

end Task

namespace Cluster

variable {σ : Type}

/-! ## Faults of calls -/

namespace Inquiry

/-- A failed inquiry is named. -/
theorem asked?_of_settle {q : Inquiry} {a : Answer} {f : Fault} (h : q.settle a = .error f) :
    f.asked? = some q.what ∧ ∀ text, f ≠ .backend (.invalidRelease text) := by
  rw [settle_eq_iff] at h
  cases h <;> exact ⟨rfl, nofun⟩

theorem isReply_of_settle {q : Inquiry} {a : Answer} {f : Fault} (h : q.settle a = .error f) : f.isReply = true := by
  rw [settle_eq_iff] at h
  cases h <;> rfl

theorem append_ne_of_head {a b : String} {c d : Char} {as bs : List Char} (ha : a.toList = c :: as)
    (hb : b.toList = d :: bs) (hne : c ≠ d) (rest : String) : a ++ rest ≠ b := by
  intro h
  have hletters := congrArg String.toList h
  rw [String.toList_append, ha, hb] at hletters
  exact hne (List.cons.inj hletters).1

/-- Only the release goes by the name of the release. -/
theorem what_ne_version {q : Inquiry} (hq : q ≠ .release) : q.what ≠ "version" := by
  cases q with
  | release => exact absurd rfl hq
  | content node storage =>
    change "content of datastore " ++ storage ++ " on node " ++ node ≠ "version"
    rw [String.append_assoc, String.append_assoc]
    exact append_ne_of_head rfl rfl (by decide) _
  | upload node storage form =>
    change "upload of " ++ form.fileName ++ " to datastore " ++ storage ≠ "version"
    rw [String.append_assoc, String.append_assoc]
    exact append_ne_of_head rfl rfl (by decide) _
  | datastore name => exact append_ne_of_head rfl rfl (by decide) name
  | task node id => exact append_ne_of_head rfl rfl (by decide) id
  | deletion node storage volumeId => exact append_ne_of_head rfl rfl (by decide) volumeId

theorem failsIn_ask {R : Fault → Prop} {q : Inquiry} (hq : ∀ a f, q.settle a = .error f → R f) (api : Api) :
    (q.ask api).FailsIn R := by
  rw [ask_eq]
  exact Program.Ends.bind (Program.ends_true _) fun a _ => hq a

theorem failsIn_sparesRelease {q : Inquiry} (hq : q ≠ .release) (api : Api) :
    (q.ask api).FailsIn Fault.SparesRelease := by
  refine failsIn_ask (fun a f hf => ?_) api
  obtain ⟨hasked, hparsed⟩ := asked?_of_settle hf
  refine ⟨fun hversion => ?_, hparsed⟩
  rw [hasked] at hversion
  exact what_ne_version hq (Option.some.inj hversion)

end Inquiry

theorem failsIn_pollTask (api : Api) (node task : String) (patience : Time.Span) (looks : Nat) :
    (api.pollTask node task patience looks).FailsIn Fault.SparesRelease := by
  induction looks with
  | zero => exact .throw ⟨nofun, nofun⟩
  | succ looks ih =>
    refine .bind (Inquiry.failsIn_sparesRelease (q := .task node task) nofun api) fun status => ?_
    split
    · exact .bind (.lift _) fun _ => ih
    · split
      · exact .pure _
      · exact .throw ⟨nofun, nofun⟩

/-- No other call fails as the question for the release does. -/
theorem Connection.failsIn_serve (c : Connection) (patience : Time.Span) {call : BackendCall} (hcall : call ≠ .release) :
    (c.serve patience call).FailsIn Fault.SparesRelease := by
  cases call with
  | release => exact absurd rfl hcall
  | listFiles node datastore => exact Inquiry.failsIn_sparesRelease (q := .content node datastore) nofun c.api
  | datastore name => exact Inquiry.failsIn_sparesRelease (q := .datastore name) nofun c.api
  | deleteFile node datastore id => exact Inquiry.failsIn_sparesRelease (q := .deletion node datastore id) nofun c.api
  | apiUpload node datastore upload =>
    refine .bind (.ofIo (fun e => ⟨nofun, nofun⟩) _) fun file => ?_
    dsimp only
    split
    · refine .throw ⟨fun hversion => ?_, nofun⟩
      refine Inquiry.what_ne_version (q := .upload node datastore (Api.uploadForm upload .empty)) nofun ?_
      exact Option.some.inj hversion
    · rename_i bytes _
      refine .bind (Inquiry.failsIn_sparesRelease (q := .upload node datastore (Api.uploadForm upload bytes)) nofun
        c.api) fun task => ?_
      exact failsIn_pollTask c.api node task patience _
  | streamUpload node path upload =>
    change (c.stream.upload node path upload).FailsIn Fault.SparesRelease
    unfold StreamConfig.upload
    split
    · exact .throw ⟨nofun, nofun⟩
    · refine .bind (.ofIo (fun e => ⟨nofun, nofun⟩) _) fun _ => ?_
      refine .bind (.unlessOk (.ofIo (fun e => ⟨nofun, nofun⟩) _) _) fun file => ?_
      refine .bind (.lift _) fun e => .ofExcept fun f hf => ?_
      unfold StreamConfig.verdict at hf
      split at hf
      · rw [← Except.error.inj hf]
        exact ⟨nofun, nofun⟩
      · split at hf
        · cases hf
        · rw [← Except.error.inj hf]
          exact ⟨nofun, nofun⟩

/-! ## Uploading -/

section
variable {wire : Host Wire σ} {api : Api} {node storage : String} {upload : Upload} {s : σ}

/-- An upload fails with what the answer to its form means, if that is a fault. -/
theorem run_upload_of_refused {form : Http.Form} {f : Fault} (ho : Offers wire upload s form)
    (hf : (Inquiry.upload node storage form).settle (posted wire api node storage upload s form) = .error f)
    (patience : Time.Span) : (Program.run wire (api.upload node storage upload patience) s).1 = .error f := by
  obtain ⟨now, -, hrun⟩ := run_posted api node storage ho
  have hagrees := Program.run_agrees (logged_agrees wire) (api.upload node storage upload patience).run (s, [])
  rw [ExceptT.run, hrun, hf] at hagrees
  exact congrArg Prod.fst hagrees

/-- An upload fails with what the answer about its task means, if that is a fault and there is the time to look. -/
theorem run_upload_of_broken {form : Http.Form} {task : String} {t : σ} {n : Nat} {f : Fault}
    (hs : Submits wire api node storage upload s form task t) (hr : RunsFor wire api node task n t)
    (hf : (Inquiry.task node task).settle (look wire api node task n t) = .error f) {patience : Time.Span}
    (hn : n < Api.looksWithin patience) :
    (Program.run wire (api.upload node storage upload patience) s).1 = .error f := by
  obtain ⟨now, hnow, hrun⟩ := run_submitted hs
  obtain ⟨log, -, hpoll⟩ := run_pollTask_ends hnow hr (.broken hf)
  have hagrees := Program.run_agrees (logged_agrees wire) (api.upload node storage upload patience).run (s, [])
  rw [ExceptT.run, hrun, hpoll patience _ hn] at hagrees
  exact congrArg Prod.fst hagrees

end

/-! ## The release -/

/-- What an answer about the release comes to. -/
def releaseOf (a : Answer) : Except Fault Release := Inquiry.release.settle a >>= fun text => Release.parse text

theorem release_eq (api : Api) :
    api.release = Task.ofProgram ((Inquiry.release.send api).bind fun a => .done (releaseOf a)) := by
  have hbind : api.release = Inquiry.release.ask api >>= fun text => Task.ofExcept (Release.parse text) := rfl
  rw [hbind, Inquiry.ask_eq]
  refine (Program.bind_assoc (Inquiry.release.send api) _ _).trans
    (congrArg (Program.bind (Inquiry.release.send api)) (funext fun a => ?_))
  unfold releaseOf
  cases Inquiry.release.settle a with
  | error f => rfl
  | ok text =>
    change Task.ofExcept (Release.parse text) = Program.done (Release.parse text)
    cases Release.parse text <;> rfl

theorem of_releaseOf {a : Answer} {f : Fault} (hf : releaseOf a = .error f) :
    f.isReply = true ∧ ¬ f.SparesRelease := by
  unfold releaseOf at hf
  cases hsettle : Inquiry.release.settle a with
  | error g =>
    rw [hsettle] at hf
    obtain rfl : g = f := Except.error.inj hf
    exact ⟨Inquiry.isReply_of_settle hsettle, fun hspares => hspares.1 (Inquiry.asked?_of_settle hsettle).1⟩
  | ok text =>
    rw [hsettle] at hf
    change Release.parse text = .error f at hf
    unfold Release.parse at hf
    split at hf
    · cases hf
    · obtain rfl := Except.error.inj hf
      exact ⟨rfl, fun hspares => hspares.2 text rfl⟩

/-! ## Deleting -/

/-- What deleting makes of the answer to its call. -/
def unlessAbsent : Except Fault Unit → Except Fault (Outcome Unit)
  | .ok _ | .error (.notFound _) => .ok ⟨(), []⟩
  | .error f => .error f

theorem unlessAbsent_eq_ok_iff {r : Except Fault Unit} :
    (∃ o, unlessAbsent r = .ok o) ↔ (∃ u, r = .ok u) ∨ ∃ what, r = .error (.notFound what) := by
  constructor
  · rintro ⟨o, ho⟩
    cases r with
    | ok u => exact .inl ⟨u, rfl⟩
    | error f => cases f <;> first | exact .inr ⟨_, rfl⟩ | cases ho
  · rintro (⟨u, rfl⟩ | ⟨what, rfl⟩) <;> exact ⟨_, rfl⟩

theorem unlessAbsent_eq_error_iff {r : Except Fault Unit} {f : Fault} :
    unlessAbsent r = .error f ↔ r = .error f ∧ ∀ what, f ≠ .notFound what := by
  constructor
  · intro hf
    cases r with
    | ok u => cases hf
    | error g => cases g <;> cases hf <;> exact ⟨rfl, nofun⟩
  · rintro ⟨rfl, hno⟩
    cases f <;> first | rfl | exact absurd rfl (hno _)

theorem result_delete (h : Host Reconciling σ) (spec : Spec) (state : State) (s : σ) :
    (Reconciler.delete h spec state s).result = unlessAbsent (h.answer (removal spec state) s).1 := by
  unfold Reconciler.delete removal
  rcases h.answer (Call.backend (.deleteFile spec.nodeName spec.datastoreId state.id)) s with ⟨f | _, t⟩
  · cases f <;> rfl
  · rfl

section
variable (c : Connection) (wire : Host Wire σ) (here : Host Surroundings σ) (patience : σ → Time.Span) (spec : Spec)
  (state : State) (s : σ)

/-- What a cluster is asked to delete a file. -/
abbrev removalInquiry (spec : Spec) (state : State) : Inquiry := .deletion spec.nodeName spec.datastoreId state.id

theorem answer_removal : (Host.join (c.host wire patience) here).answer (removal spec state) s =
    ((removalInquiry spec state).settle ((removalInquiry spec state).answer wire c.api s),
      (removalInquiry spec state).after wire c.api s) := (removalInquiry spec state).run_ask wire c.api s

/-- A file is deleted if the answer carries, or says that there is no such file. -/
theorem delete_ok_iff : (∃ o, (Reconciler.delete (Host.join (c.host wire patience) here) spec state s).result = .ok o) ↔
    (∃ data, (removalInquiry spec state).Carries ((removalInquiry spec state).answer wire c.api s) data) ∨
      SaysAbsent ((removalInquiry spec state).answer wire c.api s) := by
  rw [result_delete, answer_removal]
  refine unlessAbsent_eq_ok_iff.trans (or_congr (exists_congr fun data => Inquiry.settle_eq_ok_iff) ?_)
  exact ⟨fun ⟨_, h⟩ => (Inquiry.settle_eq_notFound_iff.1 h).2,
    fun h => ⟨_, Inquiry.settle_eq_notFound_iff.2 ⟨rfl, h⟩⟩⟩

/-- Otherwise deleting fails with what the answer means, and it can be tried again. -/
theorem delete_error_iff {f : Fault} :
    (Reconciler.delete (Host.join (c.host wire patience) here) spec state s).result = .error f ↔
      (removalInquiry spec state).settle ((removalInquiry spec state).answer wire c.api s) = .error f ∧
        f.kind = .transport := by
  rw [result_delete, answer_removal]
  have hkind : ∀ a, (removalInquiry spec state).settle a = .error f →
      ((∀ what, f ≠ .notFound what) ↔ f.kind = .transport) := by
    intro a hf
    rw [Inquiry.settle_eq_iff] at hf
    cases hf with
    | absent hs => exact ⟨fun hno => absurd rfl (hno _), nofun⟩
    | refused hr => exact ⟨fun _ => rfl, fun _ => nofun⟩
    | missed hm => exact ⟨fun _ => rfl, fun _ => nofun⟩
  exact unlessAbsent_eq_error_iff.trans (and_congr_right fun hf => hkind _ hf)

/-- Deleting is one request. -/
theorem requested_delete : Requested [(removalInquiry spec state).request c.api]
    (Reconciler.delete (c.traced wire here patience) spec state (s, [])).host.2 := by
  obtain ⟨now, hnow, hrun⟩ := (removalInquiry spec state).run_ask_logged c.api wire .nil s
  have hanswer : (c.traced wire here patience).answer (removal spec state) (s, []) = _ := hrun
  rw [delete_host, hanswer]
  exact hnow

end

/-! ## Creating and reading -/

section
variable (c : Connection) (wire : Host Wire σ) (here : Host Surroundings σ) (patience : σ → Time.Span)

/-- A call with one request comes to what the answer means, if there is one in time. -/
theorem answerInTime_inquiry {call : BackendCall} {q : Inquiry} (hq : call.inquiry? = some q) (hr : call ≠ .release)
    {s : σ} {a : Answer} (ha : ((q.send c.api).runInTime wire s).1 = some a) {f : Fault} (hf : q.settle a = .error f) :
    ((Host.join (c.host wire patience) here).answerInTime (Call.backend call) s).1 = some (.error f) := by
  have hask : (Program.runInTime wire (q.ask c.api) s).1 = some (.error f) := by
    rw [Inquiry.runInTime_ask, ha, Option.map_some, hf]
  cases call with
  | release => exact absurd rfl hr
  | apiUpload node datastore upload => cases hq
  | streamUpload node path upload => cases hq
  | _ =>
    cases hq
    exact hask

/-- Creating fails with what the answer to a request for a listing or a datastore means, if that is a fault. -/
theorem create_of_inquiry (tmpDir : String) (spec : Spec) (s : σ) {e : Entry Reconciling σ}
    (he : e ∈ createLog (Host.join (c.host wire patience) here) tmpDir spec s) {call : BackendCall}
    (hcall : e.call = .backend call) (hmust : Call.mustSucceed (.backend call) = true) {q : Inquiry}
    (hq : call.inquiry? = some q) {a : Answer} (ha : ((q.send c.api).runInTime wire e.before).1 = some a) {f : Fault}
    (hf : q.settle a = .error f) :
    (create (Host.join (c.host wire patience) here) tmpDir spec s).result = .error f := by
  rw [← hcall] at hmust
  have htime := askedInTime_of_mustSucceed _ tmpDir spec s he hmust
  refine result_of_failed_call _ tmpDir spec s he hmust ?_
  obtain ⟨r, reply, before, after⟩ := e
  obtain rfl : r = Call.backend call := hcall
  have hr : call ≠ .release := by
    rintro rfl
    exact absurd hmust Bool.false_ne_true
  rw [htime]
  exact returns_askedInTime_iff.2 (answerInTime_inquiry c wire here patience hq hr ha hf)

/-- Creating fails as its upload does. -/
theorem create_of_upload (tmpDir : String) (spec : Spec) (s : σ) {e : Entry Reconciling σ}
    (he : e ∈ createLog (Host.join (c.host wire patience) here) tmpDir spec s) {node storage : String} {upload : Upload}
    (hcall : e.call = .backend (.apiUpload node storage upload)) {f : Fault}
    (hf : (Program.runInTime wire (c.api.upload node storage upload (patience e.before)) e.before).1 =
      some (.error f)) :
    (create (Host.join (c.host wire patience) here) tmpDir spec s).result = .error f := by
  have hmust : e.call.mustSucceed = true := hcall ▸ rfl
  have htime := askedInTime_of_mustSucceed _ tmpDir spec s he hmust
  refine result_of_failed_call _ tmpDir spec s he hmust ?_
  obtain ⟨r, reply, before, after⟩ := e
  obtain rfl : r = Call.backend (.apiUpload node storage upload) := hcall
  rw [htime]
  exact returns_askedInTime_iff.2 hf

/-- No fault of asking for the release is one of creating. -/
theorem create_not_of_release (tmpDir : String) (spec : Spec) (s : σ) {a : Answer} {f : Fault}
    (hf : releaseOf a = .error f) :
    (create (Host.join (c.host wire patience) here) tmpDir spec s).result ≠ .error f := by
  obtain ⟨hreply, hspares⟩ := of_releaseOf hf
  rw [create_forgiving]
  intro hresult
  rcases fault_of_create hresult with ⟨e, he, hreturns⟩ | hother
  · have hgenuine := (create_linked (v := fun _ : σ => ()) (fun _ _ => rfl) (fun _ _ => rfl) tmpDir spec s).genuine e he
    obtain ⟨r, reply, before, after⟩ := e
    cases r with
    | here call => exact hreturns
    | backend call =>
      by_cases hcall : call = .release
      · subst hcall
        exact not_returns_of_release hgenuine rfl f hreturns
      · have hne : Call.backend call ≠ .backend .release := fun h => hcall (Call.backend.inj h)
        have hserve := c.failsIn_serve (patience before) hcall
        refine hspares ?_
        rcases hgenuine with hg | hg <;> rw [hg] at hreturns
        · have htime := returns_askedInTime_iff.1 hreturns
          rw [forgiving_answerInTime hne] at htime
          exact hserve.runInTime (Prod.ext htime rfl) f rfl
        · have hanswer := returns_asked_iff.1 hreturns
          rw [forgiving_answer hne] at hanswer
          exact hserve.run wire before f hanswer
  · rw [hreply] at hother
    cases hother

/-- Reading fails with what the answer to its listing means, if that is a fault. -/
theorem read_of_content (spec : Spec) (state : State) (s : σ) {f : Fault}
    (hf : (Inquiry.content spec.nodeName spec.datastoreId).settle
      ((Inquiry.content spec.nodeName spec.datastoreId).answer wire c.api s) = .error f) :
    (read (Host.join (c.host wire patience) here) spec state s).result = .error f := by
  refine read_of_unlisted _ spec s state (t := (Inquiry.content spec.nodeName spec.datastoreId).after wire c.api s) ?_
  have hrun := (Inquiry.content spec.nodeName spec.datastoreId).run_ask wire c.api s
  rw [hf] at hrun
  exact hrun

/-- A record is absent where a listing has come, and the file is not in it. -/
theorem read_absent_iff (spec : Spec) (state : State) (s : σ) :
    (read (Host.join (c.host wire patience) here) spec state s).result = .ok ⟨none, []⟩ ↔
      ∃ listing : List Listed, (Inquiry.content spec.nodeName spec.datastoreId).Carries
        ((Inquiry.content spec.nodeName spec.datastoreId).answer wire c.api s) listing ∧
        ∀ entry ∈ listing, entry.volumeId ≠ state.id := by
  have hanswer : (Host.join (c.host wire patience) here).answer
      (Call.backend (.listFiles spec.nodeName spec.datastoreId)) s = _ :=
    (Inquiry.content spec.nodeName spec.datastoreId).run_ask wire c.api s
  rw [read_eq_none_iff, hanswer]
  constructor
  · rintro ⟨listing, t, heq, habsent⟩
    exact ⟨listing, Inquiry.settle_eq_ok_iff.1 (congrArg Prod.fst heq), habsent⟩
  · rintro ⟨listing, hc, habsent⟩
    exact ⟨listing, _, Prod.ext (Inquiry.settle_eq_ok_iff.2 hc) rfl, habsent⟩

/-- What the client asks for are inquiries. -/
theorem client_asks (api : Api) :
    (∀ node storage, api.listContent node storage = (Inquiry.content node storage).ask api) ∧
    (∀ name, api.storage name = (Inquiry.datastore name).ask api) ∧
    (∀ node storage id, api.deleteContent node storage id = (Inquiry.deletion node storage id).ask api) ∧
    (∀ node task, api.taskStatus node task = (Inquiry.task node task).ask api) ∧
    api.release = Task.ofProgram ((Inquiry.release.send api).bind fun a => .done (releaseOf a)) :=
  ⟨fun _ _ => rfl, fun _ => rfl, fun _ _ _ => rfl, fun _ _ => rfl, release_eq api⟩

/-- **What a cluster says is not there.** A request comes to data, to `notFound`, to a complaint of the cluster or to
a failed request, by nothing but its answer. Deleting is one request; it succeeds just if that carries or says that the
file is not there, and fails otherwise with what can be tried again. Creating fails with whatever a request for a
listing or a datastore, or an upload, fails with, and an upload with what its form or a look at its task is answered.
Reading fails if its listing does, and takes a file for absent only by a listing without it. To creating, a cluster
that does not tell its release is as one that tells the oldest, and no fault of asking for it is one of creating. -/
theorem absence_excuses_deleting_alone :
    (∀ (q : Inquiry) a,
      (∀ data, q.settle a = .ok data ↔ q.Carries a data) ∧
      (∀ what, q.settle a = .error (.notFound what) ↔ what = q.what ∧ SaysAbsent a) ∧
      (∀ complaint, q.settle a = .error (.backend complaint) ↔
        ∃ status text, complaint = .refused q.what status text ∧ Refuses a status text) ∧
      (∀ what why, q.settle a = .error (.requestFailed what why) ↔ what = q.what ∧ q.Misses a why) ∧
      ∀ f, q.settle a = .error f → f.isReply = true) ∧
    ((∀ (q : Inquiry) s,
        Program.run wire (q.ask c.api) s = (q.settle (q.answer wire c.api s), q.after wire c.api s) ∧
        Program.runInTime wire (q.ask c.api) s =
          (((q.send c.api).runInTime wire s).1.map q.settle, ((q.send c.api).runInTime wire s).2)) ∧
      (∀ node storage, c.api.listContent node storage = (Inquiry.content node storage).ask c.api) ∧
      (∀ name, c.api.storage name = (Inquiry.datastore name).ask c.api) ∧
      (∀ node storage id, c.api.deleteContent node storage id = (Inquiry.deletion node storage id).ask c.api) ∧
      (∀ node task, c.api.taskStatus node task = (Inquiry.task node task).ask c.api) ∧
      c.api.release = Task.ofProgram ((Inquiry.release.send c.api).bind fun a => .done (releaseOf a)) ∧
      ∀ p call requests (s : σ × List (Entry Wire σ)), Requested requests s.2 → (c.serve p call).Leads wire.logged
        (fun t => ∃ qs : List Inquiry, Requested (requests ++ qs.map (·.request c.api)) t.2) s) ∧
    (∀ spec state s,
      ((∃ o, (Reconciler.delete (Host.join (c.host wire patience) here) spec state s).result = .ok o) ↔
        (∃ data, (removalInquiry spec state).Carries ((removalInquiry spec state).answer wire c.api s) data) ∨
          SaysAbsent ((removalInquiry spec state).answer wire c.api s)) ∧
      (∀ f, (Reconciler.delete (Host.join (c.host wire patience) here) spec state s).result = .error f ↔
        (removalInquiry spec state).settle ((removalInquiry spec state).answer wire c.api s) = .error f ∧
          f.kind = .transport) ∧
      Requested [(removalInquiry spec state).request c.api]
        (Reconciler.delete (c.traced wire here patience) spec state (s, [])).host.2) ∧
    (∀ tmpDir spec s, ∀ e ∈ createLog (Host.join (c.host wire patience) here) tmpDir spec s, ∀ f,
      (∀ call q a, e.call = .backend call → Call.mustSucceed (.backend call) = true → call.inquiry? = some q →
        ((q.send c.api).runInTime wire e.before).1 = some a → q.settle a = .error f →
        (create (Host.join (c.host wire patience) here) tmpDir spec s).result = .error f) ∧
      ∀ node storage upload, e.call = .backend (.apiUpload node storage upload) →
        (Program.runInTime wire (c.api.upload node storage upload (patience e.before)) e.before).1 = some (.error f) →
        (create (Host.join (c.host wire patience) here) tmpDir spec s).result = .error f) ∧
    ((∀ call p (s t : σ) r, Program.runInTime wire (c.serve p call) s = (some r, t) →
        Program.run wire.prompt (c.serve p call) s = (r, t)) ∧
      ∀ (wire : Host Wire σ) node storage upload s form f p,
        (Offers wire upload s form →
          (Inquiry.upload node storage form).settle (posted wire c.api node storage upload s form) = .error f →
          (Program.run wire (c.api.upload node storage upload p) s).1 = .error f) ∧
        ∀ task t n, Submits wire c.api node storage upload s form task t → RunsFor wire c.api node task n t →
          (Inquiry.task node task).settle (look wire c.api node task n t) = .error f → n < Api.looksWithin p →
          (Program.run wire (c.api.upload node storage upload p) s).1 = .error f) ∧
    (∀ spec state s,
      (∀ f, (Inquiry.content spec.nodeName spec.datastoreId).settle
          ((Inquiry.content spec.nodeName spec.datastoreId).answer wire c.api s) = .error f →
        (read (Host.join (c.host wire patience) here) spec state s).result = .error f) ∧
      ((read (Host.join (c.host wire patience) here) spec state s).result = .ok ⟨none, []⟩ ↔
        ∃ listing : List Listed, (Inquiry.content spec.nodeName spec.datastoreId).Carries
          ((Inquiry.content spec.nodeName spec.datastoreId).answer wire c.api s) listing ∧
          ∀ entry ∈ listing, entry.volumeId ≠ state.id)) ∧
    ∀ tmpDir spec s,
      create (Host.join (c.host wire patience) here) tmpDir spec s =
        create (Host.join (c.host wire patience) here).forgiving tmpDir spec s ∧
      ∀ a f, releaseOf a = .error f → (create (Host.join (c.host wire patience) here) tmpDir spec s).result ≠ .error f := by
  refine ⟨fun q a => ⟨?_, ?_, ?_, ?_, ?_⟩, ⟨fun q s => ⟨?_, ?_⟩, ?_⟩, ?_, ?_, ⟨?_, ?_⟩, ?_, ?_⟩
  · exact fun data => Inquiry.settle_eq_ok_iff
  · exact fun what => Inquiry.settle_eq_notFound_iff
  · exact fun complaint => Inquiry.settle_eq_backend_iff
  · exact fun what why => Inquiry.settle_eq_requestFailed_iff
  · exact fun f hf => Inquiry.isReply_of_settle hf
  · exact q.run_ask wire c.api s
  · exact q.runInTime_ask wire c.api s
  · obtain ⟨hcontent, hdatastore, hdeletion, htask, hrelease⟩ := client_asks c.api
    exact ⟨hcontent, hdatastore, hdeletion, htask, hrelease, fun p call _ _ hl => leads_inquiries c p call hl⟩
  · intro spec state s
    exact ⟨delete_ok_iff c wire here patience spec state s, fun _ => delete_error_iff c wire here patience spec state s,
      requested_delete c wire here patience spec state s⟩
  · intro tmpDir spec s e he f
    constructor
    · intro call q a hcall hmust hq ha hf
      exact create_of_inquiry c wire here patience tmpDir spec s he hcall hmust hq ha hf
    · intro node storage upload hcall hf
      exact create_of_upload c wire here patience tmpDir spec s he hcall hf
  · exact fun call p s t r hr => Program.run_prompt hr
  · intro wire node storage upload s form f p
    refine ⟨fun ho hf => run_upload_of_refused ho hf p, fun task t n hs hr hf hn => ?_⟩
    exact run_upload_of_broken hs hr hf hn
  · intro spec state s
    exact ⟨fun f hf => read_of_content c wire here patience spec state s hf,
      read_absent_iff c wire here patience spec state s⟩
  · intro tmpDir spec s
    exact ⟨create_forgiving _ tmpDir spec s,
      fun a f hf => create_not_of_release c wire here patience tmpDir spec s hf⟩

end

end Cluster

end FilePlacement
