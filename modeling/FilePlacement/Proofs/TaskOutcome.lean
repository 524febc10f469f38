import FilePlacement.Proofs.Inquiries

/-!
# What an upload makes of its task

The cluster puts an uploaded file into its place by a task, and an upload looks at the task once a second until it
has stopped. How many looks fit into somebody's patience is no matter of the upload itself: `Returns` says what it
comes to for whoever waits long enough.

`Way` lists the ways through an upload with the requests that each of them sends, without any bound on the looks. An
upload returns a result just if there is a way to it (`returns_iff`), and never returns just if a task has been begun
and every look finds it running (`never_returns_iff`).
-/

namespace FilePlacement.Cluster

variable {σ : Type}

/-! ## Looking at a task -/

section
variable (wire : Host Wire σ) (api : Api) (node task : String)

/-- The wire when a task has been looked at so many times, and a second has passed behind each look. -/
def afterLooks : Nat → σ → σ
  | 0, s => s
  | n + 1, s => afterLooks n (wire.answer WireCall.pause ((Inquiry.task node task).after wire api s)).2

/-- The answer to the look behind so many others. -/
def look (n : Nat) (s : σ) : Answer := (Inquiry.task node task).answer wire api (afterLooks wire api node task n s)

/-- The answer tells the state of a task that has not stopped. -/
def TellsRunning (a : Answer) : Prop :=
  ∃ status : TaskStatus, (Inquiry.task node task).Carries a status ∧ status.status ≠ "stopped"

/-- So many looks find the task running. -/
def RunsFor (n : Nat) (s : σ) : Prop := ∀ i < n, TellsRunning node task (look wire api node task i s)

/-- What the state of a stopped task says of its upload. -/
def verdict (task : String) (status : TaskStatus) : Except Fault Unit :=
  if status.exitStatus = some "OK" then .ok () else .error (.uploadFailed (.task task status.exitStatus))

/-- What an answer decides that does not tell of a running task: it tells of a stopped one, or of none. -/
inductive Decides (a : Answer) : Except Fault Unit → Prop
  | stopped {status : TaskStatus} (hc : (Inquiry.task node task).Carries a status) (hs : status.status = "stopped") :
      Decides a (verdict task status)
  | broken {f} (hf : (Inquiry.task node task).settle a = .error f) : Decides a (.error f)

end

section
variable {wire : Host Wire σ} {api : Api} {node task : String}

theorem tellsRunning_or_decides (a : Answer) : TellsRunning node task a ∨ ∃ r, Decides node task a r := by
  cases hr : (Inquiry.task node task).settle a with
  | error f => exact .inr ⟨_, .broken hr⟩
  | ok status =>
    have hc := Inquiry.settle_eq_ok_iff.1 hr
    change TaskStatus at status
    by_cases hs : status.status = "stopped"
    · exact .inr ⟨_, .stopped hc hs⟩
    · exact .inl ⟨status, hc, hs⟩

theorem runsFor_succ {n : Nat} {s : σ} : RunsFor wire api node task (n + 1) s ↔
    TellsRunning node task (look wire api node task 0 s) ∧
      RunsFor wire api node task n (afterLooks wire api node task 1 s) := by
  constructor
  · intro h
    exact ⟨h 0 (Nat.succ_pos n), fun i hi => h (i + 1) (Nat.succ_lt_succ hi)⟩
  · rintro ⟨hfirst, hrest⟩ i hi
    cases i with
    | zero => exact hfirst
    | succ i => exact hrest i (Nat.lt_of_succ_lt_succ hi)

theorem decides_iff {a : Answer} {r : Except Fault Unit} : Decides node task a r ↔
    (∃ status : TaskStatus, (Inquiry.task node task).Carries a status ∧ status.status = "stopped" ∧
      verdict task status = r) ∨ ∃ f, (Inquiry.task node task).settle a = .error f ∧ .error f = r := by
  constructor
  · intro hd
    cases hd with
    | stopped hc hs => exact .inl ⟨_, hc, hs, rfl⟩
    | broken hf => exact .inr ⟨_, hf, rfl⟩
  · rintro (⟨status, hc, hs, rfl⟩ | ⟨f, hf, rfl⟩)
    · exact .stopped hc hs
    · exact .broken hf

theorem verdict_eq_ok_iff {status : TaskStatus} : verdict task status = .ok () ↔ status.exitStatus = some "OK" := by
  unfold verdict
  by_cases hok : status.exitStatus = some "OK" <;> simp [hok]

theorem verdict_eq_error_iff {status : TaskStatus} {f : Fault} : verdict task status = .error f ↔
    status.exitStatus ≠ some "OK" ∧ f = .uploadFailed (.task task status.exitStatus) := by
  unfold verdict
  by_cases hok : status.exitStatus = some "OK"
  · simp [hok]
  · simp [hok, eq_comm]

/-- No inquiry fails as an upload. -/
theorem Inquiry.settle_ne_uploadFailed {q : Inquiry} {a : Answer} (why : UploadFailure) :
    q.settle a ≠ .error (.uploadFailed why) := by
  intro h
  rw [Inquiry.settle_eq_iff] at h
  cases h

/-- What does not run for ever is found otherwise by a first look. -/
theorem exists_decides {s : σ} (h : ¬ ∀ n, RunsFor wire api node task n s) :
    ∃ n r, RunsFor wire api node task n s ∧ Decides node task (look wire api node task n s) r := by
  refine Classical.byContradiction fun hno => h ?_
  intro n
  induction n with
  | zero => exact fun i hi => absurd hi (Nat.not_lt_zero i)
  | succ n ih =>
    intro i hi
    rcases Nat.lt_succ_iff_lt_or_eq.1 hi with hi | rfl
    · exact ih i hi
    · exact (tellsRunning_or_decides _).resolve_right fun ⟨r, hd⟩ => hno ⟨i, r, ih, hd⟩

/-- The question how a task does. -/
def Api.statusRequest (api : Api) (node task : String) : Http.Request := (Inquiry.task node task).request api

/-! ## Polling -/

/-- A look that tells of a running task is one more question, and a second later the task is looked at again. -/
theorem run_pollTask_running {requests : List Http.Request} {log : List (Entry Wire σ)} (hl : Requested requests log)
    {s : σ} (hr : TellsRunning node task (look wire api node task 0 s)) :
    ∃ now, Requested (requests ++ [api.statusRequest node task]) now ∧ ∀ patience looks,
      Program.run wire.logged (api.pollTask node task patience (looks + 1)) (s, log) =
        Program.run wire.logged (api.pollTask node task patience looks) (afterLooks wire api node task 1 s, now) := by
  obtain ⟨now, hnow, hask⟩ := (Inquiry.task node task).run_ask_logged api wire hl s
  obtain ⟨status, hc, hs⟩ := hr
  have hsettle : (Inquiry.task node task).settle ((Inquiry.task node task).answer wire api s) = .ok status :=
    Inquiry.settle_eq_ok_iff.2 hc
  have hrunning : status.isRunning = true := by simpa [TaskStatus.isRunning] using hs
  rw [hsettle] at hask
  refine ⟨now ++ [.asked wire WireCall.pause ((Inquiry.task node task).after wire api s)], hnow.other rfl, ?_⟩
  intro patience looks
  refine (Task.run_bind wire.logged ((Inquiry.task node task).ask api) _ (s, log)).trans ?_
  rw [hask]
  simp only [hrunning, if_true]
  rfl

/-- Any other look is the last one. -/
theorem run_pollTask_decided {requests : List Http.Request} {log : List (Entry Wire σ)} (hl : Requested requests log)
    {s : σ} {r : Except Fault Unit} (hd : Decides node task (look wire api node task 0 s) r) :
    ∃ now, Requested (requests ++ [api.statusRequest node task]) now ∧ ∀ patience looks,
      Program.run wire.logged (api.pollTask node task patience (looks + 1)) (s, log) =
        (r, (Inquiry.task node task).after wire api s, now) := by
  obtain ⟨now, hnow, hask⟩ := (Inquiry.task node task).run_ask_logged api wire hl s
  refine ⟨now, hnow, fun patience looks => ?_⟩
  refine (Task.run_bind wire.logged ((Inquiry.task node task).ask api) _ (s, log)).trans ?_
  cases hd with
  | @stopped status hc hs =>
    have hsettle : (Inquiry.task node task).settle ((Inquiry.task node task).answer wire api s) = .ok status :=
      Inquiry.settle_eq_ok_iff.2 hc
    have hstopped : status.isRunning = false := by simpa [TaskStatus.isRunning] using hs
    rw [hask, hsettle]
    by_cases hok : status.exitStatus = some "OK"
    · simp only [hstopped, verdict, TaskStatus.succeeded, hok, Bool.false_eq_true, beq_self_eq_true, if_true, if_false]
      rfl
    · have hfailed : status.succeeded = false := by simpa [TaskStatus.succeeded] using hok
      simp only [hstopped, verdict, hfailed, hok, Bool.false_eq_true, if_false]
      rfl
  | @broken f hf =>
    have hsettle : (Inquiry.task node task).settle ((Inquiry.task node task).answer wire api s) = .error f := hf
    rw [hask, hsettle]

/-- The looks that find a task running are that many questions. -/
theorem run_pollTask_runs (n : Nat) {requests : List Http.Request} {log : List (Entry Wire σ)}
    (hl : Requested requests log) {s : σ} (hr : RunsFor wire api node task n s) :
    ∃ now, Requested (requests ++ List.replicate n (api.statusRequest node task)) now ∧ ∀ patience looks,
      Program.run wire.logged (api.pollTask node task patience (n + looks)) (s, log) =
        Program.run wire.logged (api.pollTask node task patience looks) (afterLooks wire api node task n s, now) := by
  induction n generalizing requests log s with
  | zero =>
    refine ⟨log, by simpa using hl, fun patience looks => ?_⟩
    rw [Nat.zero_add]
    rfl
  | succ n ih =>
    obtain ⟨hfirst, hrest⟩ := runsFor_succ.1 hr
    obtain ⟨log₁, hl₁, hrun₁⟩ := run_pollTask_running hl hfirst
    obtain ⟨log₂, hl₂, hrun₂⟩ := ih hl₁ hrest
    refine ⟨log₂, ?_, fun patience looks => ?_⟩
    · rwa [List.append_assoc, List.singleton_append, ← List.replicate_succ] at hl₂
    · have hsum : n + 1 + looks = n + looks + 1 := by omega
      rw [hsum, hrun₁, hrun₂]
      rfl

/-- Polling comes to what the first look decides that does not find the task running. -/
theorem run_pollTask_ends {n : Nat} {requests : List Http.Request} {log : List (Entry Wire σ)}
    (hl : Requested requests log) {s : σ} {r : Except Fault Unit} (hr : RunsFor wire api node task n s)
    (hd : Decides node task (look wire api node task n s) r) :
    ∃ now, Requested (requests ++ List.replicate (n + 1) (api.statusRequest node task)) now ∧
      ∀ patience looks, n < looks → Program.run wire.logged (api.pollTask node task patience looks) (s, log) =
        (r, (Inquiry.task node task).after wire api (afterLooks wire api node task n s), now) := by
  obtain ⟨log₁, hl₁, hrun₁⟩ := run_pollTask_runs n hl hr
  obtain ⟨log₂, hl₂, hrun₂⟩ := run_pollTask_decided hl₁ hd
  refine ⟨log₂, ?_, fun patience looks hn => ?_⟩
  · rwa [List.append_assoc, ← List.replicate_succ'] at hl₂
  · obtain ⟨more, rfl⟩ : ∃ more, looks = n + (more + 1) := ⟨looks - n - 1, by omega⟩
    rw [hrun₁, hrun₂]

/-- Polling that finds the task running at every look gives up. -/
theorem run_pollTask_exhausted {looks : Nat} {s : σ} (hr : RunsFor wire api node task looks s)
    {requests : List Http.Request} {log : List (Entry Wire σ)} (hl : Requested requests log) (patience : Time.Span) :
    (Program.run wire.logged (api.pollTask node task patience looks) (s, log)).1 = .error (.timeout patience) := by
  obtain ⟨now, -, hrun⟩ := run_pollTask_runs looks hl hr
  have hlast := hrun patience 0
  rw [Nat.add_zero] at hlast
  rw [hlast]
  rfl

end

/-! ## Uploading -/

section
variable (wire : Host Wire σ) (api : Api) (node storage : String) (upload : Upload) (s : σ)

/-- What opening the local file comes to. -/
def opening : Except IoError FileTree.Opened := (wire.answer (WireCall.openFile upload.localPath) s).1

/-- The wire behind that. -/
def afterOpening : σ := (wire.answer (WireCall.openFile upload.localPath) s).2

/-- The file opens and can be read, and this is the form with its bytes. -/
def Offers (form : Http.Form) : Prop :=
  ∃ file bytes, opening wire upload s = .ok file ∧ file.content = .ok bytes ∧ form = Api.uploadForm upload bytes

/-- The answer to the form. -/
def posted (form : Http.Form) : Answer :=
  (Inquiry.upload node storage form).answer wire api (afterOpening wire upload s)

/-- The form is taken, a task works on it, and the wire is in this state. -/
def Submits (form : Http.Form) (task : String) (t : σ) : Prop :=
  Offers wire upload s form ∧
    (Inquiry.upload node storage form).Carries (posted wire api node storage upload s form) task ∧
    t = (Inquiry.upload node storage form).after wire api (afterOpening wire upload s)

def Api.uploadRequest (api : Api) (node storage : String) (form : Http.Form) : Http.Request :=
  (Inquiry.upload node storage form).request api

/-- Whoever waits long enough sees an upload come to a result, always the same, with the same log. -/
def Returns (r : Except Fault Unit) (log : List (Entry Wire σ)) : Prop :=
  ∃ enough, ∀ patience : Time.Span, enough ≤ patience.milliseconds →
    ∃ t, Program.run wire.logged (api.upload node storage upload patience) (s, []) = (r, t, log)

/-- A way through an upload, with the requests on it. -/
inductive Way : Except Fault Unit → List Http.Request → Prop
  | unopened {e} (he : opening wire upload s = .error e) : Way (.error (.io e)) []
  | unreadable {file e} (ho : opening wire upload s = .ok file) (he : file.content = .error e) :
      Way (.error (.requestFailed ("upload of " ++ upload.fileName ++ " to datastore " ++ storage)
        (.unanswered (api.url ["nodes", node, "storage", storage, "upload"]).text))) []
  | refused {form f} (ho : Offers wire upload s form)
      (hf : (Inquiry.upload node storage form).settle (posted wire api node storage upload s form) = .error f) :
      Way (.error f) [api.uploadRequest node storage form]
  | polled {form task t n r} (hs : Submits wire api node storage upload s form task t)
      (hr : RunsFor wire api node task n t) (hd : Decides node task (look wire api node task n t) r) :
      Way r (api.uploadRequest node storage form :: List.replicate (n + 1) (api.statusRequest node task))

end

section
variable {wire : Host Wire σ} {api : Api} {node storage : String} {upload : Upload} {s : σ}

/-- The log of the first step. -/
def openingLog (wire : Host Wire σ) (upload : Upload) (s : σ) : List (Entry Wire σ) :=
  [.asked wire (WireCall.openFile upload.localPath) s]

theorem requested_openingLog : Requested [] (openingLog wire upload s) := Requested.nil.other rfl

/-- The first step of an upload. -/
theorem run_upload (patience : Time.Span) : Program.run wire.logged (api.upload node storage upload patience) (s, []) =
    match opening wire upload s with
    | .error e => (.error (.io e), afterOpening wire upload s, openingLog wire upload s)
    | .ok file => match file.content with
      | .error _ => (.error (.requestFailed ("upload of " ++ upload.fileName ++ " to datastore " ++ storage)
          (.unanswered (api.url ["nodes", node, "storage", storage, "upload"]).text)), afterOpening wire upload s,
          openingLog wire upload s)
      | .ok bytes => Program.run wire.logged ((do
            let task ← (Inquiry.upload node storage (Api.uploadForm upload bytes)).ask api
            api.waitForTask node task patience) : Task Wire Unit)
          (afterOpening wire upload s, openingLog wire upload s) := by
  refine (Task.run_bind wire.logged (Wire.openFile upload.localPath) _ (s, [])).trans ?_
  have hopen : Program.run wire.logged (Wire.openFile upload.localPath) (s, []) =
      ((opening wire upload s).mapError .io, afterOpening wire upload s, openingLog wire upload s) := rfl
  rw [hopen]
  cases opening wire upload s with
  | error e => rfl
  | ok file =>
    dsimp only [Except.mapError]
    cases file.content <;> rfl

/-- What is posted is the first request. -/
theorem run_posted (api : Api) (node storage : String) {form : Http.Form} (ho : Offers wire upload s form) :
    ∃ now, Requested [api.uploadRequest node storage form] now ∧ ∀ patience,
      Program.run wire.logged (api.upload node storage upload patience) (s, []) =
        match (Inquiry.upload node storage form).settle (posted wire api node storage upload s form) with
        | .error f => (.error f, (Inquiry.upload node storage form).after wire api (afterOpening wire upload s), now)
        | .ok task => Program.run wire.logged (api.waitForTask node task patience)
            ((Inquiry.upload node storage form).after wire api (afterOpening wire upload s), now) := by
  obtain ⟨file, bytes, hopen, hbytes, rfl⟩ := ho
  obtain ⟨now, hnow, hask⟩ := (Inquiry.upload node storage (Api.uploadForm upload bytes)).run_ask_logged api wire
    requested_openingLog (afterOpening wire upload s)
  refine ⟨now, hnow, fun patience => ?_⟩
  rw [run_upload, hopen]
  dsimp only
  rw [hbytes]
  dsimp only
  rw [Task.run_bind, hask]
  unfold posted
  cases (Inquiry.upload node storage (Api.uploadForm upload bytes)).settle
    ((Inquiry.upload node storage (Api.uploadForm upload bytes)).answer wire api (afterOpening wire upload s)) <;> rfl

theorem run_submitted {form : Http.Form} {task : String} {t : σ}
    (hs : Submits wire api node storage upload s form task t) :
    ∃ now, Requested [api.uploadRequest node storage form] now ∧ ∀ patience,
      Program.run wire.logged (api.upload node storage upload patience) (s, []) =
        Program.run wire.logged (api.pollTask node task patience (Api.looksWithin patience)) (t, now) := by
  obtain ⟨ho, hc, rfl⟩ := hs
  obtain ⟨now, hnow, hrun⟩ := run_posted api node storage ho
  refine ⟨now, hnow, fun patience => ?_⟩
  rw [hrun, Inquiry.settle_eq_ok_iff.2 hc]
  rfl

/-- Along a way, an upload returns its result and sends its requests. -/
theorem returns_of_way {r : Except Fault Unit} {requests : List Http.Request}
    (hw : Way wire api node storage upload s r requests) :
    ∃ log, Requested requests log ∧ Returns wire api node storage upload s r log := by
  cases hw with
  | unopened he =>
    refine ⟨openingLog wire upload s, requested_openingLog, 0, fun patience _ => ⟨afterOpening wire upload s, ?_⟩⟩
    rw [run_upload, he]
  | unreadable ho he =>
    refine ⟨openingLog wire upload s, requested_openingLog, 0, fun patience _ => ⟨afterOpening wire upload s, ?_⟩⟩
    rw [run_upload, ho]
    dsimp only
    rw [he]
  | @refused form f ho hf =>
    obtain ⟨now, hnow, hrun⟩ := run_posted api node storage ho
    refine ⟨now, hnow, 0, fun patience _ => ?_⟩
    rw [hrun, hf]
    exact ⟨_, rfl⟩
  | @polled form task t n r hs hr hd =>
    obtain ⟨log₁, hl₁, hrun₁⟩ := run_submitted hs
    obtain ⟨log₂, hl₂, hrun₂⟩ := run_pollTask_ends hl₁ hr hd
    refine ⟨log₂, hl₂, n * 1000, fun patience hp => ?_⟩
    have hlooks : n < Api.looksWithin patience := by
      unfold Api.looksWithin
      omega
    rw [hrun₁, hrun₂ patience _ hlooks]
    exact ⟨_, rfl⟩

/-- Who never sees the task stop waits in vain. -/
theorem not_returns_of_runs {form : Http.Form} {task : String} {t : σ}
    (hs : Submits wire api node storage upload s form task t) (hr : ∀ n, RunsFor wire api node task n t)
    (r : Except Fault Unit) (log : List (Entry Wire σ)) : ¬ Returns wire api node storage upload s r log := by
  rintro ⟨enough, hreturns⟩
  obtain ⟨now, hnow, hrun⟩ := run_submitted hs
  have hresult : ∀ patience : Time.Span, enough ≤ patience.milliseconds → r = .error (.timeout patience) := by
    intro patience hp
    obtain ⟨u, hu⟩ := hreturns patience hp
    rw [← run_pollTask_exhausted (hr (Api.looksWithin patience)) hnow patience, ← hrun patience, hu]
  have hsame := (hresult ⟨enough⟩ (Nat.le_refl enough)).symm.trans (hresult ⟨enough + 1⟩ (Nat.le_succ enough))
  simp at hsame

/-- There is a way through an upload unless its task runs for ever. -/
theorem way_or_runs (wire : Host Wire σ) (api : Api) (node storage : String) (upload : Upload) (s : σ) :
    (∃ r requests, Way wire api node storage upload s r requests) ∨
      ∃ form task t, Submits wire api node storage upload s form task t ∧ ∀ n, RunsFor wire api node task n t := by
  cases hopen : opening wire upload s with
  | error e => exact .inl ⟨_, _, .unopened hopen⟩
  | ok file =>
    cases hbytes : file.content with
    | error e => exact .inl ⟨_, _, .unreadable hopen hbytes⟩
    | ok bytes =>
      have ho : Offers wire upload s (Api.uploadForm upload bytes) := ⟨file, bytes, hopen, hbytes, rfl⟩
      cases hsettle : (Inquiry.upload node storage (Api.uploadForm upload bytes)).settle
          (posted wire api node storage upload s (Api.uploadForm upload bytes)) with
      | error f => exact .inl ⟨_, _, .refused ho hsettle⟩
      | ok task =>
        have hs : Submits wire api node storage upload s (Api.uploadForm upload bytes) task _ :=
          ⟨ho, Inquiry.settle_eq_ok_iff.1 hsettle, rfl⟩
        by_cases hruns : ∀ n, RunsFor wire api node task n
            ((Inquiry.upload node storage (Api.uploadForm upload bytes)).after wire api (afterOpening wire upload s))
        · exact .inr ⟨_, task, _, hs, hruns⟩
        · obtain ⟨n, r, hr, hd⟩ := exists_decides hruns
          exact .inl ⟨r, _, .polled hs hr hd⟩

theorem Returns.unique {r r' : Except Fault Unit} {log log' : List (Entry Wire σ)}
    (h : Returns wire api node storage upload s r log) (h' : Returns wire api node storage upload s r' log') :
    r = r' ∧ log = log' := by
  obtain ⟨enough, hrun⟩ := h
  obtain ⟨enough', hrun'⟩ := h'
  obtain ⟨t, ht⟩ := hrun ⟨max enough enough'⟩ (Nat.le_max_left enough enough')
  obtain ⟨t', ht'⟩ := hrun' ⟨max enough enough'⟩ (Nat.le_max_right enough enough')
  rw [ht] at ht'
  simp only [Prod.mk.injEq] at ht'
  exact ⟨ht'.1, ht'.2.2⟩

/-- What returns has come along a way. -/
theorem way_of_returns {r : Except Fault Unit} {log : List (Entry Wire σ)}
    (h : Returns wire api node storage upload s r log) :
    ∃ requests, Way wire api node storage upload s r requests ∧ Requested requests log := by
  rcases way_or_runs wire api node storage upload s with ⟨r', requests, hw⟩ | ⟨form, task, t, hs, hruns⟩
  · obtain ⟨log', hrequested, hreturns⟩ := returns_of_way hw
    obtain ⟨rfl, rfl⟩ := h.unique hreturns
    exact ⟨requests, hw, hrequested⟩
  · exact absurd h (not_returns_of_runs hs hruns r log)

theorem returns_iff {r : Except Fault Unit} : (∃ log, Returns wire api node storage upload s r log) ↔
    ∃ requests, Way wire api node storage upload s r requests := by
  constructor
  · rintro ⟨log, h⟩
    obtain ⟨requests, hw, -⟩ := way_of_returns h
    exact ⟨requests, hw⟩
  · rintro ⟨requests, hw⟩
    obtain ⟨log, -, h⟩ := returns_of_way hw
    exact ⟨log, h⟩

theorem way_ok_iff : (∃ requests, Way wire api node storage upload s (.ok ()) requests) ↔
    ∃ form task t n, ∃ status : TaskStatus, Submits wire api node storage upload s form task t ∧
      RunsFor wire api node task n t ∧ (Inquiry.task node task).Carries (look wire api node task n t) status ∧
      status.status = "stopped" ∧ status.exitStatus = some "OK" := by
  constructor
  · rintro ⟨requests, hw⟩
    cases hw with
    | @polled form task t n _ hs hr hd =>
      rcases decides_iff.1 hd with ⟨status, hc, hstopped, hok⟩ | ⟨f, -, hf⟩
      · exact ⟨form, task, t, n, status, hs, hr, hc, hstopped, verdict_eq_ok_iff.1 hok⟩
      · cases hf
  · rintro ⟨form, task, t, n, status, hs, hr, hc, hstopped, hok⟩
    exact ⟨_, .polled hs hr (decides_iff.2 (.inl ⟨status, hc, hstopped, verdict_eq_ok_iff.2 hok⟩))⟩

theorem way_uploadFailed_iff {why : UploadFailure} :
    (∃ requests, Way wire api node storage upload s (.error (.uploadFailed why)) requests) ↔
      ∃ form task t n, ∃ status : TaskStatus, Submits wire api node storage upload s form task t ∧
        RunsFor wire api node task n t ∧ (Inquiry.task node task).Carries (look wire api node task n t) status ∧
        status.status = "stopped" ∧ status.exitStatus ≠ some "OK" ∧ why = .task task status.exitStatus := by
  constructor
  · rintro ⟨requests, hw⟩
    cases hw with
    | refused ho hf => exact absurd hf (Inquiry.settle_ne_uploadFailed why)
    | @polled form task t n _ hs hr hd =>
      rcases decides_iff.1 hd with ⟨status, hc, hstopped, hfailed⟩ | ⟨f, hf, heq⟩
      · obtain ⟨hexit, hwhy⟩ := verdict_eq_error_iff.1 hfailed
        cases hwhy
        exact ⟨form, task, t, n, status, hs, hr, hc, hstopped, hexit, rfl⟩
      · cases heq
        exact absurd hf (Inquiry.settle_ne_uploadFailed why)
  · rintro ⟨form, task, t, n, status, hs, hr, hc, hstopped, hexit, rfl⟩
    exact ⟨_, .polled hs hr (decides_iff.2 (.inl ⟨status, hc, hstopped, verdict_eq_error_iff.2 ⟨hexit, rfl⟩⟩))⟩

theorem way_fault_iff {f : Fault} (hf : ∀ why, f ≠ .uploadFailed why) :
    (∃ requests, Way wire api node storage upload s (.error f) requests) ↔
      (∃ e, opening wire upload s = .error e ∧ f = .io e) ∨
      (∃ file e, opening wire upload s = .ok file ∧ file.content = .error e ∧
        f = .requestFailed ("upload of " ++ upload.fileName ++ " to datastore " ++ storage)
          (.unanswered (api.url ["nodes", node, "storage", storage, "upload"]).text)) ∨
      (∃ form, Offers wire upload s form ∧
        (Inquiry.upload node storage form).settle (posted wire api node storage upload s form) = .error f) ∨
      ∃ form task t n, Submits wire api node storage upload s form task t ∧ RunsFor wire api node task n t ∧
        (Inquiry.task node task).settle (look wire api node task n t) = .error f := by
  constructor
  · rintro ⟨requests, hw⟩
    cases hw with
    | unopened he => exact .inl ⟨_, he, rfl⟩
    | unreadable ho he => exact .inr (.inl ⟨_, _, ho, he, rfl⟩)
    | refused ho hsettle => exact .inr (.inr (.inl ⟨_, ho, hsettle⟩))
    | @polled form task t n _ hs hr hd =>
      rcases decides_iff.1 hd with ⟨status, hc, hstopped, hfailed⟩ | ⟨g, hg, heq⟩
      · exact absurd (verdict_eq_error_iff.1 hfailed).2 (hf _)
      · cases heq
        exact .inr (.inr (.inr ⟨form, task, t, n, hs, hr, hg⟩))
  · rintro (⟨e, he, rfl⟩ | ⟨file, e, ho, he, rfl⟩ | ⟨form, ho, hsettle⟩ | ⟨form, task, t, n, hs, hr, hsettle⟩)
    · exact ⟨_, .unopened he⟩
    · exact ⟨_, .unreadable ho he⟩
    · exact ⟨_, .refused ho hsettle⟩
    · exact ⟨_, .polled hs hr (.broken hsettle)⟩

theorem never_returns_iff : (∀ r log, ¬ Returns wire api node storage upload s r log) ↔
    ∃ form task t, Submits wire api node storage upload s form task t ∧ ∀ n, RunsFor wire api node task n t := by
  constructor
  · intro hno
    refine (way_or_runs wire api node storage upload s).resolve_left ?_
    rintro ⟨r, requests, hw⟩
    obtain ⟨log, -, h⟩ := returns_of_way hw
    exact hno r log h
  · rintro ⟨form, task, t, hs, hr⟩
    exact not_returns_of_runs hs hr

end

theorem Fault.message_task (task : String) (exitStatus : Option String) :
    (Fault.uploadFailed (.task task exitStatus)).message =
      "upload failed: task " ++ task ++ " failed: " ++ exitStatus.getD "unknown exit status" := by
  have hwords : "upload failed: task " = "upload failed: " ++ "task " := by decide
  change "upload failed: " ++ ("task " ++ task ++ " failed: " ++ exitStatus.getD "unknown exit status") = _
  rw [hwords]
  simp only [String.append_assoc]

/-! ## The requests of an upload -/

section
variable {wire : Host Wire σ} {api : Api} {node storage : String} {upload : Upload} {s : σ}

theorem Offers.unique {form form' : Http.Form} (ho : Offers wire upload s form) (ho' : Offers wire upload s form') :
    form = form' := by
  obtain ⟨file, bytes, hopen, hbytes, rfl⟩ := ho
  obtain ⟨file', bytes', hopen', hbytes', rfl⟩ := ho'
  rw [hopen] at hopen'
  cases hopen'
  rw [hbytes] at hbytes'
  cases hbytes'
  rfl

theorem Way.postsForm {r : Except Fault Unit} {requests : List Http.Request}
    (hw : Way wire api node storage upload s r requests) : ∀ request ∈ requests, request.PostsForm := by
  have hposted : ∀ form, (api.uploadRequest node storage form).PostsForm := fun form =>
    (Inquiry.upload node storage form).postsForm api
  have hasked : ∀ task, (api.statusRequest node task).PostsForm := fun task => (Inquiry.task node task).postsForm api
  cases hw with
  | unopened he => simp
  | unreadable ho he => simp
  | refused ho hf => simpa using hposted _
  | polled hs hr hd =>
    intro request hmem
    rcases List.mem_cons.1 hmem with rfl | hmem
    · exact hposted _
    · rw [List.eq_of_mem_replicate hmem]
      exact hasked _

/-- What can be offered is posted once. -/
theorem Way.posts {r : Except Fault Unit} {requests : List Http.Request}
    (hw : Way wire api node storage upload s r requests) {form : Http.Form} (ho : Offers wire upload s form) :
    requests.countP (fun request => request.canBeSent && request.method = .post) =
      if (api.uploadRequest node storage form).canBeSent then 1 else 0 := by
  have hposted : (api.uploadRequest node storage form).method = .post := rfl
  cases hw with
  | unopened he =>
    obtain ⟨file, bytes, hopen, -⟩ := ho
    rw [he] at hopen
    cases hopen
  | unreadable ho' he =>
    obtain ⟨file, bytes, hopen, hbytes, -⟩ := ho
    rw [ho'] at hopen
    cases hopen
    rw [he] at hbytes
    cases hbytes
  | refused ho' hf =>
    obtain rfl := ho.unique ho'
    simp [List.countP_cons, hposted]
  | @polled form' task t n r hs hr hd =>
    obtain rfl := ho.unique hs.1
    have hasked : (api.statusRequest node task).method = .get := rfl
    simp [List.countP_cons, List.countP_replicate, hposted, hasked]

end

/-- **What an upload reports of its task.** For whoever waits long enough, an upload succeeds just if the file opens
and can be read, its form is taken with the name of a task, some looks find the task running, and the next one finds
it stopped with the exit status `OK`. It has failed as an upload, with the task and its exit status, just if that look
finds another exit status or none. Every other fault is that of the file, or what the first answer means that does not
carry what it was asked for. It never returns just if every look finds the task running. One form is posted, and the
task is asked for once for each look, up to the one that decides. -/
theorem upload_reports_its_task (wire : Host Wire σ) (api : Api) (node storage : String) (upload : Upload) (s : σ) :
    ((∃ log, Returns wire api node storage upload s (.ok ()) log) ↔
      ∃ form task t n, ∃ status : TaskStatus, Submits wire api node storage upload s form task t ∧
        RunsFor wire api node task n t ∧ (Inquiry.task node task).Carries (look wire api node task n t) status ∧
        status.status = "stopped" ∧ status.exitStatus = some "OK") ∧
    (∀ why, (∃ log, Returns wire api node storage upload s (.error (.uploadFailed why)) log) ↔
      ∃ form task t n, ∃ status : TaskStatus, Submits wire api node storage upload s form task t ∧
        RunsFor wire api node task n t ∧ (Inquiry.task node task).Carries (look wire api node task n t) status ∧
        status.status = "stopped" ∧ status.exitStatus ≠ some "OK" ∧ why = .task task status.exitStatus) ∧
    (∀ task exitStatus, (Fault.uploadFailed (.task task exitStatus)).message =
      "upload failed: task " ++ task ++ " failed: " ++ exitStatus.getD "unknown exit status") ∧
    (∀ f, (∀ why, f ≠ .uploadFailed why) → ((∃ log, Returns wire api node storage upload s (.error f) log) ↔
      (∃ e, opening wire upload s = .error e ∧ f = .io e) ∨
      (∃ file e, opening wire upload s = .ok file ∧ file.content = .error e ∧
        f = .requestFailed ("upload of " ++ upload.fileName ++ " to datastore " ++ storage)
          (.unanswered (api.url ["nodes", node, "storage", storage, "upload"]).text)) ∨
      (∃ form, Offers wire upload s form ∧
        (Inquiry.upload node storage form).settle (posted wire api node storage upload s form) = .error f) ∨
      ∃ form task t n, Submits wire api node storage upload s form task t ∧ RunsFor wire api node task n t ∧
        (Inquiry.task node task).settle (look wire api node task n t) = .error f)) ∧
    ((∀ r log, ¬ Returns wire api node storage upload s r log) ↔
      ∃ form task t, Submits wire api node storage upload s form task t ∧ ∀ n, RunsFor wire api node task n t) ∧
    ∀ r log, Returns wire api node storage upload s r log →
      ∃ requests, Way wire api node storage upload s r requests ∧ Requested requests log ∧
        (∀ form, Offers wire upload s form → log.countP (fun e => WireCall.sends .post e.request) =
          if (api.uploadRequest node storage form).canBeSent then 1 else 0) ∧
        ((∀ e ∈ log, WireCall.redirects e.request e.reply = false) →
          log.filterMap (fun e => WireCall.exchange? e.request) =
            (requests.filter Http.Request.canBeSent).map (·.withCredentials)) := by
  refine ⟨?_, fun why => ?_, fun task exitStatus => ?_, fun f hf => ?_, never_returns_iff, fun r log h => ?_⟩
  · exact returns_iff.trans way_ok_iff
  · exact returns_iff.trans way_uploadFailed_iff
  · exact Fault.message_task task exitStatus
  · exact returns_iff.trans (way_fault_iff hf)
  · obtain ⟨requests, hw, hl⟩ := way_of_returns h
    refine ⟨requests, hw, hl, fun form ho => ?_, hl.exchanges⟩
    rw [hl.posts hw.postsForm, hw.posts ho]

end FilePlacement.Cluster
