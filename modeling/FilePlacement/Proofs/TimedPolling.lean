import FilePlacement.Proofs.ClusterFiles
import FilePlacement.Proofs.TaskOutcome
import FilePlacement.Proofs.TimeLimits

/-!
# Uploads within a time limit

On a wire where nothing takes time but the pauses between two looks at a task, an upload runs against its deadline
only while it polls. A look within the limit is cut off, or it is the last one, or a second later there is another one
(`Glance`). So a deadline that is some seconds ahead leaves time for that many looks and one more
(`leads_upload_inTime`); a task that runs at all of them has its upload cut off (`runInTime_upload_cut`), one that
stops before has its upload return as without a limit (`runInTime_upload_stopped`). How many looks the polling itself
would have patience for does not matter, as long as they reach behind the deadline (`runInTime_upload_congr`).
-/

namespace FilePlacement

namespace Cluster

variable {σ α : Type}

/-- How long the wire takes: nothing but a pause takes time. What becomes of a client program is not said. -/
def WireCall.takes : WireCall → Option Nat
  | .exchange _ | .openFile _ => some 0
  | .pause => some 1000
  | .startClient _ | .feedClient .. => none

/-- An inquiry is exchanges. -/
theorem Inquiry.asksOnly_ask {P : WireCall → Prop} (hP : ∀ r, P (.exchange r)) (q : Inquiry) (api : Api) :
    (q.ask api).AsksOnly P := by
  have hexchange : ∀ r, (Wire.exchange r).AsksOnly P := fun r => ⟨hP r, fun _ => trivial⟩
  have hsend : (q.send api).AsksOnly P := Http.asksOnly_send hexchange _
  rw [ask_eq]
  exact Program.AsksOnly.bind hsend fun _ => trivial

/-! ## Looking at a task in time -/

section
variable {wire : Host Wire σ} {clock : σ → Timekeeper} (hw : wire.KeepsTime clock WireCall.takes) {s : σ}

include hw

theorem Inquiry.clock_after (q : Inquiry) (api : Api) (s : σ) : clock (q.after wire api s) = clock s := by
  have hclock := hw.clock_run (q.asksOnly_ask (P := fun r => WireCall.takes r = some 0) (fun _ => rfl) api) s
  rw [ExceptT.run, Inquiry.run_ask] at hclock
  exact hclock

theorem Inquiry.runInTime_ask_eq (q : Inquiry) (api : Api) (hearly : (clock s).IsEarly) :
    Program.runInTime wire (q.ask api) s = (some (q.settle (q.answer wire api s)), q.after wire api s) := by
  have hasks : (q.ask api).AsksOnly fun r => (WireCall.takes r).isSome = true := q.asksOnly_ask (fun _ => rfl) api
  have hrun : Program.run wire (q.ask api).run s = _ := q.run_ask wire api s
  have heq := hw.punctual.runInTime_eq hasks (s := s)
  rw [hrun] at heq
  refine heq ?_
  rwa [q.clock_after hw api s]

/-- Each look is a second behind the one before. -/
theorem clock_afterLooks (api : Api) (node task : String) (n : Nat) (s : σ) :
    clock (afterLooks wire api node task n s) = (clock s).pass (n * 1000) := by
  induction n generalizing s with
  | zero => rfl
  | succ n ih =>
    have hpause := hw.clock_answer WireCall.pause 1000 ((Inquiry.task node task).after wire api s) rfl
    refine (ih _).trans ?_
    rw [hpause, Inquiry.clock_after hw, Timekeeper.pass_pass]
    congr 1
    omega

end

/-- What a look within the limit comes to, for whatever patience there is behind it: it is cut off, or in the second
behind it; it is the last one; or it tells of a running task, and the second behind it is over in time. -/
inductive Glance (wire : Host Wire σ) (clock : σ → Timekeeper) (api : Api) (node task : String) (s : σ) : Prop
  | cut {u} (h : ∀ patience looks,
      Program.runInTime wire (api.pollTask node task patience (looks + 1)) s = (none, u))
  | last {r u} (hno : ¬ TellsRunning node task (look wire api node task 0 s)) (h : ∀ patience looks,
      Program.runInTime wire (api.pollTask node task patience (looks + 1)) s = (some r, u))
  | again (hr : TellsRunning node task (look wire api node task 0 s)) (hclock : ¬ ((clock s).pass 1000).IsLate)
      (h : ∀ patience looks, Program.runInTime wire (api.pollTask node task patience (looks + 1)) s =
        Program.runInTime wire (api.pollTask node task patience looks) (afterLooks wire api node task 1 s))

theorem runInTime_pause (wire : Host Wire σ) (s : σ) : Program.runInTime wire Wire.pause s =
    ((wire.answerInTime WireCall.pause s).1.map .ok, (wire.answerInTime WireCall.pause s).2) := by
  have hlift := Task.runInTime_lift wire (Program.request (I := Wire) WireCall.pause) s
  have hrequest := Program.runInTime_request (I := Wire) wire WireCall.pause s
  rcases hpause : wire.answerInTime WireCall.pause s with ⟨_ | reply, t⟩
  · exact hlift.trans (by rw [hrequest.trans hpause]; rfl)
  · exact hlift.trans (by rw [hrequest.trans hpause]; rfl)

/-- One look of polling within the limit. -/
theorem runInTime_pollTask_succ (wire : Host Wire σ) (api : Api) (node task : String) (patience : Time.Span)
    (looks : Nat) (s : σ) : Program.runInTime wire (api.pollTask node task patience (looks + 1)) s =
      match Program.runInTime wire ((Inquiry.task node task).ask api) s with
      | (some (.ok status), u) =>
        if TaskStatus.isRunning status then
          match wire.answerInTime WireCall.pause u with
          | (some _, v) => Program.runInTime wire (api.pollTask node task patience looks) v
          | (none, v) => (none, v)
        else
          (some (if TaskStatus.succeeded status then .ok ()
            else .error (.uploadFailed (.task task (TaskStatus.exitStatus status)))), u)
      | (some (.error f), u) => (some (.error f), u)
      | (none, u) => (none, u) := by
  refine (Task.runInTime_bind wire ((Inquiry.task node task).ask api) _ s).trans ?_
  rcases Program.runInTime wire ((Inquiry.task node task).ask api) s with ⟨_ | f | status, u⟩
  · rfl
  · rfl
  · dsimp only
    cases TaskStatus.isRunning status with
    | true =>
      simp only [if_true]
      refine (Task.runInTime_bind wire Wire.pause (fun _ => api.pollTask node task patience looks) u).trans ?_
      rw [runInTime_pause]
      rcases wire.answerInTime WireCall.pause u with ⟨_ | reply, v⟩ <;> rfl
    | false =>
      simp only [Bool.false_eq_true, if_false]
      cases TaskStatus.succeeded status <;> rfl

section
variable {wire : Host Wire σ} {clock : σ → Timekeeper} (hw : wire.KeepsTime clock WireCall.takes)

include hw

theorem glance (api : Api) (node task : String) (s : σ) : Glance wire clock api node task s := by
  have hpoll := fun patience looks => runInTime_pollTask_succ wire api node task patience looks s
  rcases hask : Program.runInTime wire ((Inquiry.task node task).ask api) s with ⟨_ | r, u⟩ <;> rw [hask] at hpoll
  · exact .cut hpoll
  · have hasks : ((Inquiry.task node task).ask api).AsksOnly fun r => (WireCall.takes r).isSome = true :=
      Inquiry.asksOnly_ask (fun _ => rfl) _ api
    have hrun := hw.run_of_runInTime hasks hask
    rw [ExceptT.run, Inquiry.run_ask] at hrun
    obtain ⟨hsettle, rfl⟩ := Prod.mk.inj hrun
    cases r with
    | error f =>
      refine .last ?_ hpoll
      rintro ⟨status, hc, -⟩
      exact absurd ((Inquiry.settle_eq_ok_iff.2 hc).symm.trans hsettle) nofun
    | ok status =>
      have hc := Inquiry.settle_eq_ok_iff.1 hsettle
      change TaskStatus at status
      by_cases hs : status.status = "stopped"
      · have hstopped : status.isRunning = false := by simpa [TaskStatus.isRunning] using hs
        simp only [hstopped, Bool.false_eq_true, if_false] at hpoll
        refine .last ?_ hpoll
        rintro ⟨status', hc', hs'⟩
        obtain rfl : status = status' := Except.ok.inj (hsettle.symm.trans (Inquiry.settle_eq_ok_iff.2 hc'))
        exact hs' hs
      · have hrunning : status.isRunning = true := by simpa [TaskStatus.isRunning] using hs
        simp only [hrunning, if_true] at hpoll
        rcases hp : wire.answerInTime WireCall.pause ((Inquiry.task node task).after wire api s) with ⟨_ | reply, v⟩
        · rw [hp] at hpoll
          exact .cut hpoll
        · rw [hp] at hpoll
          have hanswer := hw.answer_eq WireCall.pause 1000 _ reply v rfl hp
          have hlate : ¬ ((clock s).pass 1000).IsLate := by
            intro hlate
            rw [← (Inquiry.task node task).clock_after hw api s] at hlate
            have hnone := hw.late WireCall.pause 1000 _ rfl hlate
            rw [hp] at hnone
            cases hnone
          obtain rfl : afterLooks wire api node task 1 s = v := congrArg Prod.snd hanswer
          exact .again ⟨status, hc, hs⟩ hlate hpoll

/-- Where every look finds the task running, polling is cut off in the second that would go on behind the deadline. -/
theorem runInTime_pollTask_cut {api : Api} {node task : String} {d k looks : Nat} {s : σ}
    (hr : RunsFor wire api node task k s) (hd : (clock s).deadline = some d) (hnow : (clock s).now ≤ d)
    (hk : d < (clock s).now + k * 1000) (hlooks : k ≤ looks) (patience : Time.Span) :
    (Program.runInTime wire (api.pollTask node task patience looks) s).1 = none := by
  induction k generalizing s looks with
  | zero => omega
  | succ k ih =>
    obtain ⟨looks, rfl⟩ : ∃ more, looks = more + 1 := ⟨looks - 1, by omega⟩
    obtain ⟨hfirst, hrest⟩ := runsFor_succ.1 hr
    have hclock := clock_afterLooks hw api node task 1 s
    cases glance hw api node task s with
    | cut h => rw [h]
    | last hno h => exact absurd hfirst hno
    | again _ hlate h =>
      rw [Timekeeper.isLate_pass_iff hd] at hlate
      rw [h]
      refine ih hrest ?_ ?_ ?_ ?_
      · rw [hclock]
        exact hd
      · rw [hclock, Timekeeper.pass_now]
        omega
      · rw [hclock, Timekeeper.pass_now]
        omega
      · omega

/-- How many looks polling has patience for does not matter, as long as they reach behind the deadline. -/
theorem runInTime_pollTask_congr {api : Api} {node task : String} {d looks looks' : Nat} {s : σ}
    (hd : (clock s).deadline = some d) (hnow : (clock s).now ≤ d) (hl : d < (clock s).now + looks * 1000)
    (hl' : d < (clock s).now + looks' * 1000) (patience patience' : Time.Span) :
    Program.runInTime wire (api.pollTask node task patience looks) s =
      Program.runInTime wire (api.pollTask node task patience' looks') s := by
  induction looks generalizing s looks' with
  | zero => omega
  | succ looks ih =>
    obtain ⟨looks', rfl⟩ : ∃ more, looks' = more + 1 := ⟨looks' - 1, by omega⟩
    have hclock := clock_afterLooks hw api node task 1 s
    cases glance hw api node task s with
    | cut h => rw [h, h]
    | last _ h => rw [h, h]
    | again _ hlate h =>
      rw [Timekeeper.isLate_pass_iff hd] at hlate
      rw [h, h]
      refine ih ?_ ?_ ?_ ?_
      · rw [hclock]
        exact hd
      · rw [hclock, Timekeeper.pass_now]
        omega
      · rw [hclock, Timekeeper.pass_now]
        omega
      · rw [hclock, Timekeeper.pass_now]
        omega

/-- Before a deadline that many seconds ahead there is time for that many looks and one more. -/
theorem leads_pollTask_inTime {requests : List Http.Request} {t : σ × List (Entry Wire σ)}
    (hl : Requested requests t.2) {d n : Nat} (hd : (clock t.1).deadline = some d)
    (hn : d ≤ (clock t.1).now + n * 1000) (api : Api) (node task : String) (patience : Time.Span) (looks : Nat) :
    (api.pollTask node task patience looks).Leads wire.logged (fun u => ∃ k ≤ n + 1,
      Requested (requests ++ List.replicate k (api.statusRequest node task)) u.2) t := by
  induction looks generalizing requests t n with
  | zero => exact Task.wp_throw.2 ⟨0, Nat.zero_le _, by simpa using hl⟩
  | succ looks ih =>
    have hlook := (Inquiry.task node task).leads_ask api wire hl
    have hclock := hw.logged.wp_clock (t := (Inquiry.task node task).ask api) (Inquiry.asksOnly_ask (fun _ => rfl) _ api)
      (s := t) rfl
    have hone : ∀ u : σ × List (Entry Wire σ), Requested (requests ++ [api.statusRequest node task]) u.2 →
        ∃ k ≤ n + 1, Requested (requests ++ List.replicate k (api.statusRequest node task)) u.2 :=
      fun u hu => ⟨1, Nat.le_add_left 1 n, hu⟩
    refine Task.wp_bind.2 (Task.wp_mono (Task.wp_and hlook hclock) (fun status u hu => ?_) (fun _ u hu => hone u hu.1)
      fun u hu => hone u hu.1)
    obtain ⟨hu, hnow⟩ := hu
    split
    · refine Task.wp_bind.2 (Task.wp_lift.2 (Program.wp_ask.2 ⟨fun reply v hv => ?_, fun v hv => ?_⟩))
      · have hanswer := hw.logged.answer_eq WireCall.pause 1000 u reply v rfl hv
        have hlate : ¬ ((clock u.1).pass 1000).IsLate := by
          intro hlate
          have hnone := hw.logged.late WireCall.pause 1000 u rfl hlate
          rw [hv] at hnone
          cases hnone
        have hpassed := hw.logged.clock_answer WireCall.pause 1000 u rfl
        rw [hanswer, hnow] at hpassed
        rw [hnow, Timekeeper.isLate_pass_iff hd] at hlate
        have hv' : Requested (requests ++ [api.statusRequest node task]) v.2 := by
          obtain rfl : _ = v := congrArg Prod.snd hv
          exact hu.other rfl
        cases n with
        | zero => omega
        | succ n =>
          have hrest : d ≤ (clock v.1).now + n * 1000 := by
            rw [hpassed, Timekeeper.pass_now]
            omega
          refine Task.wp_mono (ih hv' (by rw [hpassed]; exact hd) hrest) (fun _ w hw' => ?_) (fun _ w hw' => ?_)
            fun w hw' => ?_ <;>
          · obtain ⟨k, hk, hw'⟩ := hw'
            refine ⟨k + 1, by omega, ?_⟩
            rwa [List.append_assoc, List.singleton_append, ← List.replicate_succ] at hw'
      · obtain rfl : _ = v := congrArg Prod.snd hv
        exact hone _ (hu.other rfl)
    · split
      · exact Task.wp_pure.2 (hone u hu)
      · exact Task.wp_throw.2 (hone u hu)

/-! ## Uploading in time -/

theorem clock_of_runInTime {t : Task Wire α} (ht : t.AsksOnly fun r => WireCall.takes r = some 0) {s u : σ} {a : α}
    (hrun : Program.runInTime wire t s = (some (.ok a), u)) : clock u = clock s :=
  Task.of_runInTime_ok (Q := fun _ v => clock v = clock s) (hw.wp_clock ht rfl) hrun

end

theorem asksOnly_openFile (path : String) : (Wire.openFile path).AsksOnly fun r => WireCall.takes r = some 0 :=
  Task.AsksOnly.ofIo ⟨rfl, fun _ => trivial⟩

theorem asksOnly_upload (api : Api) (node storage : String) (upload : Upload) (patience : Time.Span) :
    (api.upload node storage upload patience).AsksOnly fun r => (WireCall.takes r).isSome = true := by
  refine (Api.noClient_upload node storage upload patience).mono fun r hr => ?_
  cases r <;> first | rfl | cases hr

section
variable {wire : Host Wire σ} {clock : σ → Timekeeper} (hw : wire.KeepsTime clock WireCall.takes) {api : Api}
  {node storage : String} {upload : Upload} {s : σ}

include hw

theorem clock_submitted {form : Http.Form} {task : String} {t : σ}
    (hs : Submits wire api node storage upload s form task t) : clock t = clock s := by
  obtain ⟨-, -, rfl⟩ := hs
  exact ((Inquiry.upload node storage form).clock_after hw api _).trans (hw.clock_answer (.openFile _) 0 s rfl)

/-- Before its deadline, an upload gets as far as its task. -/
theorem runInTime_upload_submitted (hearly : (clock s).IsEarly) {form : Http.Form} {task : String} {t : σ}
    (hs : Submits wire api node storage upload s form task t) (patience : Time.Span) :
    Program.runInTime wire (api.upload node storage upload patience) s =
      Program.runInTime wire (api.pollTask node task patience (Api.looksWithin patience)) t := by
  obtain ⟨⟨file, bytes, hopen, hbytes, rfl⟩, hc, rfl⟩ := hs
  have hrun : Program.run wire (Wire.openFile upload.localPath) s = (.ok file, afterOpening wire upload s) :=
    Prod.ext (congrArg (Except.mapError Fault.io) hopen) rfl
  have hclock : clock (afterOpening wire upload s) = clock s := hw.clock_answer (.openFile _) 0 s rfl
  have hfile : Program.runInTime wire (Wire.openFile upload.localPath) s =
      (some (.ok file), afterOpening wire upload s) := by
    have htimed : (Wire.openFile upload.localPath).AsksOnly fun r => (WireCall.takes r).isSome = true :=
      (asksOnly_openFile _).mono fun r hr => by rw [hr]; rfl
    have heq := hw.punctual.runInTime_eq htimed (s := s)
    rw [ExceptT.run, hrun] at heq
    exact heq (hclock ▸ hearly)
  have hpost := (Inquiry.upload node storage (Api.uploadForm upload bytes)).runInTime_ask_eq hw api (hclock ▸ hearly)
  have hsettle : (Inquiry.upload node storage (Api.uploadForm upload bytes)).settle
      ((Inquiry.upload node storage (Api.uploadForm upload bytes)).answer wire api (afterOpening wire upload s)) =
      .ok task := Inquiry.settle_eq_ok_iff.2 hc
  rw [hsettle] at hpost
  refine (Task.runInTime_bind_ok hfile _).trans ?_
  dsimp only
  rw [hbytes]
  exact Task.runInTime_bind_ok hpost _

/-- Where every look finds its task running, an upload is cut off. -/
theorem runInTime_upload_cut {d k : Nat} (hd : (clock s).deadline = some d) (hnow : (clock s).now < d)
    {form : Http.Form} {task : String} {t : σ} (hs : Submits wire api node storage upload s form task t)
    (hr : RunsFor wire api node task k t) (hk : d < (clock s).now + k * 1000) {patience : Time.Span}
    (hlooks : k ≤ Api.looksWithin patience) :
    (Program.runInTime wire (api.upload node storage upload patience) s).1 = none := by
  have hearly : (clock s).IsEarly := (Timekeeper.isEarly_pass_iff hd 0).2 hnow
  have hclock := clock_submitted hw hs
  rw [runInTime_upload_submitted hw hearly hs]
  exact runInTime_pollTask_cut hw hr (hclock ▸ hd) (hclock ▸ Nat.le_of_lt hnow) (hclock ▸ hk) hlooks patience

/-- Where its task stops in time, an upload returns what the task has come to, whatever patience there is. -/
theorem runInTime_upload_stopped {n : Nat} (hearly : ((clock s).pass (n * 1000)).IsEarly) {form : Http.Form}
    {task : String} {t : σ} (hs : Submits wire api node storage upload s form task t)
    (hr : RunsFor wire api node task n t) {r : Except Fault Unit}
    (hd : Decides node task (look wire api node task n t) r) :
    ∃ u, clock u = (clock s).pass (n * 1000) ∧ ∀ patience : Time.Span, n < Api.looksWithin patience →
      Program.run wire (api.upload node storage upload patience) s = (r, u) ∧
      Program.runInTime wire (api.upload node storage upload patience) s = (some r, u) := by
  obtain ⟨log, hlog, hsubmitted⟩ := run_submitted hs
  obtain ⟨now, -, hpoll⟩ := run_pollTask_ends hlog hr hd
  have hclock : clock ((Inquiry.task node task).after wire api (afterLooks wire api node task n t)) =
      (clock s).pass (n * 1000) := by
    rw [Inquiry.clock_after hw, clock_afterLooks hw, clock_submitted hw hs]
  refine ⟨_, hclock, fun patience hn => ?_⟩
  have hrun := Program.run_agrees (logged_agrees wire) (api.upload node storage upload patience).run (s, [])
  rw [ExceptT.run, hsubmitted, hpoll patience _ hn] at hrun
  have heq := hw.punctual.runInTime_eq (asksOnly_upload api node storage upload patience) (s := s)
  rw [ExceptT.run, hrun] at heq
  exact ⟨hrun, heq (hclock ▸ hearly)⟩

/-- How long an upload would have patience for its task does not matter, as long as that reaches behind the deadline. -/
theorem runInTime_upload_congr {d : Nat} (hd : (clock s).deadline = some d) (hnow : (clock s).now ≤ d)
    {patience patience' : Time.Span} (hp : d < (clock s).now + Api.looksWithin patience * 1000)
    (hp' : d < (clock s).now + Api.looksWithin patience' * 1000) :
    Program.runInTime wire (api.upload node storage upload patience) s =
      Program.runInTime wire (api.upload node storage upload patience') s := by
  refine Task.runInTime_bind_congr fun file t ht => ?_
  have hopened := clock_of_runInTime hw (asksOnly_openFile _) ht
  cases file.content with
  | error e => rfl
  | ok bytes =>
    refine Task.runInTime_bind_congr fun task u hu => ?_
    have hposted : clock u = clock t := clock_of_runInTime hw (t := (Inquiry.upload node storage
      (Api.uploadForm upload bytes)).ask api) (Inquiry.asksOnly_ask (fun _ => rfl) _ api) hu
    rw [hopened] at hposted
    rw [← hposted] at hd hnow hp hp'
    exact runInTime_pollTask_congr hw hd hnow hp hp' patience patience'

end

/-! ## What is asked within a limit -/

/-- The question how a task does. -/
def Inquiry.isTask : Inquiry → Bool
  | task .. => true
  | _ => false

/-- What has been exchanged are the requests of inquiries, of which so many at most ask how a task does. -/
def Asked (api : Api) (most : Nat) (log : List (Entry Wire σ)) : Prop :=
  ∃ qs : List Inquiry, Requested (qs.map (·.request api)) log ∧ qs.countP Inquiry.isTask ≤ most

theorem Asked.mono {api : Api} {a b : Nat} {log : List (Entry Wire σ)} (hl : Asked api a log) (hab : a ≤ b) :
    Asked api b log := by
  obtain ⟨qs, hqs, hcount⟩ := hl
  exact ⟨qs, hqs, Nat.le_trans hcount hab⟩

/-- A deadline that is some seconds ahead leaves an upload time for that many looks and one more. -/
theorem leads_upload_inTime {wire : Host Wire σ} {clock : σ → Timekeeper} (hw : wire.KeepsTime clock WireCall.takes)
    (api : Api) (node storage : String) (upload : Upload) (patience : Time.Span) {t : σ × List (Entry Wire σ)}
    (ht : Asked api 0 t.2) {d n : Nat} (hd : (clock t.1).deadline = some d) (hn : d ≤ (clock t.1).now + n * 1000) :
    (api.upload node storage upload patience).Leads wire.logged (fun u => Asked api (n + 1) u.2) t := by
  obtain ⟨qs, hqs, hcount⟩ := ht
  refine leads_upload_of (J := fun u => clock u.1 = clock t.1) api node storage upload patience hqs
    (hw.logged.wp_clock (asksOnly_openFile _) rfl)
    (fun form u hu => hw.logged.wp_clock (Inquiry.asksOnly_ask (fun _ => rfl) _ api) hu)
    (fun u hu => ⟨qs, hu, Nat.le_trans hcount (Nat.zero_le _)⟩) (fun form u hu => ?_) fun form task u hclock hu => ?_
  · refine ⟨qs ++ [.upload node storage form], by simpa using hu, ?_⟩
    rw [List.countP_append]
    exact Nat.le_trans (Nat.add_le_add_right hcount _) (Nat.zero_le _)
  · rw [← hclock] at hd hn
    have hled := leads_pollTask_inTime hw hu hd hn api node task patience (Api.looksWithin patience)
    refine Task.wp_mono hled (fun _ v hv => ?_) (fun _ v hv => ?_) fun v hv => ?_ <;>
    · obtain ⟨k, hk, hv⟩ := hv
      refine ⟨qs ++ .upload node storage form :: List.replicate k (.task node task),
        by simpa [Api.statusRequest] using hv, ?_⟩
      rw [List.countP_append, List.countP_cons, List.countP_replicate]
      simp only [Inquiry.isTask, Bool.false_eq_true, if_false, if_true]
      omega

end Cluster

/-! ## One machine -/

namespace World

/-- Everything but a pause is answered at once, or not at all when the time is over. -/
theorem answerInTime_wire {r : Cluster.WireCall} (hr : r ≠ .pause) (w : World) :
    wire.answerInTime r w =
      if w.time.isOver then (none, w) else (some (wire.answer r w).1, (wire.answer r w).2) := by
  cases r with
  | pause => exact absurd rfl hr
  | _ => rfl

/-- A pause takes a second. -/
theorem answerInTime_pause (w : World) :
    wire.answerInTime Cluster.WireCall.pause w = (some (), { w with time := w.time.pass 1000 }) ∧
        ¬ (w.time.pass 1000).IsLate ∨
      (wire.answerInTime Cluster.WireCall.pause w).1 = none ∧ (w.time.pass 1000).IsLate := by
  unfold wire
  dsimp only
  rcases w.time.passInTime_eq 1000 with ⟨heq, hlate⟩ | ⟨heq, hlate⟩
  · refine .inl ⟨?_, hlate⟩
    simp only [heq, if_true]
    rfl
  · refine .inr ⟨?_, hlate⟩
    simp [heq]

theorem takes_eq_zero {r : Cluster.WireCall} (hr : r ≠ .pause) {ms : Nat} (ht : r.takes = some ms) : ms = 0 := by
  cases r with
  | pause => exact absurd rfl hr
  | _ => cases ht <;> rfl

/-- On one machine nothing takes time but the pauses. -/
theorem keepsTime_wire : wire.KeepsTime time Cluster.WireCall.takes where
  clock_answer r ms w hr := by
    cases r <;> cases hr <;> rfl
  answer_eq r ms w reply u hr heq := by
    by_cases hpause : r = .pause
    · subst hpause
      rcases w.answerInTime_pause with ⟨hanswer, -⟩ | ⟨hnone, -⟩
      · rw [hanswer] at heq
        cases heq
        rfl
      · rw [heq] at hnone
        cases hnone
    · rw [answerInTime_wire hpause] at heq
      split at heq
      · cases heq
      · cases heq
        rfl
  early r ms w hr hearly := by
    by_cases hpause : r = .pause
    · subst hpause
      cases hr
      rcases w.answerInTime_pause with ⟨hanswer, -⟩ | ⟨-, d, hd, hlate⟩
      · rw [hanswer]
        exact nofun
      · have hbefore := hearly d hd
        omega
    · obtain rfl := takes_eq_zero hpause hr
      rw [Timekeeper.pass_zero] at hearly
      rw [answerInTime_wire hpause, Timekeeper.isOver_of_isEarly hearly]
      exact nofun
  late r ms w hr hlate := by
    by_cases hpause : r = .pause
    · subst hpause
      cases hr
      rcases w.answerInTime_pause with ⟨-, hno⟩ | ⟨hnone, -⟩
      · exact absurd hlate hno
      · exact hnone
    · obtain rfl := takes_eq_zero hpause hr
      rw [Timekeeper.pass_zero] at hlate
      rw [answerInTime_wire hpause, Timekeeper.isOver_of_isLate hlate]
      rfl
  act d w := rfl

theorem time_answerLocal (w : World) (call : LocalCall) : (w.answerLocal call).2.time = w.time := by
  cases call with
  | makeTemporary dir stem =>
    change (w.makeTemporary dir stem).2.time = w.time
    unfold makeTemporary
    dsimp only
    split <;> rfl
  | append path bytes =>
    change (w.append path bytes).2.time = w.time
    unfold append
    split <;> rfl
  | _ => rfl

theorem time_discard (w : World) (path : String) : (w.discard path).time = w.time := by
  unfold discard
  split <;> rfl

/-- Local requests take no time. -/
theorem keepsTime_surroundings : surroundings.KeepsTime time fun _ => some 0 where
  clock_answer r ms w hr := by
    cases hr
    exact w.time_answerLocal r
  answer_eq r ms w reply u hr heq := by
    unfold surroundings at heq ⊢
    dsimp only at heq ⊢
    split at heq
    · cases heq
    · cases heq
      rfl
  early r ms w hr hearly := by
    cases hr
    have hover := Timekeeper.isOver_of_isEarly hearly
    rw [Timekeeper.pass_zero] at hover
    unfold surroundings
    simp only [hover, Bool.false_eq_true, if_false]
    exact nofun
  late r ms w hr hlate := by
    cases hr
    have hover := Timekeeper.isOver_of_isLate hlate
    rw [Timekeeper.pass_zero] at hover
    unfold surroundings
    simp only [hover, if_true]
  act d w := by
    obtain ⟨path⟩ := d
    exact w.time_discard path

end World

end FilePlacement
