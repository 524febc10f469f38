import FilePlacement.Proofs.Program
import FilePlacement.Reconcile

/-!
# Logs

A host that writes down every request (`Host.logged`) with what came back and the states around it.
Programs run on it as they run without a log (`logged_agrees`, `create_logged`), so what a log says
of a run is true of the run.

The entries of a log are genuine, each is what the host does on the state before it, and they are
linked: of a view of the states that deeds do not change, each entry finds what the one before it
has left (`linked_runInTime`, `create_linked`). A view that no entry of a log changes is therefore
the same at the end as at the beginning (`Linked.keeps`).
-/

namespace FilePlacement

/-- A request of a run: nothing came back if the run was cut off waiting for it. -/
structure Entry (I : Interface) (σ : Type) where
  request : I.Request
  reply : Option (I.Reply request)
  before : σ
  after : σ

namespace Entry

variable {I : Interface} {σ : Type}

/-- A request that is given all the time it wants. -/
def asked (h : Host I σ) (r : I.Request) (s : σ) : Entry I σ := ⟨r, some (h.answer r s).1, s, (h.answer r s).2⟩

/-- A request within the limit. -/
def askedInTime (h : Host I σ) (r : I.Request) (s : σ) : Entry I σ :=
  ⟨r, (h.answerInTime r s).1, s, (h.answerInTime r s).2⟩

/-- The entry is what the host does on the state before it. -/
def Genuine (h : Host I σ) (e : Entry I σ) : Prop :=
  e = askedInTime h e.request e.before ∨ e = asked h e.request e.before

theorem genuine_asked (h : Host I σ) (r : I.Request) (s : σ) : (asked h r s).Genuine h := Or.inr rfl

theorem genuine_askedInTime (h : Host I σ) (r : I.Request) (s : σ) : (askedInTime h r s).Genuine h := Or.inl rfl

end Entry

/-- The same host with a log, the newest entry last. -/
def Host.logged {I : Interface} {σ : Type} (h : Host I σ) : Host I (σ × List (Entry I σ)) where
  answer r s := ((h.answer r s.1).1, (h.answer r s.1).2, s.2 ++ [.asked h r s.1])
  answerInTime r s := ((h.answerInTime r s.1).1, (h.answerInTime r s.1).2, s.2 ++ [.askedInTime h r s.1])
  act d s := (h.act d s.1, s.2)
  setLimit limit s := (h.setLimit limit s.1, s.2)

section
variable {I : Interface} {α β σ : Type} {h : Host I σ}

theorem logged_agrees (h : Host I σ) : h.logged.Agrees h Prod.fst where
  answer _ _ := rfl
  answerInTime _ _ := rfl
  act _ _ := rfl
  setLimit _ _ := rfl

theorem patient_logged (h : Host I σ) : h.patient.logged = h.logged.patient := rfl

/-- Deeds are not written down. -/
theorem acts_logged (ds : List I.Deed) (s : σ × List (Entry I σ)) :
    ds.foldl (fun s d => h.logged.act d s) s = (ds.foldl (fun s d => h.act d s) s.1, s.2) := by
  induction ds generalizing s with
  | nil => rfl
  | cons d ds ih => exact ih _

/-- A logged request is followed by its reply and its entry. -/
theorem Program.wp_request_logged {r : I.Request} {s : σ} {log : List (Entry I σ)}
    {Q : I.Reply r → σ × List (Entry I σ) → Prop} {C : σ × List (Entry I σ) → Prop} :
    (Program.request r).wp h.logged Q C (s, log) ↔
      (∀ reply, (Entry.askedInTime h r s).reply = some reply →
        Q reply ((Entry.askedInTime h r s).after, log ++ [.askedInTime h r s])) ∧
      ((Entry.askedInTime h r s).reply = none → C ((Entry.askedInTime h r s).after, log ++ [.askedInTime h r s])) := by
  refine Program.wp_ask.trans ?_
  simp only [Host.logged, Entry.askedInTime, Prod.mk.injEq, and_imp]
  constructor
  · rintro ⟨hsome, hnone⟩
    exact ⟨fun reply hr => hsome reply _ hr rfl, fun hr => hnone _ hr rfl⟩
  · rintro ⟨hsome, hnone⟩
    refine ⟨?_, ?_⟩
    · rintro reply _ hr rfl
      exact hsome reply hr
    · rintro _ hr rfl
      exact hnone hr

/-! ## Linked entries -/

/-- Each entry is genuine and finds of the view `v` what the one before it has left, from `s` up to
`t`. -/
def Linked (h : Host I σ) (v : σ → β) : σ → List (Entry I σ) → σ → Prop
  | s, [], t => v s = v t
  | s, e :: log, t => v s = v e.before ∧ e.Genuine h ∧ Linked h v e.after log t

variable {v : σ → β} {s t u : σ} {log new : List (Entry I σ)}

theorem Linked.of_eq (hs : v u = v s) (hl : Linked h v s log t) : Linked h v u log t := by
  cases log with
  | nil => exact hs.trans hl
  | cons e log => exact ⟨hs.trans hl.1, hl.2⟩

theorem linked_append : Linked h v s (log ++ new) t ↔ ∃ m, Linked h v s log m ∧ Linked h v m new t := by
  induction log generalizing s with
  | nil => exact ⟨fun hl => ⟨s, rfl, hl⟩, fun ⟨m, hm, hl⟩ => hl.of_eq hm⟩
  | cons e log ih =>
    simp only [List.cons_append, Linked, ih]
    exact ⟨fun ⟨h1, h2, m, h3, h4⟩ => ⟨m, ⟨h1, h2, h3⟩, h4⟩, fun ⟨m, ⟨h1, h2, h3⟩, h4⟩ => ⟨h1, h2, m, h3, h4⟩⟩

theorem Linked.genuine (hl : Linked h v s log t) : ∀ e ∈ log, e.Genuine h := by
  induction log generalizing s with
  | nil => simp
  | cons e log ih =>
    intro x hx
    rcases List.mem_cons.1 hx with rfl | hx
    · exact hl.2.1
    · exact ih hl.2.2 x hx

/-- What no entry changes is the same at the end. -/
theorem Linked.keeps (hl : Linked h v s log t) (hk : ∀ e ∈ log, e.Genuine h → v e.after = v e.before) :
    v t = v s := by
  induction log generalizing s with
  | nil => exact hl.symm
  | cons e log ih =>
    obtain ⟨hs, hg, hrest⟩ := hl
    have h1 := ih hrest fun x hx => hk x (List.mem_cons_of_mem e hx)
    rw [h1, hk e List.mem_cons_self hg, hs]

/-- A run writes linked entries behind those that are there. -/
theorem linked_runInTime (hv : ∀ d s, v (h.act d s) = v s) (p : Program I α) (s : σ) (log : List (Entry I σ)) :
    ∃ new, (p.runInTime h.logged (s, log)).2.2 = log ++ new ∧
      Linked h v s new (p.runInTime h.logged (s, log)).2.1 := by
  have hacts : ∀ (ds : List I.Deed) (t : σ), v (ds.foldl (fun s d => h.act d s) t) = v t := by
    intro ds
    induction ds with
    | nil => exact fun t => rfl
    | cons d ds ih => exact fun t => (ih (h.act d t)).trans (hv d t)
  induction p generalizing s log with
  | done a => exact ⟨[], by simp [Program.runInTime], rfl⟩
  | ask r due next ih =>
    have hgen := Entry.genuine_askedInTime h r s
    rcases heq : h.answerInTime r s with ⟨_ | reply, m⟩
    · have hrun : (Program.ask r due next).runInTime h.logged (s, log) =
          (none, due.foldl (fun s d => h.logged.act d s) (m, log ++ [.askedInTime h r s])) := by
        simp [Program.runInTime, Host.logged, heq]
      rw [hrun, acts_logged]
      refine ⟨[.askedInTime h r s], rfl, rfl, hgen, ?_⟩
      simpa [Entry.askedInTime, heq, Linked] using (hacts due m).symm
    · obtain ⟨new, hlog, hl⟩ := ih reply m (log ++ [.askedInTime h r s])
      refine ⟨.askedInTime h r s :: new, ?_, rfl, hgen, ?_⟩
      · simpa [Program.runInTime, Host.logged, heq] using hlog
      · simpa [Program.runInTime, Host.logged, heq, Entry.askedInTime] using hl
  | act d next ih =>
    obtain ⟨new, hlog, hl⟩ := ih (h.act d s) log
    exact ⟨new, hlog, hl.of_eq (hv d s).symm⟩

end

/-! ## Creating with a log -/

namespace Reconciler

variable {σ τ : Type} {h : Host Reconciling σ} {k : Host Reconciling τ} {f : σ → τ}

/-- The request that takes an upload back. -/
def deletion (spec : Spec) (v : VolumeId) : Call := .backend (.deleteFile spec.nodeName spec.datastoreId v.format)

theorem rollBack_result (h : Host Reconciling σ) (spec : Spec) (p : Placed) (fault : Fault) (s : σ) :
    (rollBack h spec p fault s).result = .error fault := by
  unfold rollBack
  rcases h.answer (Call.backend (.deleteFile spec.nodeName spec.datastoreId p.volume.format)) s with ⟨_ | _, t⟩ <;> rfl

theorem rollBack_host (h : Host Reconciling σ) (spec : Spec) (p : Placed) (fault : Fault) (s : σ) :
    (rollBack h spec p fault s).host = (h.answer (deletion spec p.volume) s).2 := by
  unfold rollBack deletion
  rcases h.answer (Call.backend (.deleteFile spec.nodeName spec.datastoreId p.volume.format)) s with ⟨_ | _, t⟩ <;> rfl

theorem rollBack_agrees (ha : h.Agrees k f) (spec : Spec) (p : Placed) (fault : Fault) (s : σ) :
    rollBack k spec p fault (f s) =
      ⟨(rollBack h spec p fault s).result, (rollBack h spec p fault s).events, f (rollBack h spec p fault s).host⟩ := by
  have hk := ha.answer (Call.backend (.deleteFile spec.nodeName spec.datastoreId p.volume.format)) s
  unfold rollBack
  rw [hk]
  rcases h.answer (Call.backend (.deleteFile spec.nodeName spec.datastoreId p.volume.format)) s with ⟨_ | _, t⟩ <;> rfl

theorem create_agrees (ha : h.Agrees k f) (tmpDir : String) (spec : Spec) (s : σ) :
    create k tmpDir spec (f s) = ⟨(create h tmpDir spec s).result, (create h tmpDir spec s).events,
      f (create h tmpDir spec s).host⟩ := by
  unfold create
  rw [ha.setLimit, Program.runInTime_agrees ha]
  rcases (place tmpDir spec).runInTime h (h.setLimit spec.timeout s) with ⟨_ | fault | placed, t⟩
  · rfl
  · rfl
  · dsimp only
    rw [Program.runInTime_agrees ha]
    rcases (readBack spec placed).runInTime h t with ⟨_ | fault | state, u⟩
    · exact rollBack_agrees ha spec placed _ u
    · exact rollBack_agrees ha spec placed _ u
    · rfl

/-- What creating asks for. -/
def createLog (h : Host Reconciling σ) (tmpDir : String) (spec : Spec) (s : σ) : List (Entry Reconciling σ) :=
  (create h.logged tmpDir spec (s, [])).host.2

/-- Creating with a log gives what it gives without one. -/
theorem create_logged (h : Host Reconciling σ) (tmpDir : String) (spec : Spec) (s : σ) :
    create h tmpDir spec s = ⟨(create h.logged tmpDir spec (s, [])).result,
      (create h.logged tmpDir spec (s, [])).events, (create h.logged tmpDir spec (s, [])).host.1⟩ :=
  create_agrees (logged_agrees h) tmpDir spec (s, [])

/-! ## Stages -/

/-- What a run within the limit comes to: cut off, it has failed for want of time. -/
def withinLimit {α : Type} (spec : Spec) : Option (Except Fault α) → Except Fault α
  | some r => r
  | none => .error (.timeout spec.timeout)

/-- The ways through creating: nothing is placed, what has been placed is taken back, or the file is
there. -/
inductive Stages (h : Host Reconciling σ) (tmpDir : String) (spec : Spec) (s : σ) : Finished σ State → Prop
  | unplaced {r f t} (hplace : (place tmpDir spec).runInTime h (h.setLimit spec.timeout s) = (r, t))
      (hr : withinLimit spec r = .error f) : Stages h tmpDir spec s (failed spec [] f t)
  | undone {p t r f u} (hplace : (place tmpDir spec).runInTime h (h.setLimit spec.timeout s) = (some (.ok p), t))
      (hback : (readBack spec p).runInTime h t = (r, u)) (hr : withinLimit spec r = .error f) :
      Stages h tmpDir spec s (rollBack h spec p f u)
  | created {p t state u} (hplace : (place tmpDir spec).runInTime h (h.setLimit spec.timeout s) = (some (.ok p), t))
      (hback : (readBack spec p).runInTime h t = (some (.ok state), u)) :
      Stages h tmpDir spec s ⟨.ok ⟨state, p.warnings⟩, p.events spec.nodeName, u⟩

theorem create_stages (h : Host Reconciling σ) (tmpDir : String) (spec : Spec) (s : σ) :
    Stages h tmpDir spec s (create h tmpDir spec s) := by
  unfold create
  rcases hplace : (place tmpDir spec).runInTime h (h.setLimit spec.timeout s) with ⟨_ | fault | p, t⟩
  · exact .unplaced hplace rfl
  · exact .unplaced hplace rfl
  · dsimp only
    rcases hback : (readBack spec p).runInTime h t with ⟨_ | fault | state, u⟩
    · exact .undone hplace hback rfl
    · exact .undone hplace hback rfl
    · exact .created hplace hback

/-- Creating writes linked entries. -/
theorem create_linked {v : σ → τ} (hact : ∀ d s, v (h.act d s) = v s) (hlimit : ∀ l s, v (h.setLimit l s) = v s)
    (tmpDir : String) (spec : Spec) (s : σ) :
    Linked h v s (createLog h tmpDir spec s) (create h tmpDir spec s).host := by
  have hplaced : ∀ r t, (place tmpDir spec).runInTime h.logged (h.logged.setLimit spec.timeout (s, [])) = (r, t) →
      Linked h v s t.2 t.1 := by
    intro r t ht
    obtain ⟨new, hlog, hl⟩ := linked_runInTime hact (place tmpDir spec) (h.setLimit spec.timeout s) []
    rw [List.nil_append] at hlog
    rw [← hlog] at hl
    obtain rfl := congrArg Prod.snd ht
    exact hl.of_eq (hlimit spec.timeout s).symm
  have hread : ∀ (p : Placed) t r u, Linked h v s t.2 t.1 → (readBack spec p).runInTime h.logged t = (r, u) →
      Linked h v s u.2 u.1 := by
    intro p t r u hl hu
    obtain ⟨new, hlog, hnew⟩ := linked_runInTime hact (readBack spec p) t.1 t.2
    obtain rfl := congrArg Prod.snd hu
    exact hlog ▸ linked_append.2 ⟨t.1, hl, hnew⟩
  have hstages := create_stages h.logged tmpDir spec (s, [])
  rw [create_logged, createLog]
  generalize create h.logged tmpDir spec (s, []) = finished at hstages
  cases hstages with
  | unplaced hplace hr => exact hplaced _ _ hplace
  | @undone p t r f u hplace hback hr =>
    rw [rollBack_host]
    exact linked_append.2 ⟨u.1, hread p t r u (hplaced _ _ hplace) hback, rfl, Entry.genuine_asked h _ u.1, rfl⟩
  | created hplace hback => exact hread _ _ _ _ (hplaced _ _ hplace) hback

end Reconciler

end FilePlacement
