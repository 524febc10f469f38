import FilePlacement.Proofs.Log
import FilePlacement.World

/-!
# Time limits

A host keeps the time (`Host.KeepsTime`) if a clock says how long its answers take: what would come behind the
deadline does not come in time, and what comes before it comes as it would without a limit. At the deadline itself
the host may do either.

What is over before the deadline is not touched by it (`Host.Punctual.runInTime_eq`), and programs that only ask for
what takes no time leave the clock as it is (`Host.KeepsTime.clock_run`). Of the requests that a program asks for, the
clock need not say how long they take as long as they are punctual themselves, so that calls, which are programs on a
wire, can be treated as requests.
-/

namespace FilePlacement

namespace Timekeeper

/-- The deadline is still to come. -/
def IsEarly (t : Timekeeper) : Prop := ∀ d, t.deadline = some d → t.now < d

/-- The deadline has passed. -/
def IsLate (t : Timekeeper) : Prop := ∃ d, t.deadline = some d ∧ d < t.now

@[simp] theorem pass_now (t : Timekeeper) (ms : Nat) : (t.pass ms).now = t.now + ms := rfl

@[simp] theorem pass_deadline (t : Timekeeper) (ms : Nat) : (t.pass ms).deadline = t.deadline := rfl

@[simp] theorem pass_zero (t : Timekeeper) : t.pass 0 = t := rfl

theorem pass_pass (t : Timekeeper) (a b : Nat) : (t.pass a).pass b = t.pass (a + b) := by
  simp only [pass, Nat.add_assoc]

theorem IsEarly.of_pass {t : Timekeeper} {ms : Nat} (h : (t.pass ms).IsEarly) : t.IsEarly := by
  intro d hd
  have hlater : t.now + ms < d := h d hd
  omega

theorem isEarly_pass_iff {t : Timekeeper} {d : Nat} (hd : t.deadline = some d) (ms : Nat) :
    (t.pass ms).IsEarly ↔ t.now + ms < d := by
  constructor
  · exact fun h => h d hd
  · intro h d' hd'
    rw [pass_deadline, hd, Option.some.injEq] at hd'
    exact hd' ▸ h

theorem isLate_pass_iff {t : Timekeeper} {d : Nat} (hd : t.deadline = some d) (ms : Nat) :
    (t.pass ms).IsLate ↔ d < t.now + ms := by
  constructor
  · rintro ⟨d', hd', h⟩
    rw [pass_deadline, hd, Option.some.injEq] at hd'
    exact hd' ▸ h
  · exact fun h => ⟨d, hd, h⟩

theorem isOver_of_isLate {t : Timekeeper} (h : t.IsLate) : t.isOver = true := by
  obtain ⟨d, hd, hlate⟩ := h
  simp [isOver, hd, Nat.le_of_lt hlate]

theorem isOver_of_isEarly {t : Timekeeper} (h : t.IsEarly) : t.isOver = false := by
  unfold isOver
  cases hd : t.deadline with
  | none => rfl
  | some d => simpa using h d hd

/-- Time passes while the deadline does not come in between. -/
theorem passInTime_eq (t : Timekeeper) (ms : Nat) :
    t.passInTime ms = (true, t.pass ms) ∧ ¬ (t.pass ms).IsLate ∨ (t.passInTime ms).1 = false ∧ (t.pass ms).IsLate := by
  unfold passInTime
  cases hd : t.deadline with
  | none => exact .inl ⟨rfl, fun ⟨d, hd', _⟩ => by rw [pass_deadline, hd] at hd'; cases hd'⟩
  | some d =>
    by_cases hlate : d < t.now + ms
    · exact .inr ⟨by simp [hlate], d, hd, hlate⟩
    · refine .inl ⟨by simp [hlate], ?_⟩
      rw [isLate_pass_iff hd]
      exact hlate

end Timekeeper

namespace Host

variable {I : Interface} {α β σ : Type}

/-- The clock says how long the answers to some requests take, and the host keeps to its deadline. -/
structure KeepsTime (h : Host I σ) (clock : σ → Timekeeper) (takes : I.Request → Option Nat) : Prop where
  clock_answer : ∀ r ms s, takes r = some ms → clock (h.answer r s).2 = (clock s).pass ms
  /-- An answer in time is the one that comes without a limit. -/
  answer_eq : ∀ r ms s reply t, takes r = some ms → h.answerInTime r s = (some reply, t) → h.answer r s = (reply, t)
  early : ∀ r ms s, takes r = some ms → ((clock s).pass ms).IsEarly → (h.answerInTime r s).1 ≠ none
  late : ∀ r ms s, takes r = some ms → ((clock s).pass ms).IsLate → (h.answerInTime r s).1 = none
  act : ∀ d s, clock (h.act d s) = clock s

/-- Whatever has its answer before the deadline has it in time. -/
structure Punctual (h : Host I σ) (clock : σ → Timekeeper) (P : I.Request → Prop) : Prop where
  onward : ∀ r s, P r → ∃ ms, clock (h.answer r s).2 = (clock s).pass ms
  early : ∀ r s, P r → (clock (h.answer r s).2).IsEarly →
    h.answerInTime r s = (some (h.answer r s).1, (h.answer r s).2)
  act : ∀ d s, clock (h.act d s) = clock s

section
variable {h : Host I σ} {clock : σ → Timekeeper} {takes : I.Request → Option Nat} {P : I.Request → Prop}

namespace KeepsTime

theorem answerInTime_eq (hk : h.KeepsTime clock takes) {r : I.Request} {ms : Nat} {s : σ} (hr : takes r = some ms)
    (hearly : ((clock s).pass ms).IsEarly) : h.answerInTime r s = (some (h.answer r s).1, (h.answer r s).2) := by
  have hsome := hk.early r ms s hr hearly
  rcases heq : h.answerInTime r s with ⟨_ | reply, t⟩
  · rw [heq] at hsome
    exact absurd rfl hsome
  · rw [hk.answer_eq r ms s reply t hr heq]

theorem punctual (hk : h.KeepsTime clock takes) : h.Punctual clock fun r => (takes r).isSome = true where
  onward r s hr := by
    obtain ⟨ms, hms⟩ := Option.isSome_iff_exists.1 hr
    exact ⟨ms, hk.clock_answer r ms s hms⟩
  early r s hr hearly := by
    obtain ⟨ms, hms⟩ := Option.isSome_iff_exists.1 hr
    rw [hk.clock_answer r ms s hms] at hearly
    exact hk.answerInTime_eq hms hearly
  act := hk.act

/-- What is not cut off comes to what it comes to without a limit. -/
theorem run_of_runInTime (hk : h.KeepsTime clock takes) {p : Program I α}
    (hp : p.AsksOnly fun r => (takes r).isSome = true) {s t : σ} {a : α} (hr : p.runInTime h s = (some a, t)) :
    p.run h s = (a, t) := by
  induction p generalizing s with
  | done b =>
    cases hr
    rfl
  | ask r due next ih =>
    obtain ⟨ms, hms⟩ := Option.isSome_iff_exists.1 hp.1
    simp only [Program.runInTime] at hr
    rcases heq : h.answerInTime r s with ⟨_ | reply, u⟩
    · rw [heq] at hr
      cases hr
    · rw [heq] at hr
      simp only [Program.run, hk.answer_eq r ms s reply u hms heq]
      exact ih reply (hp.2 reply) hr
  | act d next ih => exact ih hp hr

/-- What takes no time leaves the clock as it is. -/
theorem clock_run (hk : h.KeepsTime clock takes) {p : Program I α} (hp : p.AsksOnly fun r => takes r = some 0) (s : σ) :
    clock (p.run h s).2 = clock s := by
  induction p generalizing s with
  | done a => rfl
  | ask r due next ih => exact (ih _ (hp.2 _) _).trans (hk.clock_answer r 0 s hp.1)
  | act d next ih => exact (ih hp _).trans (hk.act d s)

/-- A log does not take time. -/
theorem logged (hk : h.KeepsTime clock takes) : h.logged.KeepsTime (fun t => clock t.1) takes where
  clock_answer r ms t hr := hk.clock_answer r ms t.1 hr
  answer_eq r ms t reply u hr heq := by
    obtain ⟨hreply, rfl⟩ := Prod.mk.inj heq
    have hanswer := hk.answer_eq r ms t.1 reply (h.answerInTime r t.1).2 hr (Prod.ext hreply rfl)
    simp only [Host.logged, Entry.asked, Entry.askedInTime, hanswer, hreply]
  early r ms t hr := hk.early r ms t.1 hr
  late r ms t hr := hk.late r ms t.1 hr
  act d t := hk.act d t.1

end KeepsTime

namespace Punctual

/-- Time only passes. -/
theorem clock_run (hp : h.Punctual clock P) {p : Program I α} (ha : p.AsksOnly P) (s : σ) :
    ∃ ms, clock (p.run h s).2 = (clock s).pass ms := by
  induction p generalizing s with
  | done a => exact ⟨0, rfl⟩
  | ask r due next ih =>
    obtain ⟨a, hanswer⟩ := hp.onward r s ha.1
    obtain ⟨b, hrest⟩ := ih _ (ha.2 _) (h.answer r s).2
    exact ⟨a + b, hrest.trans (by rw [hanswer, Timekeeper.pass_pass])⟩
  | act d next ih =>
    obtain ⟨ms, hrest⟩ := ih ha (h.act d s)
    exact ⟨ms, hrest.trans (by rw [hp.act])⟩

/-- The deadline does not touch what is over before it. -/
theorem runInTime_eq (hp : h.Punctual clock P) {p : Program I α} (ha : p.AsksOnly P) {s : σ}
    (hearly : (clock (p.run h s).2).IsEarly) : p.runInTime h s = (some (p.run h s).1, (p.run h s).2) := by
  induction p generalizing s with
  | done a => rfl
  | ask r due next ih =>
    obtain ⟨ms, hrest⟩ := hp.clock_run (ha.2 (h.answer r s).1) (h.answer r s).2
    have hanswer : (clock (h.answer r s).2).IsEarly := by
      change (clock ((next (h.answer r s).1).run h (h.answer r s).2).2).IsEarly at hearly
      rw [hrest] at hearly
      exact hearly.of_pass
    simp only [Program.runInTime, Program.run, hp.early r s ha.1 hanswer]
    exact ih _ (ha.2 _) hearly
  | act d next ih => exact ih ha hearly

end Punctual

end

end Host

/-! ## Programs on hosts that answer alike -/

namespace Program

variable {I : Interface} {α β σ : Type} {h k : Host I σ} {P : I.Request → Prop}

theorem run_congr (hanswer : ∀ r s, P r → h.answer r s = k.answer r s) (hact : ∀ d s, h.act d s = k.act d s)
    {p : Program I α} (hp : p.AsksOnly P) (s : σ) : p.run h s = p.run k s := by
  induction p generalizing s with
  | done a => rfl
  | ask r due next ih =>
    simp only [run, hanswer r s hp.1]
    exact ih _ (hp.2 _) _
  | act d next ih =>
    simp only [run, hact d s]
    exact ih hp _

theorem runInTime_congr (hanswer : ∀ r s, P r → h.answerInTime r s = k.answerInTime r s)
    (hact : ∀ d s, h.act d s = k.act d s) {p : Program I α} (hp : p.AsksOnly P) (s : σ) :
    p.runInTime h s = p.runInTime k s := by
  have hacts : (fun s d => h.act d s) = fun s d => k.act d s := funext fun s => funext fun d => hact d s
  induction p generalizing s with
  | done a => rfl
  | ask r due next ih =>
    simp only [runInTime, hanswer r s hp.1, hacts]
    rcases k.answerInTime r s with ⟨_ | reply, t⟩
    · rfl
    · exact ih reply (hp.2 reply) t
  | act d next ih =>
    simp only [runInTime, hact d s]
    exact ih hp _

/-- What every answer in time keeps, a run keeps that comes to its end. -/
theorem wp_answered {Inv : σ → Prop}
    (hask : ∀ r s reply t, P r → Inv s → h.answerInTime r s = (some reply, t) → Inv t)
    (hact : ∀ d s, Inv s → Inv (h.act d s)) {p : Program I α} (hp : p.AsksOnly P) {s : σ} (hs : Inv s) :
    p.wp h (fun _ t => Inv t) (fun _ => True) s := by
  induction p generalizing s with
  | done a => exact hs
  | ask r due next ih =>
    exact wp_ask.2 ⟨fun reply t ht => ih reply (hp.2 reply) (hask r s reply t hp.1 hs ht), fun _ _ => trivial⟩
  | act d next ih => exact ih hp (hact d s hs)

end Program

namespace Task

variable {I : Interface} {α β σ : Type} {h : Host I σ}

theorem wp_answered {P : I.Request → Prop} {Inv : σ → Prop}
    (hask : ∀ r s reply t, P r → Inv s → h.answerInTime r s = (some reply, t) → Inv t)
    (hact : ∀ d s, Inv s → Inv (h.act d s)) {t : Task I α} (ht : t.AsksOnly P) {s : σ} (hs : Inv s) :
    t.wp h (fun _ u => Inv u) (fun _ _ => True) (fun _ => True) s := by
  refine Program.wp_mono (Program.wp_answered hask hact ht hs) (fun r u hu => ?_) fun _ _ => trivial
  cases r with
  | ok a => exact hu
  | error f => trivial

theorem runInTime_lift (h : Host I σ) (p : Program I α) (s : σ) :
    Program.runInTime h (Task.lift p) s = match p.runInTime h s with
      | (some a, u) => (some (.ok a), u)
      | (none, u) => (none, u) := by
  refine (Program.runInTime_bind h p _ s).trans ?_
  rcases p.runInTime h s with ⟨_ | a, u⟩ <;> rfl

theorem runInTime_bind_congr {t : Task I α} {f g : α → Task I β} {s : σ}
    (hfg : ∀ a u, Program.runInTime h t s = (some (.ok a), u) →
      Program.runInTime h (f a) u = Program.runInTime h (g a) u) :
    Program.runInTime h (t >>= f : Task I β) s = Program.runInTime h (t >>= g : Task I β) s := by
  rw [runInTime_bind, runInTime_bind]
  rcases hrun : Program.runInTime h t s with ⟨_ | f | a, u⟩
  · rfl
  · rfl
  · exact hfg a u hrun

end Task

/-- What takes no time leaves the clock as it is, if it comes to its end. -/
theorem Host.KeepsTime.wp_clock {I : Interface} {α σ : Type} {h : Host I σ} {clock : σ → Timekeeper}
    {takes : I.Request → Option Nat} (hk : h.KeepsTime clock takes) {t : Task I α}
    (ht : t.AsksOnly fun r => takes r = some 0) {now : Timekeeper} {s : σ} (hs : clock s = now) :
    t.wp h (fun _ u => clock u = now) (fun _ _ => True) (fun _ => True) s := by
  refine Task.wp_answered (fun r u reply v hr hu heq => ?_) (fun d u hu => (hk.act d u).trans hu) ht hs
  have hclock := hk.clock_answer r 0 u hr
  rw [hk.answer_eq r 0 u reply v hr heq] at hclock
  exact hclock.trans hu

end FilePlacement
