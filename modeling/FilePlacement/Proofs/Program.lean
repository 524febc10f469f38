import FilePlacement.Program

/-!
# Reasoning about programs

Ways to say something of a program for all that its host may do:

* `AsksOnly P`: every request that it can come to satisfies `P`. A program that asks only for what
  keeps an invariant keeps it, whether it comes to its end or is cut off (`wp_of_asksOnly`).
* `Ends R`: every value that it can end in satisfies `R`.
* `wp h Q C`: run within the limit of `h` it ends in `Q`, or is cut off in `C`. Both are closed
  under binding, and holding a deed changes neither: `C` is about the moment of the cut-off, before
  the deeds that are due.
* `Task.Gives h Q`: what the task succeeds with is in `Q`, if it succeeds.

Programs run alike on hosts of which one does on `f s` what the other does on `s` (`Host.Agrees`). A host
that never reaches its limit (`Host.patient`) makes `run` a case of `runInTime`.
-/

namespace FilePlacement

/-- Two steps that may fail succeed one after the other. -/
theorem bind_eq_ok {ε α β : Type} {x : Except ε α} {f : α → Except ε β} {b : β} :
    x >>= f = .ok b ↔ ∃ a, x = .ok a ∧ f a = .ok b := by
  cases x with
  | error e => exact ⟨nofun, nofun⟩
  | ok a => exact ⟨fun hf => ⟨a, rfl, hf⟩, fun ⟨_, rfl, hf⟩ => hf⟩

theorem eq_ok_of_toOption {ε α : Type} {x : Except ε α} {a : α} (h : x.toOption = some a) : x = .ok a := by
  cases x with
  | error e => cases h
  | ok b => exact congrArg Except.ok (Option.some.inj h)

namespace Program

variable {I : Interface} {α β σ τ : Type}

theorem runInTime_request (h : Host I σ) (r : I.Request) (s : σ) :
    (request r).runInTime h s = h.answerInTime r s := by
  simp only [request, runInTime]
  rcases h.answerInTime r s with ⟨_ | reply, t⟩ <;> rfl

theorem runInTime_ask_some {h : Host I σ} {r : I.Request} {due : List I.Deed} {next : I.Reply r → Program I α}
    {s t : σ} {reply : I.Reply r} (hr : h.answerInTime r s = (some reply, t)) :
    (ask r due next).runInTime h s = (next reply).runInTime h t := by
  simp only [runInTime, hr]

theorem runInTime_ask_none {h : Host I σ} {r : I.Request} {due : List I.Deed} {next : I.Reply r → Program I α}
    {s t : σ} (hr : h.answerInTime r s = (none, t)) :
    (ask r due next).runInTime h s = (none, due.foldl (fun s d => h.act d s) t) := by
  simp only [runInTime, hr]

/-! ## What a program can ask for -/

/-- Every request that a program can come to satisfies `P`. -/
def AsksOnly (P : I.Request → Prop) : Program I α → Prop
  | .done _ => True
  | .ask r _ next => P r ∧ ∀ reply, (next reply).AsksOnly P
  | .act _ next => next.AsksOnly P

variable {P : I.Request → Prop}

theorem AsksOnly.bind {p : Program I α} {f : α → Program I β} (hp : p.AsksOnly P)
    (hf : ∀ a, (f a).AsksOnly P) : (p.bind f).AsksOnly P := by
  induction p with
  | done a => exact hf a
  | ask r due next ih => exact ⟨hp.1, fun reply => ih reply (hp.2 reply)⟩
  | act d next ih => exact ih hp

theorem AsksOnly.holding {p : Program I α} (hp : p.AsksOnly P) (d : I.Deed) : (p.holding d).AsksOnly P := by
  induction p with
  | done a => trivial
  | ask r due next ih => exact ⟨hp.1, fun reply => ih reply (hp.2 reply)⟩
  | act e next ih => exact ih hp

theorem AsksOnly.guarded {p : Program I α} (hp : p.AsksOnly P) (ds : List I.Deed) : (p.guarded ds).AsksOnly P := by
  refine AsksOnly.bind ?_ fun a => ?_
  · unfold holdingAll
    induction ds with
    | nil => exact hp
    | cons d ds ih => exact ih.holding d
  · induction ds with
    | nil => trivial
    | cons d ds ih => exact ih

theorem asksOnly_request {r : I.Request} : (request r : Program I (I.Reply r)).AsksOnly P ↔ P r :=
  ⟨fun h => h.1, fun h => ⟨h, fun _ => trivial⟩⟩

theorem asksOnly_true (p : Program I α) : p.AsksOnly fun _ => True := by
  induction p with
  | done a => trivial
  | ask r due next ih => exact ⟨trivial, ih⟩
  | act d next ih => exact ih

theorem AsksOnly.mono {P' : I.Request → Prop} {p : Program I α} (hp : p.AsksOnly P) (hP : ∀ r, P r → P' r) :
    p.AsksOnly P' := by
  induction p with
  | done a => trivial
  | ask r due next ih => exact ⟨hP r hp.1, fun reply => ih reply (hp.2 reply)⟩
  | act d next ih => exact ih hp

theorem AsksOnly.and {P' : I.Request → Prop} {p : Program I α} (hp : p.AsksOnly P) (hp' : p.AsksOnly P') :
    p.AsksOnly fun r => P r ∧ P' r := by
  induction p with
  | done a => trivial
  | ask r due next ih => exact ⟨⟨hp.1, hp'.1⟩, fun reply => ih reply (hp.2 reply) (hp'.2 reply)⟩
  | act d next ih => exact ih hp hp'

/-! ## What a program can end in -/

/-- Every value that a program can end in satisfies `R`. -/
def Ends (R : α → Prop) : Program I α → Prop
  | .done a => R a
  | .ask r _ next => ∀ reply : I.Reply r, (next reply).Ends R
  | .act _ next => next.Ends R

theorem ends_true (p : Program I α) : p.Ends fun _ => True := by
  induction p with
  | done a => trivial
  | ask r due next ih => exact ih
  | act d next ih => exact ih

theorem Ends.bind {R : α → Prop} {R' : β → Prop} {p : Program I α} {f : α → Program I β} (hp : p.Ends R)
    (hf : ∀ a, R a → (f a).Ends R') : (p.bind f).Ends R' := by
  induction p with
  | done a => exact hf a hp
  | ask r due next ih => exact fun reply => ih reply (hp reply)
  | act d next ih => exact ih hp

theorem Ends.run {R : α → Prop} {p : Program I α} (hp : p.Ends R) (h : Host I σ) (s : σ) : R (p.run h s).1 := by
  induction p generalizing s with
  | done a => exact hp
  | ask r due next ih => exact ih _ (hp _) _
  | act d next ih => exact ih hp _

theorem Ends.runInTime {R : α → Prop} {p : Program I α} (hp : p.Ends R) {h : Host I σ} {s t : σ} {a : α}
    (hr : p.runInTime h s = (some a, t)) : R a := by
  induction p generalizing s with
  | done b =>
    cases hr
    exact hp
  | ask r due next ih =>
    simp only [Program.runInTime] at hr
    split at hr
    · exact ih _ (hp _) hr
    · cases hr
  | act d next ih => exact ih hp hr

/-! ## Weakest preconditions -/

/-- Within the limit of `h` the program ends in `Q`, or is cut off in `C`. -/
def wp (h : Host I σ) (Q : α → σ → Prop) (C : σ → Prop) : Program I α → σ → Prop
  | .done a, s => Q a s
  | .ask r _ next, s =>
    match h.answerInTime r s with
    | (some reply, s) => (next reply).wp h Q C s
    | (none, s) => C s
  | .act d next, s => next.wp h Q C (h.act d s)

variable {h : Host I σ} {Q Q' : α → σ → Prop} {C C' : σ → Prop} {s : σ}

theorem wp_ask {r : I.Request} {due : List I.Deed} {next : I.Reply r → Program I α} :
    (Program.ask r due next).wp h Q C s ↔
      (∀ reply t, h.answerInTime r s = (some reply, t) → (next reply).wp h Q C t) ∧
      (∀ t, h.answerInTime r s = (none, t) → C t) := by
  simp only [wp]
  split <;> rename_i heq <;> simp [heq]

theorem wp_mono {p : Program I α} (hw : p.wp h Q C s) (hQ : ∀ a s, Q a s → Q' a s) (hC : ∀ s, C s → C' s) :
    p.wp h Q' C' s := by
  induction p generalizing s with
  | done a => exact hQ a s hw
  | ask r due next ih =>
    rw [wp_ask] at hw ⊢
    exact ⟨fun reply t ht => ih reply (hw.1 reply t ht), fun t ht => hC t (hw.2 t ht)⟩
  | act d next ih => exact ih hw

theorem wp_congr {p : Program I α} (hQ : ∀ a s, Q a s ↔ Q' a s) : p.wp h Q C s ↔ p.wp h Q' C s :=
  ⟨fun hw => wp_mono hw (fun a s => (hQ a s).1) fun _ hc => hc,
    fun hw => wp_mono hw (fun a s => (hQ a s).2) fun _ hc => hc⟩

theorem wp_and {p : Program I α} (hw : p.wp h Q C s) (hw' : p.wp h Q' C' s) :
    p.wp h (fun a s => Q a s ∧ Q' a s) (fun s => C s ∧ C' s) s := by
  induction p generalizing s with
  | done a => exact ⟨hw, hw'⟩
  | ask r due next ih =>
    rw [wp_ask] at hw hw' ⊢
    exact ⟨fun reply t ht => ih reply (hw.1 reply t ht) (hw'.1 reply t ht),
      fun t ht => ⟨hw.2 t ht, hw'.2 t ht⟩⟩
  | act d next ih => exact ih hw hw'

theorem wp_bind {Q : β → σ → Prop} {p : Program I α} {f : α → Program I β} :
    (p.bind f).wp h Q C s ↔ p.wp h (fun a s => (f a).wp h Q C s) C s := by
  induction p generalizing s with
  | done a => rfl
  | ask r due next ih =>
    simp only [bind, wp]
    split <;> simp [ih]
  | act d next ih => exact ih

theorem wp_holding {d : I.Deed} {p : Program I α} : (p.holding d).wp h Q C s ↔ p.wp h Q C s := by
  induction p generalizing s with
  | done a => rfl
  | ask r due next ih =>
    simp only [holding, wp]
    split <;> simp [ih]
  | act d next ih => exact ih

theorem wp_guarded {ds : List I.Deed} {p : Program I α} :
    (p.guarded ds).wp h Q C s ↔ p.wp h (fun a s => Q a (ds.foldl (fun s d => h.act d s) s)) C s := by
  have hacts : ∀ (a : α) (s : σ),
      (ds.foldr Program.act (.done a)).wp h Q C s ↔ Q a (ds.foldl (fun s d => h.act d s) s) := by
    intro a
    induction ds with
    | nil => exact fun s => Iff.rfl
    | cons d ds ih => exact fun s => ih (h.act d s)
  have hheld : ∀ (es : List I.Deed) (R : α → σ → Prop), (holdingAll es p).wp h R C s ↔ p.wp h R C s := by
    intro es R
    induction es with
    | nil => rfl
    | cons e es ih => exact wp_holding.trans ih
  rw [guarded, wp_bind, hheld]
  simp only [hacts]

/-- What every request and every deed keeps, a program keeps. -/
theorem wp_of_asksOnly (Inv : σ → Prop) (hask : ∀ r s, P r → Inv s → Inv (h.answerInTime r s).2)
    (hact : ∀ d s, Inv s → Inv (h.act d s)) {p : Program I α} (hp : p.AsksOnly P) (hs : Inv s) :
    p.wp h (fun _ s => Inv s) Inv s := by
  induction p generalizing s with
  | done a => exact hs
  | ask r due next ih =>
    have hk := hask r s hp.1 hs
    refine wp_ask.2 ⟨fun reply t ht => ih reply (hp.2 reply) ?_, fun t ht => ?_⟩
    · rw [ht] at hk; exact hk
    · rw [ht] at hk; exact hk
  | act d next ih => exact ih hp (hact d s hs)

theorem wp_ends {R : α → Prop} {p : Program I α} (hp : p.Ends R) (hw : p.wp h Q C s) :
    p.wp h (fun a s => R a ∧ Q a s) C s := by
  induction p generalizing s with
  | done a => exact ⟨hp, hw⟩
  | ask r due next ih =>
    rw [wp_ask] at hw ⊢
    exact ⟨fun reply t ht => ih reply (hp reply) (hw.1 reply t ht), hw.2⟩
  | act d next ih => exact ih hp hw

theorem of_runInTime_some {p : Program I α} {a : α} {t : σ} (hw : p.wp h Q C s)
    (hr : p.runInTime h s = (some a, t)) : Q a t := by
  induction p generalizing s with
  | done b =>
    simp only [runInTime, Prod.mk.injEq, Option.some.injEq] at hr
    obtain ⟨rfl, rfl⟩ := hr
    exact hw
  | ask r due next ih =>
    rw [wp_ask] at hw
    simp only [runInTime] at hr
    split at hr
    · rename_i reply u heq
      exact ih reply (hw.1 reply u heq) hr
    · simp at hr
  | act d next ih => exact ih hw hr

/-- A condition for the cut-off that deeds keep holds at the end, too. -/
theorem of_runInTime_none {p : Program I α} {t : σ} (hw : p.wp h Q C s) (hact : ∀ d s, C s → C (h.act d s))
    (hr : p.runInTime h s = (none, t)) : C t := by
  induction p generalizing s with
  | done b => simp [runInTime] at hr
  | ask r due next ih =>
    rw [wp_ask] at hw
    simp only [runInTime] at hr
    split at hr
    · rename_i reply u heq
      exact ih reply (hw.1 reply u heq) hr
    · rename_i u heq
      have hC := hw.2 u heq
      simp only [Prod.mk.injEq, true_and] at hr
      rw [← hr]
      clear heq hr
      induction due generalizing u with
      | nil => exact hC
      | cons d due ihd => exact ihd _ (hact d u hC)
  | act d next ih => exact ih hw hr

/-- What holds wherever a program ends or is cut off holds after it, if deeds keep it. -/
theorem of_runInTime {R : σ → Prop} {p : Program I α} (hw : p.wp h (fun _ t => R t) R s)
    (hact : ∀ d t, R t → R (h.act d t)) : R (p.runInTime h s).2 := by
  rcases hrun : p.runInTime h s with ⟨_ | a, t⟩
  · exact of_runInTime_none hw hact hrun
  · exact of_runInTime_some (Q := fun _ t => R t) hw hrun

end Program

/-! ## Tasks -/

namespace Task

variable {I : Interface} {α β σ : Type} {P : I.Request → Prop}

def AsksOnly (P : I.Request → Prop) (t : Task I α) : Prop := Program.AsksOnly P t.run

theorem AsksOnly.mono {P' : I.Request → Prop} {t : Task I α} (ht : t.AsksOnly P) (hP : ∀ r, P r → P' r) :
    t.AsksOnly P' := Program.AsksOnly.mono ht hP

theorem AsksOnly.bind {t : Task I α} {f : α → Task I β} (ht : t.AsksOnly P) (hf : ∀ a, (f a).AsksOnly P) :
    AsksOnly P (t >>= f) := by
  unfold AsksOnly
  rw [ExceptT.run_bind, Program.bind_eq]
  refine Program.AsksOnly.bind ht fun r => ?_
  cases r with
  | ok a => exact hf a
  | error e => trivial

theorem asksOnly_pure (a : α) : AsksOnly P (pure a : Task I α) := trivial

theorem asksOnly_throw (f : Fault) : AsksOnly P (throw f : Task I α) := trivial

theorem asksOnly_ofExcept (r : Except Fault α) : AsksOnly P (ofExcept r : Task I α) := by
  cases r with
  | ok a => exact asksOnly_pure a
  | error f => exact asksOnly_throw f

theorem AsksOnly.lift {p : Program I α} (hp : p.AsksOnly P) : AsksOnly P (Task.lift p) :=
  Program.AsksOnly.bind hp fun _ => trivial

theorem AsksOnly.ofIo {p : Program I (Except IoError α)} (hp : p.AsksOnly P) : AsksOnly P (Task.ofIo p) :=
  Program.AsksOnly.bind hp fun _ => trivial

theorem AsksOnly.unlessOk {t : Task I α} (ht : t.AsksOnly P) (d : I.Deed) : AsksOnly P (t.unlessOk d) := by
  refine Program.AsksOnly.bind (Program.AsksOnly.holding ht d) fun r => ?_
  cases r <;> trivial

theorem AsksOnly.guarded {t : Task I α} (ht : t.AsksOnly P) (ds : List I.Deed) : AsksOnly P (t.guarded ds) :=
  Program.AsksOnly.guarded ht ds

/-- Every value that a task can succeed with satisfies `R`. -/
def Ends (R : α → Prop) (t : Task I α) : Prop := Program.Ends (fun r => ∀ a, r = .ok a → R a) t.run

theorem Ends.bind {R : α → Prop} {R' : β → Prop} {t : Task I α} {f : α → Task I β} (ht : t.Ends R)
    (hf : ∀ a, R a → (f a).Ends R') : Ends R' (t >>= f) := by
  unfold Ends
  rw [ExceptT.run_bind, Program.bind_eq]
  refine Program.Ends.bind ht fun r hr => ?_
  cases r with
  | ok a => exact hf a (hr a rfl)
  | error e => exact fun a ha => nomatch ha

/-- What comes first does not matter for the value at the end. -/
theorem Ends.bind' {R' : β → Prop} {t : Task I α} {f : α → Task I β} (hf : ∀ a, (f a).Ends R') :
    Ends R' (t >>= f) := by
  refine Ends.bind (R := fun _ => True) ?_ fun a _ => hf a
  unfold Ends
  simpa using Program.ends_true (I := I) t.run

theorem ends_pure {R : α → Prop} {a : α} (ha : R a) : Ends R (pure a : Task I α) :=
  fun b hb => by simp only [Except.ok.injEq] at hb; exact hb ▸ ha

theorem ends_throw {R : α → Prop} (f : Fault) : Ends R (throw f : Task I α) := fun _ hb => nomatch hb

theorem ends_ofExcept {R : α → Prop} {r : Except Fault α} (hr : ∀ a, r = .ok a → R a) :
    Ends R (ofExcept r : Task I α) := by
  cases r with
  | ok a => exact ends_pure (hr a rfl)
  | error f => exact ends_throw f

/-- Within the limit of `h` the task succeeds in `Q`, fails in `E`, or is cut off in `C`. -/
def wp (h : Host I σ) (Q : α → σ → Prop) (E : Fault → σ → Prop) (C : σ → Prop) (t : Task I α) (s : σ) : Prop :=
  Program.wp h (fun r s => match r with | .ok a => Q a s | .error f => E f s) C t.run s

variable {h : Host I σ} {Q Q' : α → σ → Prop} {E E' : Fault → σ → Prop} {C C' : σ → Prop} {s : σ}

theorem wp_mono {t : Task I α} (hw : t.wp h Q E C s) (hQ : ∀ a s, Q a s → Q' a s) (hE : ∀ f s, E f s → E' f s)
    (hC : ∀ s, C s → C' s) : t.wp h Q' E' C' s := by
  refine Program.wp_mono hw (fun r s hr => ?_) hC
  cases r with
  | ok a => exact hQ a s hr
  | error f => exact hE f s hr

theorem wp_bind {Q : β → σ → Prop} {t : Task I α} {f : α → Task I β} :
    wp h Q E C (t >>= f) s ↔ t.wp h (fun a s => (f a).wp h Q E C s) E C s := by
  unfold wp
  rw [ExceptT.run_bind, Program.bind_eq, Program.wp_bind]
  refine Program.wp_congr fun r s => ?_
  cases r <;> exact Iff.rfl

/-- One task after the other, with the same faults and cut-offs. -/
theorem wp_andThen {R : β → σ → Prop} {t : Task I α} {f : α → Task I β} (ht : t.wp h Q E C s)
    (hf : ∀ a u, Q a u → (f a).wp h R E C u) : wp h R E C (t >>= f) s :=
  wp_bind.2 (wp_mono ht hf (fun _ _ he => he) fun _ hc => hc)

theorem runInTime_bind (h : Host I σ) (t : Task I α) (f : α → Task I β) (s : σ) :
    Program.runInTime h (t >>= f : Task I β) s = match Program.runInTime h t s with
      | (some (.ok a), s) => Program.runInTime h (f a) s
      | (some (.error e), s) => (some (.error e), s)
      | (none, s) => (none, s) := by
  refine (Program.runInTime_bind h t.run _ s).trans ?_
  dsimp only [ExceptT.run]
  rcases Program.runInTime h t s with ⟨_ | e | a, u⟩ <;> rfl

theorem run_bind (h : Host I σ) (t : Task I α) (f : α → Task I β) (s : σ) :
    Program.run h (t >>= f : Task I β) s = match Program.run h t s with
      | (.ok a, s) => Program.run h (f a) s
      | (.error e, s) => (.error e, s) := by
  refine (Program.run_bind h t.run _ s).trans ?_
  dsimp only [ExceptT.run]
  rcases Program.run h t s with ⟨_ | a, u⟩ <;> rfl

theorem runInTime_bind_ok {t : Task I α} {a : α} {u : σ} (ht : Program.runInTime h t s = (some (.ok a), u))
    (f : α → Task I β) : Program.runInTime h (t >>= f : Task I β) s = Program.runInTime h (f a) u := by
  rw [runInTime_bind, ht]

theorem runInTime_bind_error {t : Task I α} {e : Fault} {u : σ} (ht : Program.runInTime h t s = (some (.error e), u))
    (f : α → Task I β) : Program.runInTime h (t >>= f : Task I β) s = (some (.error e), u) := by
  rw [runInTime_bind, ht]

theorem runInTime_ofExcept (h : Host I σ) (r : Except Fault α) (s : σ) :
    Program.runInTime h (ofExcept r : Task I α) s = (some r, s) := by cases r <;> rfl

/-- A sequence that comes to its end has been through both parts. -/
theorem of_runInTime_bind {t : Task I α} {f : α → Task I β} {b : β} {v : σ}
    (hr : Program.runInTime h (t >>= f : Task I β) s = (some (.ok b), v)) :
    ∃ a u, Program.runInTime h t s = (some (.ok a), u) ∧ Program.runInTime h (f a) u = (some (.ok b), v) := by
  rw [runInTime_bind] at hr
  rcases ht : Program.runInTime h t s with ⟨_ | e | a, u⟩ <;> rw [ht] at hr
  · cases hr
  · cases hr
  · exact ⟨a, u, rfl, hr⟩

theorem wp_pure {a : α} : wp h Q E C (pure a : Task I α) s ↔ Q a s := Iff.rfl

theorem wp_throw {f : Fault} : wp h Q E C (throw f : Task I α) s ↔ E f s := Iff.rfl

theorem wp_ofExcept {r : Except Fault α} :
    wp h Q E C (ofExcept r : Task I α) s ↔ (∀ a, r = .ok a → Q a s) ∧ (∀ f, r = .error f → E f s) := by
  cases r with
  | ok a => simp [ofExcept, wp_pure]
  | error f => simp [ofExcept, wp_throw]

theorem wp_lift {p : Program I α} : wp h Q E C (Task.lift p) s ↔ p.wp h Q C s := Program.wp_bind

theorem wp_ofIo {p : Program I (Except IoError α)} :
    wp h Q E C (Task.ofIo p) s ↔
      p.wp h (fun r s => match r with | .ok a => Q a s | .error e => E (.io e) s) C s := by
  refine Program.wp_bind.trans (Program.wp_congr fun r s => ?_)
  cases r <;> exact Iff.rfl

theorem wp_and {t : Task I α} (hw : t.wp h Q E C s) (hw' : t.wp h Q' E' C' s) :
    t.wp h (fun a s => Q a s ∧ Q' a s) (fun f s => E f s ∧ E' f s) (fun s => C s ∧ C' s) s := by
  refine Program.wp_mono (Program.wp_and hw hw') (fun r s hr => ?_) fun _ hc => hc
  cases r <;> exact hr

theorem wp_unlessOk {d : I.Deed} {t : Task I α} :
    wp h Q E C (t.unlessOk d) s ↔ t.wp h Q (fun f s => E f (h.act d s)) C s := by
  refine Program.wp_bind.trans (Program.wp_holding.trans (Program.wp_congr fun r s => ?_))
  cases r <;> exact Iff.rfl

theorem wp_guarded {ds : List I.Deed} {t : Task I α} :
    wp h Q E C (t.guarded ds) s ↔
      t.wp h (fun a s => Q a (ds.foldl (fun s d => h.act d s) s))
        (fun f s => E f (ds.foldl (fun s d => h.act d s) s)) C s := by
  refine Program.wp_guarded.trans (Program.wp_congr fun r s => ?_)
  cases r <;> exact Iff.rfl

theorem wp_ends {R : α → Prop} {t : Task I α} (ht : t.Ends R) (hw : t.wp h Q E C s) :
    t.wp h (fun a s => R a ∧ Q a s) E C s := by
  refine Program.wp_mono (Program.wp_ends ht hw) (fun r s hr => ?_) fun _ hc => hc
  cases r with
  | ok a => exact ⟨hr.1 a rfl, hr.2⟩
  | error f => exact hr.2

theorem wp_of_asksOnly (Inv : σ → Prop) (hask : ∀ r s, P r → Inv s → Inv (h.answerInTime r s).2)
    (hact : ∀ d s, Inv s → Inv (h.act d s)) {t : Task I α} (ht : t.AsksOnly P) (hs : Inv s) :
    t.wp h (fun _ s => Inv s) (fun _ s => Inv s) Inv s := by
  refine Program.wp_mono (Program.wp_of_asksOnly Inv hask hact ht hs) (fun r s hr => ?_) fun _ hc => hc
  cases r <;> exact hr

/-- Within the limit of `h` the task succeeds in `Q`, if it succeeds. -/
def Gives (h : Host I σ) (Q : α → σ → Prop) (t : Task I α) (s : σ) : Prop :=
  t.wp h Q (fun _ _ => True) (fun _ => True) s

theorem Gives.mono {t : Task I α} (ht : t.Gives h Q s) (hQ : ∀ a s, Q a s → Q' a s) : t.Gives h Q' s :=
  wp_mono ht hQ (fun _ _ _ => trivial) fun _ _ => trivial

theorem Gives.bind {R : β → σ → Prop} {t : Task I α} {f : α → Task I β} (ht : t.Gives h Q s)
    (hf : ∀ a s, Q a s → (f a).Gives h R s) : Gives h R (t >>= f) s := wp_bind.2 (ht.mono hf)

theorem gives_pure {a : α} (ha : Q a s) : Gives h Q (pure a : Task I α) s := ha

theorem gives_throw {f : Fault} : Gives h Q (throw f : Task I α) s := trivial

theorem gives_ofExcept {r : Except Fault α} (hr : ∀ a, r = .ok a → Q a s) : Gives h Q (ofExcept r : Task I α) s :=
  wp_ofExcept.2 ⟨hr, fun _ _ => trivial⟩

theorem gives_ofExcept_bind {R : β → σ → Prop} {r : Except Fault α} {f : α → Task I β}
    (hf : ∀ a, r = .ok a → (f a).Gives h R s) : Gives h R (ofExcept r >>= f) s :=
  wp_bind.2 (wp_ofExcept.2 ⟨hf, fun _ _ => trivial⟩)

theorem gives_lift {p : Program I α} (hp : p.wp h Q (fun _ => True) s) : Gives h Q (Task.lift p) s := wp_lift.2 hp

theorem Gives.unlessOk {t : Task I α} (ht : t.Gives h Q s) (d : I.Deed) : (t.unlessOk d).Gives h Q s :=
  wp_unlessOk.2 ht

/-- Within the limit of `h` the task leads to `R`, whatever it comes to. -/
def Leads (h : Host I σ) (R : σ → Prop) (t : Task I α) (s : σ) : Prop := t.wp h (fun _ => R) (fun _ => R) R s

/-- Within the limit of `h` the task leads to `R` and does not succeed. -/
def Fails (h : Host I σ) (R : σ → Prop) (t : Task I α) (s : σ) : Prop := t.wp h (fun _ _ => False) (fun _ => R) R s

theorem leads_of_asksOnly (R : σ → Prop) (hask : ∀ r s, P r → R s → R (h.answerInTime r s).2)
    (hact : ∀ d s, R s → R (h.act d s)) {t : Task I α} (ht : t.AsksOnly P) (hs : R s) : t.Leads h R s :=
  wp_of_asksOnly R hask hact ht hs

theorem Leads.host {R : σ → Prop} {t : Task I α} (ht : t.Leads h R s) (hact : ∀ d s, R s → R (h.act d s)) :
    R (Program.runInTime h t s).2 := by
  refine Program.of_runInTime (Program.wp_mono ht (fun r u hu => ?_) fun _ hu => hu) hact
  cases r <;> exact hu

/-- Deeds at the end do not matter where they keep what a task leads to. -/
theorem Leads.guarded {R : σ → Prop} {t : Task I α} (ht : t.Leads h R s) (hact : ∀ d s, R s → R (h.act d s))
    (ds : List I.Deed) : (t.guarded ds).Leads h R s := by
  have hacts : ∀ u, R u → R (ds.foldl (fun s d => h.act d s) u) := by
    induction ds with
    | nil => exact fun u hu => hu
    | cons d ds ih => exact fun u hu => ih _ (hact d u hu)
  exact wp_guarded.2 (wp_mono ht (fun _ => hacts) (fun _ => hacts) fun _ hu => hu)

/-- What follows a task that does not succeed does not matter. -/
theorem Fails.bind {R : σ → Prop} {Q : β → σ → Prop} {t : Task I α} {f : α → Task I β} (ht : t.Fails h R s) :
    wp h Q (fun _ => R) R (t >>= f) s := wp_andThen ht fun _ _ hno => hno.elim

theorem of_runInTime_ok {t : Task I α} {a : α} {u : σ} (hw : t.wp h Q E C s)
    (hr : Program.runInTime h t s = (some (.ok a), u)) : Q a u := by
  have hend := Program.of_runInTime_some hw hr
  exact hend

theorem of_runInTime_error {t : Task I α} {f : Fault} {u : σ} (hw : t.wp h Q E C s)
    (hr : Program.runInTime h t s = (some (.error f), u)) : E f u := by
  have hend := Program.of_runInTime_some hw hr
  exact hend

theorem of_runInTime_none {t : Task I α} {u : σ} (hw : t.wp h Q E C s) (hact : ∀ d s, C s → C (h.act d s))
    (hr : Program.runInTime h t s = (none, u)) : C u := Program.of_runInTime_none hw hact hr

end Task

/-! ## Hosts -/

namespace Host

variable {I : Interface} {σ τ : Type}

/-- `k` does on `f s` what `h` does on `s`. -/
structure Agrees (h : Host I σ) (k : Host I τ) (f : σ → τ) : Prop where
  answer : ∀ r s, k.answer r (f s) = ((h.answer r s).1, f (h.answer r s).2)
  answerInTime : ∀ r s, k.answerInTime r (f s) = ((h.answerInTime r s).1, f (h.answerInTime r s).2)
  act : ∀ d s, k.act d (f s) = f (h.act d s)
  setLimit : ∀ limit s, k.setLimit limit (f s) = f (h.setLimit limit s)

/-- The same host with a limit that is never reached. -/
def patient (h : Host I σ) : Host I σ :=
  { h with answerInTime := fun r s => (some (h.answer r s).1, (h.answer r s).2) }

/-- The same host that gives its answers in time, where it has any, however long it is given. -/
def prompt (h : Host I σ) : Host I σ where
  answer r s := match h.answerInTime r s with
    | (some reply, t) => (reply, t)
    | (none, _) => h.answer r s
  answerInTime := h.answerInTime
  act := h.act
  setLimit := h.setLimit

end Host

namespace Program

variable {I : Interface} {α σ τ : Type}

theorem runInTime_agrees {h : Host I σ} {k : Host I τ} {f : σ → τ} (ha : h.Agrees k f) (p : Program I α) (s : σ) :
    p.runInTime k (f s) = ((p.runInTime h s).1, f (p.runInTime h s).2) := by
  induction p generalizing s with
  | done a => rfl
  | ask r due next ih =>
    simp only [runInTime, ha.answerInTime]
    rcases heq : h.answerInTime r s with ⟨_ | reply, t⟩
    · simp only [Prod.mk.injEq, true_and]
      clear heq
      induction due generalizing t with
      | nil => rfl
      | cons d due ihd => simp only [List.foldl_cons, ha.act]; exact ihd _
    · exact ih reply t
  | act d next ih => simp only [runInTime, ha.act]; exact ih _

/-- A run within the limit gets no answer but those in time. -/
theorem runInTime_with_answer (h : Host I σ) (answer : (r : I.Request) → σ → I.Reply r × σ) (p : Program I α) (s : σ) :
    p.runInTime { h with answer := answer } s = p.runInTime h s := by
  induction p generalizing s with
  | done a => rfl
  | ask r due next ih =>
    simp only [runInTime]
    rcases h.answerInTime r s with ⟨_ | reply, t⟩
    · rfl
    · exact ih reply t
  | act d next ih => exact ih _

theorem runInTime_patient (h : Host I σ) (p : Program I α) (s : σ) :
    p.runInTime h.patient s = (some (p.run h s).1, (p.run h s).2) := by
  induction p generalizing s with
  | done a => rfl
  | ask r due next ih => exact ih _ _
  | act d next ih => exact ih _

/-- What is not cut off is run on the answers in time. -/
theorem run_prompt {h : Host I σ} {p : Program I α} {a : α} {s t : σ} (hr : p.runInTime h s = (some a, t)) :
    p.run h.prompt s = (a, t) := by
  induction p generalizing s with
  | done b =>
    cases hr
    rfl
  | ask r due next ih =>
    simp only [runInTime] at hr
    simp only [run, Host.prompt]
    rcases heq : h.answerInTime r s with ⟨_ | reply, u⟩
    · rw [heq] at hr
      cases hr
    · rw [heq] at hr
      exact ih reply hr
  | act d next ih => exact ih hr

end Program

end FilePlacement
