import FilePlacement.Proofs.Log

/-!
# Hosts that answer alike

Two hosts may differ in what they answer, as long as a program cannot tell: `Host.Resembles` relates the states of
two hosts that give replies which are alike, and a program that goes on alike after replies that are alike
(`Program.Respects`) comes to the same end on both (`runInTime_resembles`). Resembling hosts resemble each other
with a log of what they are asked for, too (`Host.Resembles.logged`).
-/

namespace FilePlacement

variable {I : Interface} {α β σ τ : Type}

/-! ## Programs -/

namespace Program

/-- After two replies that are alike, the program goes on as one. -/
def Respects (Alike : (r : I.Request) → I.Reply r → I.Reply r → Prop) : Program I α → Prop
  | .done _ => True
  | .ask r _ next => (∀ a b, Alike r a b → next a = next b) ∧ ∀ a, (next a).Respects Alike
  | .act _ next => next.Respects Alike

variable {Alike : (r : I.Request) → I.Reply r → I.Reply r → Prop}

theorem Respects.bind {p : Program I α} {f : α → Program I β} (hp : p.Respects Alike)
    (hf : ∀ a, (f a).Respects Alike) : (p.bind f).Respects Alike := by
  induction p with
  | done a => exact hf a
  | ask r due next ih =>
    exact ⟨fun a b hab => congrArg (fun p => p.bind f) (hp.1 a b hab), fun a => ih a (hp.2 a)⟩
  | act d next ih => exact ih hp

/-- A program that asks only for what has one reply at most, up to likeness, cannot tell. -/
theorem AsksOnly.respects {P : I.Request → Prop} {p : Program I α} (hp : p.AsksOnly P)
    (hP : ∀ r, P r → ∀ a b, Alike r a b → a = b) : p.Respects Alike := by
  induction p with
  | done a => trivial
  | ask r due next ih =>
    exact ⟨fun a b hab => congrArg next (hP r hp.1 a b hab), fun a => ih a (hp.2 a)⟩
  | act d next ih => exact ih hp

end Program

namespace Task

variable {Alike : (r : I.Request) → I.Reply r → I.Reply r → Prop}

def Respects (Alike : (r : I.Request) → I.Reply r → I.Reply r → Prop) (t : Task I α) : Prop :=
  Program.Respects Alike t.run

theorem Respects.bind {t : Task I α} {f : α → Task I β} (ht : t.Respects Alike) (hf : ∀ a, (f a).Respects Alike) :
    Respects Alike (t >>= f) := by
  unfold Respects
  rw [ExceptT.run_bind, Program.bind_eq]
  refine Program.Respects.bind ht fun r => ?_
  cases r with
  | ok a => exact hf a
  | error e => trivial

theorem respects_pure (a : α) : Respects Alike (pure a : Task I α) := trivial

theorem respects_ofExcept (r : Except Fault α) : Respects Alike (ofExcept r : Task I α) := by
  cases r <;> trivial

theorem AsksOnly.respects {P : I.Request → Prop} {t : Task I α} (ht : t.AsksOnly P)
    (hP : ∀ r, P r → ∀ a b, Alike r a b → a = b) : t.Respects Alike := Program.AsksOnly.respects ht hP

end Task

/-! ## Hosts -/

/-- In states that `R` relates, two hosts give replies that are alike, and the states stay related. -/
structure Host.Resembles (h : Host I σ) (k : Host I τ) (Alike : (r : I.Request) → I.Reply r → I.Reply r → Prop)
    (R : σ → τ → Prop) : Prop where
  answer : ∀ r s t, R s t → Alike r (h.answer r s).1 (k.answer r t).1 ∧ R (h.answer r s).2 (k.answer r t).2
  answerInTime : ∀ r s t, R s t → Option.Rel (Alike r) (h.answerInTime r s).1 (k.answerInTime r t).1 ∧
    R (h.answerInTime r s).2 (k.answerInTime r t).2
  act : ∀ d s t, R s t → R (h.act d s) (k.act d t)
  setLimit : ∀ limit s t, R s t → R (h.setLimit limit s) (k.setLimit limit t)

namespace Host.Resembles

variable {h : Host I σ} {k : Host I τ} {Alike : (r : I.Request) → I.Reply r → I.Reply r → Prop} {R : σ → τ → Prop}

theorem acts (hr : h.Resembles k Alike R) (ds : List I.Deed) {s : σ} {t : τ} (hst : R s t) :
    R (ds.foldl (fun s d => h.act d s) s) (ds.foldl (fun t d => k.act d t) t) := by
  induction ds generalizing s t with
  | nil => exact hst
  | cons d ds ih => exact ih (hr.act d s t hst)

/-- Logs of the same requests, reply by reply. -/
theorem logged (hr : h.Resembles k Alike R) :
    h.logged.Resembles k.logged Alike fun s t => R s.1 t.1 ∧ s.2.map Entry.request = t.2.map Entry.request where
  answer r s t hst := by
    obtain ⟨halike, hnext⟩ := hr.answer r s.1 t.1 hst.1
    refine ⟨halike, hnext, ?_⟩
    simp [Host.logged, Entry.asked, hst.2]
  answerInTime r s t hst := by
    obtain ⟨halike, hnext⟩ := hr.answerInTime r s.1 t.1 hst.1
    refine ⟨halike, hnext, ?_⟩
    simp [Host.logged, Entry.askedInTime, hst.2]
  act d s t hst := ⟨hr.act d s.1 t.1 hst.1, hst.2⟩
  setLimit limit s t hst := ⟨hr.setLimit limit s.1 t.1 hst.1, hst.2⟩

end Host.Resembles

/-- A program that cannot tell two hosts from each other comes to the same end on both. -/
theorem Program.runInTime_resembles {h : Host I σ} {k : Host I τ}
    {Alike : (r : I.Request) → I.Reply r → I.Reply r → Prop} {R : σ → τ → Prop} (hr : h.Resembles k Alike R)
    {p : Program I α} (hp : p.Respects Alike) {s : σ} {t : τ} (hst : R s t) :
    (p.runInTime h s).1 = (p.runInTime k t).1 ∧ R (p.runInTime h s).2 (p.runInTime k t).2 := by
  induction p generalizing s t with
  | done a => exact ⟨rfl, hst⟩
  | ask r due next ih =>
    obtain ⟨hreply, hnext⟩ := hr.answerInTime r s t hst
    simp only [runInTime]
    rcases hs : h.answerInTime r s with ⟨a, s'⟩
    rcases ht : k.answerInTime r t with ⟨b, t'⟩
    rw [hs, ht] at hreply hnext
    cases hreply with
    | none => exact ⟨rfl, hr.acts due hnext⟩
    | some hab =>
      dsimp only
      rw [← hp.1 _ _ hab]
      exact ih _ (hp.2 _) hnext
  | act d next ih => exact ih hp (hr.act d s t hst)

theorem Task.runInTime_resembles {h : Host I σ} {k : Host I τ}
    {Alike : (r : I.Request) → I.Reply r → I.Reply r → Prop} {R : σ → τ → Prop} (hr : h.Resembles k Alike R)
    {p : Task I α} (hp : p.Respects Alike) {s : σ} {t : τ} (hst : R s t) :
    (Program.runInTime h p s).1 = (Program.runInTime k p t).1 ∧
      R (Program.runInTime h p s).2 (Program.runInTime k p t).2 := Program.runInTime_resembles hr hp hst

end FilePlacement
