import FilePlacement.Fault

/-!
# Programs and hosts

A `Program` is a computation that asks its surroundings for everything it cannot do by itself: it
is done, or it waits for the answer to a request, or it does a deed, which needs no answer and
takes no time. A `Host` gives the answers and carries its own state.

A program is run with all the time it wants (`Program.run`), or within a limit
(`Program.runInTime`): then the host may let any request find no answer in time. The program is
cut off there, after the deeds that the request names for this case have been done. `guarded`
makes sure of a deed whichever way a program ends.
-/

namespace FilePlacement

/-- What a kind of program asks for and does. -/
structure Interface where
  Request : Type
  Reply : Request → Type
  Deed : Type

inductive Program (I : Interface) (α : Type) where
  | done (value : α)
  /-- Waits for an answer; the deeds are due if none comes in time. -/
  | ask (request : I.Request) (due : List I.Deed) (next : I.Reply request → Program I α)
  | act (deed : I.Deed) (next : Program I α)

/-- Surroundings with a state. -/
structure Host (I : Interface) (σ : Type) where
  /-- Answers a request, however long it takes. -/
  answer : (r : I.Request) → σ → I.Reply r × σ
  /-- Answers a request before the limit is reached, or not. -/
  answerInTime : (r : I.Request) → σ → Option (I.Reply r) × σ
  act : I.Deed → σ → σ
  /-- Sets the limit to a span from now on. -/
  setLimit : Time.Span → σ → σ

namespace Program

variable {I : Interface} {α β σ : Type}

def bind : Program I α → (α → Program I β) → Program I β
  | .done a, f => f a
  | .ask r due next, f => .ask r due fun reply => (next reply).bind f
  | .act d next, f => .act d (next.bind f)

instance : Monad (Program I) where
  pure := .done
  bind := bind

@[simp] theorem pure_eq (a : α) : (pure a : Program I α) = .done a := rfl

@[simp] theorem bind_eq (p : Program I α) (f : α → Program I β) : p >>= f = p.bind f := rfl

theorem bind_done (p : Program I α) : p.bind .done = p := by
  induction p with
  | done a => rfl
  | ask r due next ih => simp [bind, ih]
  | act d next ih => simp [bind, ih]

theorem bind_assoc {γ : Type} (p : Program I α) (f : α → Program I β) (g : β → Program I γ) :
    (p.bind f).bind g = p.bind fun a => (f a).bind g := by
  induction p with
  | done a => rfl
  | ask r due next ih => simp [bind, ih]
  | act d next ih => simp [bind, ih]

instance : LawfulMonad (Program I) := .mk' (Program I) bind_done (fun _ _ => rfl) bind_assoc

/-- Asks one request. -/
def request (r : I.Request) : Program I (I.Reply r) := .ask r [] .done

/-! ## Running -/

def run (h : Host I σ) : Program I α → σ → α × σ
  | .done a, s => (a, s)
  | .ask r _ next, s => (next (h.answer r s).1).run h (h.answer r s).2
  | .act d next, s => next.run h (h.act d s)

/-- Runs within the limit of the host; no value means that the program was cut off. -/
def runInTime (h : Host I σ) : Program I α → σ → Option α × σ
  | .done a, s => (some a, s)
  | .ask r due next, s =>
    match h.answerInTime r s with
    | (some reply, s) => (next reply).runInTime h s
    | (none, s) => (none, due.foldl (fun s d => h.act d s) s)
  | .act d next, s => next.runInTime h (h.act d s)

theorem run_bind (h : Host I σ) (p : Program I α) (f : α → Program I β) (s : σ) :
    (p.bind f).run h s = (f (p.run h s).1).run h (p.run h s).2 := by
  induction p generalizing s with
  | done a => rfl
  | ask r due next ih => simp [bind, run, ih]
  | act d next ih => simp [bind, run, ih]

theorem runInTime_bind (h : Host I σ) (p : Program I α) (f : α → Program I β) (s : σ) :
    (p.bind f).runInTime h s = match p.runInTime h s with
      | (some a, s) => (f a).runInTime h s
      | (none, s) => (none, s) := by
  induction p generalizing s with
  | done a => rfl
  | ask r due next ih =>
    simp only [bind, runInTime]
    split <;> simp_all
  | act d next ih => simp [bind, runInTime, ih]

/-! ## Deeds that are due in any case -/

/-- Makes a deed due wherever the program is cut off. -/
def holding (d : I.Deed) : Program I α → Program I α
  | .done a => .done a
  | .ask r due next => .ask r (d :: due) fun reply => (next reply).holding d
  | .act e next => .act e (next.holding d)

/-- Makes several deeds due wherever the program is cut off. -/
def holdingAll (ds : List I.Deed) (p : Program I α) : Program I α := ds.foldr holding p

/-- Does deeds when a program ends, and wherever it is cut off. -/
def guarded (ds : List I.Deed) (p : Program I α) : Program I α :=
  (holdingAll ds p).bind fun a => ds.foldr .act (.done a)

end Program

/-! ## Programs that may fail -/

/-- A program that ends in a value or a fault. -/
abbrev Task (I : Interface) (α : Type) := ExceptT Fault (Program I) α

namespace Task

variable {I : Interface} {α : Type}

def ofProgram (p : Program I (Except Fault α)) : Task I α := p

def ofExcept : Except Fault α → Task I α
  | .ok a => pure a
  | .error f => throw f

/-- A program that cannot fail by itself. -/
def lift (p : Program I α) : Task I α := ofProgram (p.bind fun a => .done (.ok a))

/-- A program that fails as the operating system does. -/
def ofIo (p : Program I (Except IoError α)) : Task I α :=
  ofProgram (p.bind fun r => .done (r.mapError Fault.io))

/-- Does a deed unless the task succeeds. -/
def unlessOk (d : I.Deed) (t : Task I α) : Task I α :=
  ofProgram ((Program.holding d t).bind fun
    | .ok a => .done (.ok a)
    | .error f => .act d (.done (.error f)))

/-- Does deeds when a task ends in either way. -/
def guarded (ds : List I.Deed) (t : Task I α) : Task I α := ofProgram (Program.guarded ds t)

end Task

end FilePlacement
