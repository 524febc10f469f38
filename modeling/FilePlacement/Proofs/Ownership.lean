import FilePlacement.Proofs.LocalFiles

/-!
# Owning temporary files

Whoever has made a temporary file owns it until it is discarded. `Tidy` follows a program with the list of
the path names that it owns: wherever it waits, just the deeds that discard them are due, and it writes to
nothing else than what it owns or has been lent. Whatever answers it gets, a tidy program ends owning what its
value says, and a task that fails owns nothing. All of placing and reading back is tidy (`tidy_place`,
`tidy_readBack`), and so is getting an artifact (`tidy_resolve`).

This is about the program alone, no host is in it. What it means on a host is that whatever the files and the
owned path names satisfy at the beginning, with nothing owned, holds at the end, with nothing owned
(`Program.Tidy.runInTime`). A file belongs to nobody until the request for it has been answered: what a request that
is cut off has made, no program knows of.
-/

namespace FilePlacement

open Reconciler

variable {α β σ : Type}

namespace Call

/-- The path names of temporary files that have been made. -/
def made (c : Call) (reply : Option c.Reply) : List String := ((c.temporary? reply).map fun d => d.2.2).toList

/-- A temporary file is made in one directory, under a name without a slash, and by whoever has no other.
Temporary files are written to where this is allowed. -/
def Permitted (tmpDir : String) (writable : List String) : Call → Prop
  | .here (.makeTemporary dir stem) => dir = tmpDir ∧ '/' ∉ stem.toList ∧ writable = []
  | .here (.append path _) => path ∈ writable
  | _ => True

theorem Permitted.perm {tmpDir : String} {writable others : List String} {c : Call} (hc : c.Permitted tmpDir writable)
    (hp : writable.Perm others) : c.Permitted tmpDir others := by
  cases c with
  | backend call => trivial
  | here call =>
    cases call with
    | makeTemporary dir stem =>
      obtain ⟨hdir, hstem, rfl⟩ := hc
      exact ⟨hdir, hstem, hp.nil_eq.symm⟩
    | append path bytes => exact hp.mem_iff.1 hc
    | _ => exact hc

/-- Neither makes temporary files nor writes to any. -/
def IsPlain : Call → Prop
  | .here (.makeTemporary ..) | .here (.append ..) => False
  | _ => True

theorem IsPlain.permitted {tmpDir : String} {writable : List String} {c : Call} (hc : c.IsPlain) :
    c.Permitted tmpDir writable := by
  cases c with
  | backend call => trivial
  | here call =>
    cases call with
    | makeTemporary dir stem => exact hc.elim
    | append path bytes => exact hc.elim
    | _ => trivial

/-- Refreshing a record only looks. -/
theorem Looks.isPlain {c : Call} (hc : c.Looks) : c.IsPlain := by
  cases c with
  | backend call => trivial
  | here call =>
    cases call with
    | makeTemporary dir stem => exact hc.elim
    | append path bytes => exact hc.elim
    | _ => trivial

theorem made_none (c : Call) : c.made none = [] := by
  cases c with
  | backend call => rfl
  | here call => cases call <;> rfl

theorem IsPlain.made {c : Call} (hc : c.IsPlain) (reply : Option c.Reply) : c.made reply = [] := by
  unfold Call.made temporary?
  split
  · exact hc.elim
  · rfl

end Call

/-! ## Tidy programs -/

namespace Program

/-- Owning `held`, and lent `lent`, a program waits only with the deeds due that discard what it owns, asks
for nothing that is not permitted, discards only what it owns, and ends owning `keeps` of its value. -/
def Tidy (tmpDir : String) (lent : List String) (keeps : α → List String) : Program Reconciling α → List String → Prop
  | .done a, held => held = keeps a
  | .ask c due next, held => due = held.map LocalDeed.discard ∧ Call.Permitted tmpDir (lent ++ held) c ∧
      ∀ reply, (next reply).Tidy tmpDir lent keeps (held ++ Call.made c (some reply))
  | .act d next, held => ∃ path before after, d = LocalDeed.discard path ∧ held = before ++ path :: after ∧
      next.Tidy tmpDir lent keeps (before ++ after)

variable {tmpDir : String} {lent held : List String} {keeps : α → List String} {keeps' : β → List String}

theorem Tidy.bind {p : Program Reconciling α} {f : α → Program Reconciling β} (hp : p.Tidy tmpDir lent keeps held)
    (hf : ∀ a, (f a).Tidy tmpDir lent keeps' (keeps a)) : (p.bind f).Tidy tmpDir lent keeps' held := by
  induction p generalizing held with
  | done a => exact (show held = keeps a from hp) ▸ hf a
  | ask c due next ih => exact ⟨hp.1, hp.2.1, fun reply => ih reply (hp.2.2 reply)⟩
  | act d next ih =>
    obtain ⟨path, before, after, hd, hheld, hp⟩ := hp
    exact ⟨path, before, after, hd, hheld, ih hp⟩

/-- A program that is lent what it holds due for its caller. -/
theorem Tidy.holding {p : Program Reconciling α} {path : String} (hp : p.Tidy tmpDir (path :: lent) keeps held) :
    (p.holding (LocalDeed.discard path)).Tidy tmpDir lent (fun a => path :: keeps a) (path :: held) := by
  induction p generalizing held with
  | done a => exact congrArg (path :: ·) hp
  | ask c due next ih =>
    exact ⟨congrArg (LocalDeed.discard path :: ·) hp.1, hp.2.1.perm List.perm_middle.symm,
      fun reply => ih reply (hp.2.2 reply)⟩
  | act d next ih =>
    obtain ⟨x, before, after, hd, hheld, hp⟩ := hp
    exact ⟨x, path :: before, after, hd, congrArg (path :: ·) hheld, ih hp⟩

theorem tidy_request {c : Call} (hc : c.IsPlain) :
    (Program.request (I := Reconciling) c).Tidy tmpDir lent (fun _ => []) [] :=
  ⟨rfl, hc.permitted, fun reply => hc.made (some reply)⟩

end Program

/-! ## Tidy tasks -/

namespace Task

/-- A task that fails owns nothing. -/
def Tidy (tmpDir : String) (lent : List String) (keeps : α → List String) (t : Task Reconciling α)
    (held : List String) : Prop :=
  Program.Tidy tmpDir lent (fun r => match r with | .ok a => keeps a | .error _ => []) t.run held

variable {tmpDir : String} {lent held : List String} {keeps : α → List String} {keeps' : β → List String}

theorem tidy_pure {a : α} (ha : held = keeps a) : Tidy tmpDir lent keeps (pure a : Task Reconciling α) held := ha

theorem tidy_throw (f : Fault) : Tidy tmpDir lent keeps (throw f : Task Reconciling α) [] := rfl

theorem tidy_ofExcept (r : Except Fault α) : Tidy tmpDir lent (fun _ => []) (ofExcept r : Task Reconciling α) [] := by
  cases r <;> rfl

theorem Tidy.bind {t : Task Reconciling α} {f : α → Task Reconciling β} (ht : t.Tidy tmpDir lent keeps held)
    (hf : ∀ a, (f a).Tidy tmpDir lent keeps' (keeps a)) : Tidy tmpDir lent keeps' (t >>= f) held := by
  unfold Tidy
  rw [ExceptT.run_bind, Program.bind_eq]
  refine Program.Tidy.bind ht fun r => ?_
  cases r with
  | ok a => exact hf a
  | error e => rfl

theorem tidy_lift {p : Program Reconciling α} (hp : p.Tidy tmpDir lent keeps held) :
    Tidy tmpDir lent keeps (Task.lift p) held := Program.Tidy.bind hp fun _ => rfl

theorem tidy_ofIo {p : Program Reconciling (Except IoError α)}
    (hp : p.Tidy tmpDir lent (fun r => match r with | .ok a => keeps a | .error _ => []) held) :
    Tidy tmpDir lent keeps (Task.ofIo p) held := by
  refine Program.Tidy.bind hp fun r => ?_
  cases r <;> rfl

/-- A task that may write to a file until it is discarded, at once if the task fails. -/
theorem Tidy.unlessOk {t : Task Reconciling α} {path : String} (ht : t.Tidy tmpDir (path :: lent) keeps []) :
    Tidy tmpDir lent (fun a => path :: keeps a) (t.unlessOk (LocalDeed.discard path)) [path] := by
  refine Program.Tidy.bind (Program.Tidy.holding ht) fun r => ?_
  cases r with
  | ok a => rfl
  | error f => exact ⟨path, [], [], rfl, rfl, rfl⟩

end Task

/-! ## Requests -/

section
variable {tmpDir : String} {lent : List String}

theorem tidy_call {c : BackendCall} : (Reconciling.call c).Tidy tmpDir lent (fun _ => []) [] :=
  ⟨rfl, trivial, fun reply => by cases reply <;> rfl⟩

theorem tidy_contents (path : String) : (Reconciling.contents path).Tidy tmpDir lent (fun _ => []) [] :=
  Task.tidy_ofIo ⟨rfl, trivial, fun reply => by cases reply <;> rfl⟩

theorem tidy_makeDirectories (path : String) :
    (Reconciling.makeDirectories path).Tidy tmpDir lent (fun _ => []) [] :=
  Task.tidy_ofIo ⟨rfl, trivial, fun reply => by cases reply <;> rfl⟩

theorem tidy_append {path : String} (hp : path ∈ lent) (bytes : ByteArray) :
    (Reconciling.append path bytes).Tidy tmpDir lent (fun _ => []) [] :=
  Task.tidy_ofIo ⟨rfl, List.mem_append_left [] hp, fun reply => by cases reply <;> rfl⟩

theorem tidy_newFile {stem : String} (hs : '/' ∉ stem.toList) :
    (Reconciling.makeTemporary tmpDir stem).Tidy tmpDir [] (fun path => [path]) [] :=
  Task.tidy_ofIo ⟨rfl, ⟨rfl, hs, rfl⟩, fun reply => by cases reply <;> rfl⟩

/-! ## The web -/

theorem tidy_exchange (request : Http.Request) :
    (Reconciling.exchange request).Tidy tmpDir lent (fun _ => []) [] :=
  Program.tidy_request (c := .here (.exchange request)) trivial

theorem tidy_follow (left : Nat) (request : Http.Request) :
    (Http.follow Reconciling.exchange left request).Tidy tmpDir lent (fun _ => []) [] := by
  induction left generalizing request with
  | zero =>
    unfold Http.follow
    refine (tidy_exchange request).bind fun reply => ?_
    split
    · rfl
    · split <;> rfl
  | succ left ih =>
    unfold Http.follow
    refine (tidy_exchange request).bind fun reply => ?_
    split
    · rfl
    · split
      · rfl
      · exact ih _

theorem tidy_send (request : Http.Request) :
    (Http.send Reconciling.exchange request).Tidy tmpDir lent (fun _ => []) [] := by
  unfold Http.send
  split
  · rfl
  · dsimp only
    split
    · rfl
    · exact tidy_follow _ _

theorem tidy_fetch (method : Http.Method) (tls : Http.TlsPolicy) (location : String) :
    (Http.fetch Reconciling.exchange method tls location).Tidy tmpDir lent (fun _ => []) [] := by
  unfold Http.fetch
  split
  · rfl
  · refine (tidy_send _).bind fun r => ?_
    split
    · rfl
    · split <;> rfl

/-! ## Artifacts -/

/-- The temporary file of an artifact, if it is one. -/
def Artifact.kept (a : Artifact) : List String := if a.isTemporary then [a.path] else []

theorem tidy_verify (path : String) (checksum : Option String) :
    (Artifact.verify path checksum).Tidy tmpDir lent (fun _ => []) [] := by
  unfold Artifact.verify
  split
  · exact Task.tidy_pure rfl
  · rename_i expected _
    refine (tidy_contents path).bind fun bytes => ?_
    dsimp only
    cases Artifact.sameDigits (Digest.sha256 bytes) expected with
    | true => exact Task.tidy_pure rfl
    | false => exact Task.tidy_throw _

theorem tidy_appendAll {path : String} (hp : path ∈ lent) (pieces : List ByteArray) :
    (Artifact.appendAll path pieces).Tidy tmpDir lent (fun _ => []) [] := by
  induction pieces with
  | nil => exact Task.tidy_pure rfl
  | cons piece rest ih => exact (tidy_append hp piece).bind fun _ => ih

/-- Whoever fills a file is lent it. -/
theorem tidy_makeTemporary {stem : String} (hs : '/' ∉ stem.toList) {fill : String → Task Reconciling Unit}
    (hf : ∀ path, (fill path).Tidy tmpDir [path] (fun _ => []) []) :
    (Artifact.makeTemporary tmpDir stem fill).Tidy tmpDir [] (fun path => [path]) [] := by
  unfold Artifact.makeTemporary
  refine (tidy_makeDirectories tmpDir).bind fun _ => (tidy_newFile hs).bind fun path => ?_
  exact (hf path).unlessOk.bind fun _ => Task.tidy_pure rfl

theorem tidy_download (tls : Http.TlsPolicy) (url : String) :
    (Artifact.download tls url tmpDir).Tidy tmpDir [] (fun path => [path]) [] := by
  unfold Artifact.download
  refine (Task.tidy_lift (tidy_fetch .get tls url)).bind fun r => ?_
  split
  · exact Task.tidy_throw _
  · refine tidy_makeTemporary (by decide +kernel) fun path => ?_
    refine (tidy_appendAll List.mem_cons_self _).bind fun _ => ?_
    split
    · exact Task.tidy_pure rfl
    · exact Task.tidy_throw _

theorem tidy_resolve (source : Source) : (Artifact.resolve tmpDir source).Tidy tmpDir [] Artifact.kept [] := by
  unfold Artifact.resolve
  refine (Task.tidy_ofExcept _).bind fun fileName => ?_
  split
  · rename_i f
    split
    · refine (Task.tidy_ofExcept _).bind fun tls => (tidy_download tls f.path).bind fun path => ?_
      exact (tidy_verify path f.checksum).unlessOk.bind fun _ => Task.tidy_pure rfl
    · exact (tidy_verify f.path f.checksum).bind fun _ => Task.tidy_pure rfl
  · refine (Task.tidy_ofExcept _).bind fun padding => ?_
    exact (tidy_makeTemporary (by decide +kernel) fun path => tidy_appendAll List.mem_cons_self _).bind fun _ =>
      Task.tidy_pure rfl

/-- An artifact is let go of when what it was got for is over. -/
theorem tidy_guarded_deeds (a : Artifact) {t : Task Reconciling α} (ht : ∀ lent, t.Tidy tmpDir lent (fun _ => []) []) :
    (t.guarded a.deeds).Tidy tmpDir lent (fun _ => []) a.kept := by
  unfold Artifact.deeds Artifact.kept
  split
  · refine Program.Tidy.bind (Program.Tidy.holding (ht (a.path :: lent))) fun r => ?_
    cases r <;> exact ⟨a.path, [], [], rfl, rfl, rfl⟩
  · exact Program.Tidy.bind (ht lent) fun r => rfl

/-- Gets an artifact and lets go of it. -/
def Artifact.resolveAndDrop (tmpDir : String) (source : Source) : Task Reconciling Artifact := do
  let artifact ← Artifact.resolve tmpDir source
  Task.guarded artifact.deeds (pure artifact)

theorem tidy_resolveAndDrop (source : Source) :
    (Artifact.resolveAndDrop tmpDir source).Tidy tmpDir [] (fun _ => []) [] :=
  (tidy_resolve source).bind fun artifact => tidy_guarded_deeds artifact fun _ => Task.tidy_pure rfl

/-! ## Creating -/

theorem tidy_contentKind (spec : Spec) (fileName : String) :
    (contentKind spec fileName).Tidy tmpDir lent (fun _ => []) [] := by
  unfold contentKind
  split
  · exact Task.tidy_ofExcept _
  · have hrelease : releaseOrMinimum.Tidy tmpDir lent (fun _ => []) [] :=
      (Program.tidy_request (c := .backend .release) trivial).bind fun r => by cases r <;> rfl
    refine hrelease.bind fun release => ?_
    cases ContentKind.infer fileName release.canImport <;> rfl

theorem tidy_upload (target : Target) (artifact : Artifact) (mode : Option FileMode) :
    (Placement.upload target artifact mode).Tidy tmpDir lent (fun _ => []) [] := by
  unfold Placement.upload
  split
  · exact tidy_call.bind fun _ => Task.tidy_pure rfl
  · refine tidy_call.bind fun datastore => ?_
    split
    · exact Task.tidy_throw _
    · exact tidy_call.bind fun _ => Task.tidy_pure rfl

theorem tidy_place (spec : Spec) : (place tmpDir spec).Tidy tmpDir [] (fun _ => []) [] := by
  unfold place
  refine (Task.tidy_ofExcept _).bind fun plan => (tidy_contentKind spec plan.fileName).bind fun kind => ?_
  refine Task.Tidy.bind (tidy_call.bind fun _ => Task.tidy_ofExcept _) fun overwritten => ?_
  refine (tidy_resolve plan.source).bind fun artifact => ?_
  exact (tidy_guarded_deeds artifact fun lent => tidy_upload _ artifact plan.mode).bind fun _ => Task.tidy_pure rfl

theorem tidy_observe (f : SourceFile) : (Drift.observe f).Tidy tmpDir lent (fun _ => []) [] := by
  unfold Drift.observe
  split
  · refine (Task.tidy_ofExcept _).bind fun tls => (Task.tidy_lift (tidy_fetch .head tls f.path)).bind fun r => ?_
    split
    · exact Task.tidy_throw _
    · exact Task.tidy_ofExcept _
  · refine Task.Tidy.bind (Task.tidy_lift (Program.tidy_request (c := .here (.stat f.path)) trivial)) fun r => ?_
    split
    · exact Task.tidy_pure rfl
    · exact Task.tidy_pure rfl
    · exact Task.tidy_throw _

theorem tidy_readBack (spec : Spec) (p : Placed) : (readBack spec p).Tidy tmpDir lent (fun _ => []) [] := by
  have hrefresh : (refresh spec (p.state spec)).Tidy tmpDir lent (fun _ => []) [] := by
    unfold refresh
    refine tidy_call.bind fun listing => ?_
    split
    · exact Task.tidy_pure rfl
    · refine (Task.tidy_ofExcept _).bind fun v => ?_
      dsimp only
      split
      · exact Task.tidy_pure rfl
      · exact (tidy_observe _).bind fun _ => Task.tidy_pure rfl
  refine hrefresh.bind fun next => ?_
  split
  · exact Task.tidy_pure rfl
  · exact Task.tidy_throw _

end

/-! ## Running tidy programs -/

/-- What answered requests keep of the files and of what is owned (`J`), and discarding what is owned keeps too, holds
wherever a tidy program ends with a value. Where it is cut off, all that is owned is discarded, from what the
unanswered request has made of `J` on (`K`). -/
theorem Program.Tidy.runInTime {h : Host Reconciling σ} {tmpDir : String} {J K : List String → σ → Prop}
    (hask : ∀ c held s reply t, Call.Permitted tmpDir held c → J held s → h.answerInTime c s = (some reply, t) →
      J (held ++ Call.made c (some reply)) t)
    (hcut : ∀ c held s t, Call.Permitted tmpDir held c → J held s → h.answerInTime c s = (none, t) → K held t)
    (hact : ∀ path before after s, J (before ++ path :: after) s →
      J (before ++ after) (h.act (LocalDeed.discard path) s))
    (hdue : ∀ path rest s, K (path :: rest) s → K rest (h.act (LocalDeed.discard path) s))
    {keeps : α → List String} {p : Program Reconciling α} {held : List String} {s : σ}
    (hp : p.Tidy tmpDir [] keeps held) (hJ : J held s) :
    (∀ a t, p.runInTime h s = (some a, t) → J (keeps a) t) ∧ ∀ t, p.runInTime h s = (none, t) → K [] t := by
  have hall : ∀ held s, K held s → K [] ((held.map LocalDeed.discard).foldl (fun s d => h.act d s) s) := by
    intro held
    induction held with
    | nil => exact fun s hK => hK
    | cons path rest ih => exact fun s hK => ih _ (hdue path rest s hK)
  induction p generalizing held s with
  | done a =>
    obtain rfl : held = keeps a := hp
    refine ⟨fun b t heq => ?_, fun t ht => ?_⟩
    · cases heq
      exact hJ
    · cases ht
  | ask c due next ih =>
    obtain ⟨hdue, hc, hnext⟩ := hp
    simp only [Program.runInTime]
    rcases heq : h.answerInTime c s with ⟨_ | reply, u⟩
    · refine ⟨fun a t ha => ?_, fun t ht => ?_⟩
      · cases ha
      · cases ht
        subst hdue
        exact hall held u (hcut c held s u hc hJ heq)
    · exact ih reply (hnext reply) (hask c held s reply u hc hJ heq)
  | act d next ih =>
    obtain ⟨path, before, after, rfl, rfl, hnext⟩ := hp
    exact ih hnext (hact path before after s hJ)

end FilePlacement
