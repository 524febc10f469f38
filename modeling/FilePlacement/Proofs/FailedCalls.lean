import FilePlacement.Proofs.FaultOrigins
import FilePlacement.Proofs.ReleaseInfluence

/-!
# What becomes of a failed call

Listing a datastore, asking for it and uploading have to succeed: creating fails with the fault of the first of them
that does not (`result_of_failed_call`), and a record is not read where listing fails (`read_of_unlisted`). Nothing
of this takes a fault for the absence of a file.

The release of the cluster need not be told. A host that does not tell it is to creating as one that tells the oldest
one (`create_forgiving`), and so a creation fails with what its other calls return, or with a fault that no request to
a cluster comes to (`fault_of_create`).
-/

namespace FilePlacement

open Reconciler

variable {σ : Type}

/-! ## Calls that have to succeed -/

def Call.mustSucceed : Call → Bool
  | .backend (.listFiles ..) | .backend (.datastore _) | .backend (.apiUpload ..) | .backend (.streamUpload ..) => true
  | _ => false

/-- No call that has to succeed has returned a fault. -/
def Clean (log : List (Entry Reconciling σ)) : Prop := ∀ e ∈ log, e.call.mustSucceed = true → ∀ g, ¬ e.Returns g

/-- No call that has to succeed has returned another fault than this one. -/
def Blames (f : Fault) (log : List (Entry Reconciling σ)) : Prop :=
  ∀ e ∈ log, e.call.mustSucceed = true → ∀ g, e.Returns g → g = f

section
variable {h : Host Reconciling σ} {log : List (Entry Reconciling σ)} {e : Entry Reconciling σ} {s : σ}

theorem Clean.blames (hl : Clean log) (f : Fault) : Blames f log := fun e he hc g hg => absurd hg (hl e he hc g)

theorem Clean.append (hl : Clean log) (he : e.call.mustSucceed = true → ∀ g, ¬ e.Returns g) : Clean (log ++ [e]) := by
  intro x hx
  rcases List.mem_append.1 hx with hx | hx
  · exact hl x hx
  · exact List.mem_singleton.1 hx ▸ he

theorem Blames.append {f : Fault} (hl : Blames f log) (he : e.call.mustSucceed = true → ∀ g, e.Returns g → g = f) :
    Blames f (log ++ [e]) := by
  intro x hx
  rcases List.mem_append.1 hx with hx | hx
  · exact hl x hx
  · exact List.mem_singleton.1 hx ▸ he

theorem returns_askedInTime_iff {c : BackendCall} {g : Fault} :
    (Entry.askedInTime h (.backend c) s : Entry Reconciling σ).Returns g ↔
      (h.answerInTime (Call.backend c) s).1 = some (.error g) := by
  change Call.Returns g (.backend c) (h.answerInTime (Call.backend c) s).1 ↔ _
  rcases (h.answerInTime (Call.backend c) s).1 with _ | f | a
  · exact ⟨nofun, nofun⟩
  · exact ⟨fun hf => congrArg (fun f => some (Except.error f)) hf, fun hf => Except.error.inj (Option.some.inj hf)⟩
  · exact ⟨nofun, nofun⟩

theorem returns_asked_iff {c : BackendCall} {g : Fault} :
    (Entry.asked h (.backend c) s : Entry Reconciling σ).Returns g ↔ (h.answer (Call.backend c) s).1 = .error g := by
  change Call.Returns g (.backend c) (some (h.answer (Call.backend c) s).1) ↔ _
  rcases (h.answer (Call.backend c) s).1 with f | a
  · exact ⟨fun hf => congrArg Except.error hf, fun hf => Except.error.inj hf⟩
  · exact ⟨nofun, nofun⟩

end

/-! ## Stages -/

namespace Task

variable {h : Host Reconciling σ} {α β : Type}

/-- The task fails with the fault of the first call that has to succeed and does not. -/
def Honest (h : Host Reconciling σ) (t : Task Reconciling α) : Prop :=
  ∀ s : σ × List (Entry Reconciling σ), Clean s.2 →
    t.wp h.logged (fun _ u => Clean u.2) (fun f u => Blames f u.2) (fun u => Clean u.2) s

namespace Honest

theorem bind {t : Task Reconciling α} {f : α → Task Reconciling β} (ht : t.Honest h) (hf : ∀ a, (f a).Honest h) :
    Honest h (t >>= f) := by
  intro s hs
  exact wp_bind.2 (wp_mono (ht s hs) (fun a u hu => hf a u hu) (fun _ _ he => he) fun _ hc => hc)

theorem pure (a : α) : Honest h (Pure.pure a : Task Reconciling α) := fun _ hs => hs

theorem throw (f : Fault) : Honest h (MonadExcept.throw f : Task Reconciling α) := fun _ hs => hs.blames f

theorem ofExcept (r : Except Fault α) : Honest h (Task.ofExcept r : Task Reconciling α) := by
  cases r with
  | ok a => exact pure a
  | error f => exact throw f

theorem of_asksOnly {P : Call → Prop} (hP : ∀ c, P c → c.mustSucceed = false) {t : Task Reconciling α}
    (ht : t.AsksOnly P) : t.Honest h := by
  intro s hs
  have hled := leads_of_asksOnly (h := h.logged) (fun u => Clean u.2)
    (fun c u hc hu => hu.append fun hmust => absurd hmust (by simp [Entry.call, Entry.askedInTime, hP c hc]))
    (fun _ _ hu => hu) ht hs
  exact wp_mono hled (fun _ _ hu => hu) (fun f _ hu => hu.blames f) fun _ hu => hu

theorem call (c : BackendCall) : Honest h (Reconciling.call c) := by
  rintro ⟨s, log⟩ hs
  refine Reconciling.wp_call_logged c (fun a t ht => ?_) (fun f t ht => ?_) fun t ht => ?_
  · refine Clean.append hs fun _ g hg => ?_
    rw [returns_askedInTime_iff, ht] at hg
    cases hg
  · refine (hs.blames f).append fun _ g hg => ?_
    rw [returns_askedInTime_iff, ht] at hg
    cases hg
    rfl
  · refine Clean.append hs fun _ g hg => ?_
    rw [returns_askedInTime_iff, ht] at hg
    cases hg

theorem guarded {t : Task Reconciling α} (ht : t.Honest h) (ds : List LocalDeed) :
    Honest h (Task.guarded (I := Reconciling) ds t) := fun s hs => wp_guarded_logged (ht s hs)

end Honest

end Task

section
variable {h : Host Reconciling σ}

theorem honest_prepare (tmpDir : String) (spec : Spec) : (prepare tmpDir spec).Honest h := by
  unfold prepare
  have hgets : ∀ c : Call, c.Gets → c.mustSucceed = false := fun c hc => by
    cases c with
    | backend call => exact hc.elim
    | here call => rfl
  refine .bind (.ofExcept _) fun plan => ?_
  have hkind := asksOnly_contentKind (P := fun c => c.mustSucceed = false) rfl spec plan.fileName
  refine .bind (.of_asksOnly (fun _ hc => hc) hkind) fun kind => ?_
  refine .bind (.bind (.call _) fun listing => .ofExcept _) fun overwritten => ?_
  exact .bind (.of_asksOnly hgets (asksOnly_resolve tmpDir plan.source)) fun artifact => .pure _

theorem honest_upload (target : Target) (artifact : Artifact) (mode : Option FileMode) :
    (Placement.upload target artifact mode).Honest h := by
  unfold Placement.upload
  cases target.kind.transport with
  | api => exact .bind (.call _) fun _ => .pure _
  | stream =>
    refine .bind (.call _) fun d => ?_
    cases stated (d : Datastore).path with
    | none => exact .throw _
    | some path => exact .bind (.call _) fun _ => .pure _

theorem honest_place (tmpDir : String) (spec : Spec) : (place tmpDir spec).Honest h := by
  rw [place_eq]
  refine .bind (honest_prepare tmpDir spec) fun p => ?_
  exact .bind (.guarded (honest_upload _ _ _) _) fun _ => .pure _

theorem honest_readBack (spec : Spec) (p : Placed) : (readBack spec p).Honest h := by
  have hobserves : ∀ c : Call, c.Observes → c.mustSucceed = false := fun c hc => by
    cases c with
    | backend call => exact hc.elim
    | here call => rfl
  refine .bind (.bind (.call _) fun listing => ?_) fun found => ?_
  · split
    · exact .pure _
    · refine .bind (.ofExcept _) fun v => ?_
      dsimp only
      split
      · exact .pure _
      · exact .bind (.of_asksOnly hobserves (asksOnly_observe _)) fun _ => .pure _
  · split
    · exact .pure _
    · exact .throw _

end

/-! ## Operations -/

section
variable (h : Host Reconciling σ) (tmpDir : String) (spec : Spec) (s : σ)

/-- Creating fails with the fault of a call that has to succeed and does not. -/
theorem result_of_failed_call {e : Entry Reconciling σ} (he : e ∈ createLog h tmpDir spec s)
    (hc : e.call.mustSucceed = true) {f : Fault} (hf : e.Returns f) : (create h tmpDir spec s).result = .error f := by
  have hbegin : Clean (h.logged.setLimit spec.timeout (s, ([] : List (Entry Reconciling σ)))).2 :=
    fun x hx => absurd hx List.not_mem_nil
  have hconcludes := create_concludes h.logged tmpDir spec (s, []) (Q := fun _ t => Clean t.2)
    (E := fun f t => Blames f t.2) (F := fun _ f t => Blames f t.2) (B := fun _ _ t => Clean t.2)
    (Task.wp_mono (honest_place tmpDir spec _ hbegin) (fun _ _ ht => ht) (fun _ _ ht => ht)
      fun t ht => Clean.blames ht _)
    (fun p t hp => Task.wp_mono (honest_readBack spec p t hp) (fun _ _ ht => ht) (fun _ _ ht => ht)
      fun t ht => Clean.blames ht _)
    (fun _ _ _ ht => ht) fun _ _ _ _ ht => ht
  rw [create_logged]
  unfold createLog at he
  generalize create h.logged tmpDir spec (s, []) = finished at hconcludes he
  generalize ((attempt tmpDir spec).runInTime h.logged (h.logged.setLimit spec.timeout (s, []))).2 = t at hconcludes
  cases hconcludes with
  | @unplaced g _ hg =>
    obtain rfl : f = g := hg e he hc f hf
    rfl
  | @undone p g _ hg =>
    rw [rollBack_host] at he
    rw [rollBack_result]
    have hblames : Blames g (t.2 ++ [.asked h (deletion spec p.volume) t.1]) :=
      hg.append fun hmust => absurd hmust Bool.false_ne_true
    obtain rfl : f = g := hblames e he hc f hf
    rfl
  | created ht => exact absurd hf (ht e he hc f)

/-- A call that has to succeed has no more time than creating. -/
theorem askedInTime_of_mustSucceed {e : Entry Reconciling σ} (he : e ∈ createLog h tmpDir spec s)
    (hc : e.call.mustSucceed = true) : e = .askedInTime h e.request e.before := by
  have hattempt : ∀ x ∈ attemptLog h tmpDir spec s, x = .askedInTime h x.request x.before := by
    refine Program.of_runInTime (h := h.logged)
      (R := fun t : σ × List (Entry Reconciling σ) => ∀ x ∈ t.2, x = .askedInTime h x.request x.before)
      (Program.wp_of_asksOnly _ (fun c t _ ht x hx => ?_) (fun _ _ ht => ht)
        (Program.asksOnly_true (attempt tmpDir spec).run) fun x hx => absurd hx List.not_mem_nil) fun _ _ ht => ht
    rcases List.mem_append.1 hx with hx | hx
    · exact ht x hx
    · rw [List.mem_singleton.1 hx]
      rfl
  obtain ⟨undo, hlog, hcourse⟩ := create_course h tmpDir spec s
  rw [hlog] at he
  rcases List.mem_append.1 he with he | he
  · exact hattempt e he
  · generalize attemptLog h tmpDir spec s = log at hcourse
    generalize (create h tmpDir spec s).result = r at hcourse
    cases hcourse with
    | undone hlog hback =>
      rw [List.mem_singleton.1 he] at hc
      exact absurd hc Bool.false_ne_true
    | _ => exact absurd he List.not_mem_nil

/-- A record is not read where listing fails. -/
theorem read_of_unlisted (state : State) {f : Fault} {t : σ}
    (hl : h.answer (Call.backend (.listFiles spec.nodeName spec.datastoreId)) s = (.error f, t)) :
    (read h spec state s).result = .error f := by
  have hlisted : Program.run h (Reconciling.listFiles spec.nodeName spec.datastoreId) s = (.error f, t) := hl
  unfold Reconciler.read refresh
  rw [Task.run_bind, hlisted]

theorem read_ne_none {p : Task Reconciling (Option State)} (hp : p.Ends fun r => r ≠ none) (t : σ) :
    (match Program.run h p t with
      | (.ok next, u) => (⟨.ok ⟨next, []⟩, [], u⟩ : Finished σ (Option State))
      | (.error f, u) => ⟨.error f, [], u⟩).result ≠ .ok ⟨none, []⟩ := by
  have hend := Program.Ends.run hp h t
  change ∀ a, (Program.run h p t).1 = .ok a → a ≠ none at hend
  rcases hrun : Program.run h p t with ⟨f | next, u⟩
  · exact nofun
  · intro hnone
    rw [hrun] at hend
    refine hend next rfl ?_
    simpa using hnone

/-- A record is absent where listing succeeds without it, and nowhere else. -/
theorem read_eq_none_iff (state : State) : (read h spec state s).result = .ok ⟨none, []⟩ ↔
    ∃ (listing : List Listed) (t : σ),
      h.answer (Call.backend (.listFiles spec.nodeName spec.datastoreId)) s = (.ok listing, t) ∧
        ∀ entry ∈ listing, entry.volumeId ≠ state.id := by
  rcases hl : h.answer (Call.backend (.listFiles spec.nodeName spec.datastoreId)) s with ⟨f | listing, t⟩
  · rw [read_of_unlisted h spec s state hl]
    refine ⟨nofun, ?_⟩
    rintro ⟨listing, t', heq, -⟩
    cases heq
  · have hlisted : Program.run h (Reconciling.listFiles spec.nodeName spec.datastoreId) s = (.ok listing, t) := hl
    change List Listed at listing
    unfold Reconciler.read refresh
    rw [Task.run_bind, hlisted]
    dsimp only
    cases hfind : listing.find? fun entry => entry.volumeId = state.id with
    | none =>
      have habsent : ∀ entry ∈ listing, entry.volumeId ≠ state.id := by simpa using hfind
      exact iff_of_true rfl ⟨listing, t, rfl, habsent⟩
    | some entry =>
      refine iff_of_false ?_ ?_
      · refine read_ne_none h (Task.Ends.bind' fun v => ?_) t
        split
        · exact Task.ends_pure nofun
        · exact Task.Ends.bind' fun observed => Task.ends_pure nofun
      · rintro ⟨listing', t', heq, habsent⟩
        cases heq
        have hid := List.find?_some hfind
        exact habsent entry (List.mem_of_find?_eq_some hfind) (by simpa using hid)

end

/-! ## The release -/

/-- The release that is told, the oldest one where none is told. -/
def forgiven (reply : Except Fault Release) : Except Fault Release := .ok (reply.toOption.getD .minimum)

/-- The same host, but it tells the oldest release where it tells none. -/
def Host.forgiving (h : Host Reconciling σ) : Host Reconciling σ where
  answer
    | .backend .release, s =>
      (forgiven (h.answer (Call.backend .release) s).1, (h.answer (Call.backend .release) s).2)
    | c, s => h.answer c s
  answerInTime
    | .backend .release, s =>
      ((h.answerInTime (Call.backend .release) s).1.map forgiven, (h.answerInTime (Call.backend .release) s).2)
    | c, s => h.answerInTime c s
  act := h.act
  setLimit := h.setLimit

section
variable {h : Host Reconciling σ}

theorem tooOld_forgiven (reply : Except Fault Release) : TooOld reply ↔ TooOld (forgiven reply) := by
  have hminimum : TooOld (.ok .minimum) := by decide
  cases reply with
  | ok release => exact Iff.rfl
  | error f => exact iff_of_true trivial hminimum

theorem forgiving_answer {c : Call} (hc : c ≠ .backend .release) (s : σ) : h.forgiving.answer c s = h.answer c s := by
  cases c with
  | backend call => cases call <;> first | rfl | exact absurd rfl hc
  | here call => rfl

theorem forgiving_answerInTime {c : Call} (hc : c ≠ .backend .release) (s : σ) :
    h.forgiving.answerInTime c s = h.answerInTime c s := by
  cases c with
  | backend call => cases call <;> first | rfl | exact absurd rfl hc
  | here call => rfl

theorem forgiving_resembles (h : Host Reconciling σ) : h.Resembles h.forgiving Call.Alike Eq where
  answer c s t hst := by
    subst hst
    by_cases hc : c = .backend .release
    · subst hc
      exact ⟨tooOld_forgiven _, rfl⟩
    · rw [forgiving_answer hc]
      exact ⟨Call.Alike.of_eq rfl, rfl⟩
  answerInTime c s t hst := by
    subst hst
    by_cases hc : c = .backend .release
    · subst hc
      refine ⟨?_, rfl⟩
      change Option.Rel _ (h.answerInTime (Call.backend .release) s).1
        ((h.answerInTime (Call.backend .release) s).1.map forgiven)
      cases (h.answerInTime (Call.backend .release) s).1 with
      | none => exact .none
      | some reply => exact .some (tooOld_forgiven reply)
    · rw [forgiving_answerInTime hc]
      refine ⟨?_, rfl⟩
      cases (h.answerInTime c s).1 with
      | none => exact .none
      | some _ => exact .some (Call.Alike.of_eq rfl)
  act d s t hst := congrArg (h.act d) hst
  setLimit limit s t hst := congrArg (h.setLimit limit) hst

/-- To creating, a host that does not tell its release tells the oldest one. -/
theorem create_forgiving (h : Host Reconciling σ) (tmpDir : String) (spec : Spec) (s : σ) :
    create h tmpDir spec s = create h.forgiving tmpDir spec s := by
  obtain ⟨hresult, hevents, hhost⟩ := create_resembles (forgiving_resembles h) tmpDir spec (rfl : s = s)
  generalize create h tmpDir spec s = finished at hresult hevents hhost
  generalize create h.forgiving tmpDir spec s = finished' at hresult hevents hhost
  cases finished
  cases finished'
  cases hresult
  cases hevents
  cases hhost
  rfl

/-- So no release is a failed call. -/
theorem not_returns_of_release {e : Entry Reconciling σ} (hg : e.Genuine h.forgiving)
    (hc : e.call = .backend .release) (f : Fault) : ¬ e.Returns f := by
  obtain ⟨c, reply, before, after⟩ := e
  obtain rfl : c = Call.backend .release := hc
  intro hf
  rcases hg with hg | hg <;> rw [hg] at hf
  · change Call.Returns f (.backend .release) ((h.answerInTime (Call.backend .release) before).1.map forgiven) at hf
    cases hreply : (h.answerInTime (Call.backend .release) before).1 with
    | none => rw [hreply] at hf; exact hf
    | some reply => rw [hreply] at hf; exact hf
  · exact hf

end

/-! ## Faults of creating -/

theorem isReply_of_isDefect {f : Fault} (hf : f.isDefect = true) : f.isReply = false := by
  cases f <;> first | rfl | cases hf

section
variable {h : Host Reconciling σ} {spec : Spec}

/-- A stage fails with what a backend has returned, or with a fault that no request to a cluster comes to. -/
abbrev Task.FaultsOwn (h : Host Reconciling σ) {α : Type} (t : Task Reconciling α) : Prop :=
  t.FaultsIn h fun f => f.isReply = false

theorem faultsOwn_contentKind (fileName : String) : (contentKind spec fileName).FaultsOwn h := by
  unfold contentKind
  split
  · rename_i text _
    refine .ofExcept fun f hf => ?_
    unfold ContentKind.parse at hf
    split at hf
    · cases hf
    · rw [← Except.error.inj hf]
      rfl
  · intro s
    refine Program.wp_bind.2 (Program.wp_mono (Program.wp_true releaseOrMinimum s) (fun release u _ => ?_)
      fun _ hc => hc)
    cases hinfer : ContentKind.infer fileName release.canImport with
    | ok kind => trivial
    | error f =>
      right
      unfold ContentKind.infer at hinfer
      split at hinfer
      · cases hinfer
      · split at hinfer
        · cases hinfer
        · split at hinfer
          · cases hinfer
          · rw [← Except.error.inj hinfer]
            rfl

theorem faultsOwn_upload (target : Target) (artifact : Artifact) (mode : Option FileMode) :
    (Placement.upload target artifact mode).FaultsOwn h := by
  unfold Placement.upload
  cases target.kind.transport with
  | api => exact .bind (.call _) fun _ => .pure _
  | stream =>
    refine .bind (.call _) fun d => ?_
    cases stated (d : Datastore).path with
    | none => exact .throw rfl
    | some path => exact .bind (.call _) fun _ => .pure _

theorem faultsOwn_place (tmpDir : String) (hd : spec.firstDefect? = none) : (place tmpDir spec).FaultsOwn h := by
  obtain ⟨p, hp⟩ := exists_plan hd
  unfold place
  refine .ofExcept_bind (fun f hf => nomatch hp.symm.trans hf) fun plan hplan => ?_
  refine .bind (faultsOwn_contentKind plan.fileName) fun kind => ?_
  refine .bind (faultsIn_checkCollision (fun _ hf _ => hf) _ _ _ _) fun overwritten => ?_
  refine .bind (faultsIn_resolve (fun _ hf _ => hf) tmpDir (validate_of_plan hplan)) fun artifact => ?_
  refine .bind (fun s => ?_) fun warnings => .pure _
  exact Task.wp_guarded_logged (Q := fun _ _ => True) (E := fun f log => Returned f log ∨ f.isReply = false)
    (C := fun _ => True) (faultsOwn_upload _ _ _ s)

theorem faultsOwn_readBack (hd : spec.firstDefect? = none) (p : Placed) : (readBack spec p).FaultsOwn h := by
  refine faultsIn_readBack (fun _ hf _ => hf) (fun _ hfile => exists_minimumTls hd hfile) fun f hf => ?_
  rw [(VolumeId.parse_eq_error_iff.1 hf).1]
  rfl

/-- A fault of creating is one that a call has returned, or one that no request to a cluster comes to. -/
theorem fault_of_create {tmpDir : String} {s : σ} {f : Fault} (hf : (create h tmpDir spec s).result = .error f) :
    Returned f (createLog h tmpDir spec s) ∨ f.isReply = false := by
  cases hd : spec.firstDefect? with
  | some g =>
    rw [create_of_defect hd] at hf
    obtain rfl : g = f := Except.error.inj hf
    exact .inr (isReply_of_isDefect (isDefect_of_firstDefect? hd))
  | none =>
    have hconcludes := create_concludes h.logged tmpDir spec (s, []) (Q := fun _ _ => True)
      (E := fun f t => Returned f t.2 ∨ f.isReply = false) (F := fun _ f t => Returned f t.2 ∨ f.isReply = false)
      (B := fun _ _ _ => True)
      (Task.wp_mono (faultsOwn_place tmpDir hd _) (fun _ _ _ => trivial) (fun _ _ ht => ht) fun _ _ => .inr rfl)
      (fun p t _ => Task.wp_mono (faultsOwn_readBack hd p t) (fun _ _ _ => trivial) (fun _ _ ht => ht)
        fun _ _ => .inr rfl)
      (fun _ _ _ ht => ht) fun _ _ _ _ ht => ht
    rw [create_logged] at hf
    unfold createLog
    generalize create h.logged tmpDir spec (s, []) = finished at hconcludes hf
    generalize ((attempt tmpDir spec).runInTime h.logged (h.logged.setLimit spec.timeout (s, []))).2 = t at hconcludes
    cases hconcludes with
    | @unplaced g _ hg =>
      obtain rfl : g = f := Except.error.inj hf
      exact hg
    | @undone p g _ hg =>
      rw [rollBack_result] at hf
      obtain rfl : g = f := Except.error.inj hf
      rw [rollBack_host]
      exact hg.imp_left Returned.append
    | created _ => cases hf

end

end FilePlacement
