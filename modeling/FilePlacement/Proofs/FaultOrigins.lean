import FilePlacement.Proofs.Course
import FilePlacement.Proofs.Defects
import FilePlacement.Proofs.Identity
import FilePlacement.Proofs.Shelf

/-!
# Where faults come from

A stage fails with what a backend has returned to it, or with a fault of its own; which ones these can be is
said stage by stage (`Task.FaultsIn`). For a desired state without defects, a failed creation has its fault
from a backend, or has failed before an upload and not for a defect, or has failed for a reason that does not
lie in the desired state (`origin_of_create`); an identity that cannot be read is possible as well, but only
for a datastore whose name stands in the way.
-/

namespace FilePlacement

open Reconciler

variable {σ : Type}

/-! ## What backends return -/

/-- A backend has returned this fault. -/
def Call.Returns (f : Fault) : (c : Call) → Option c.Reply → Prop
  | .backend _, some (.error e) => e = f
  | _, _ => False

/-- A backend has returned this fault. -/
def Entry.Returns (f : Fault) (e : Entry Reconciling σ) : Prop := e.call.Returns f e.answer

/-- Some call has returned this fault. -/
def Returned (f : Fault) (log : List (Entry Reconciling σ)) : Prop := ∃ e ∈ log, e.Returns f

theorem Returned.append {f : Fault} {log new : List (Entry Reconciling σ)} (hr : Returned f log) :
    Returned f (log ++ new) := by
  obtain ⟨e, he, hf⟩ := hr
  exact ⟨e, List.mem_append_left new he, hf⟩

theorem returned_of_error {h : Host Reconciling σ} {c : BackendCall} {s t : σ} {f : Fault}
    {log : List (Entry Reconciling σ)} (ht : h.answerInTime (.backend c) s = (some (.error f), t)) :
    Returned f (log ++ [.askedInTime h (.backend c) s]) := by
  refine ⟨Entry.askedInTime h (.backend c) s, by simp, ?_⟩
  change Call.Returns f (.backend c) (h.answerInTime (Call.backend c) s).1
  rw [ht]
  rfl

theorem Program.wp_true {I : Interface} {α : Type} {h : Host I σ} (p : Program I α) (s : σ) :
    p.wp h (fun _ _ => True) (fun _ => True) s := by
  induction p generalizing s with
  | done a => trivial
  | ask r due next ih => exact Program.wp_ask.2 ⟨fun reply t _ => ih reply t, fun t _ => trivial⟩
  | act d next ih => exact ih _

namespace Task

variable {h : Host Reconciling σ} {R R' : Fault → Prop} {α β : Type}

/-- Within the limit, the task fails with what a backend has returned, or in `R`. -/
def FaultsIn (h : Host Reconciling σ) (R : Fault → Prop) (t : Task Reconciling α) : Prop :=
  ∀ s : σ × List (Entry Reconciling σ),
    t.wp h.logged (fun _ _ => True) (fun f u => Returned f u.2 ∨ R f) (fun _ => True) s

namespace FaultsIn

theorem bind {t : Task Reconciling α} {f : α → Task Reconciling β} (ht : t.FaultsIn h R)
    (hf : ∀ a, (f a).FaultsIn h R) : FaultsIn h R (t >>= f) := by
  intro s
  exact wp_bind.2 (wp_mono (ht s) (fun a u _ => hf a u) (fun _ _ he => he) fun _ hc => hc)

theorem pure (a : α) : FaultsIn h R (Pure.pure a : Task Reconciling α) := fun _ => trivial

theorem throw {f : Fault} (hf : R f) : FaultsIn h R (MonadExcept.throw f : Task Reconciling α) := fun _ => Or.inr hf

theorem ofExcept {r : Except Fault α} (hr : ∀ f, r = .error f → R f) :
    FaultsIn h R (Task.ofExcept r : Task Reconciling α) := by
  cases r with
  | ok a => exact pure a
  | error f => exact throw (hr f rfl)

theorem ofExcept_bind {r : Except Fault α} {f : α → Task Reconciling β} (hr : ∀ e, r = .error e → R e)
    (hf : ∀ a, r = .ok a → (f a).FaultsIn h R) : FaultsIn h R (Task.ofExcept r >>= f) := by
  cases r with
  | ok a => exact hf a rfl
  | error e => exact fun s => wp_bind.2 (Or.inr (hr e rfl))

theorem call (c : BackendCall) : FaultsIn h R (Reconciling.call c) := by
  rintro ⟨s, log⟩
  exact Reconciling.wp_call_logged c (fun _ _ _ => trivial) (fun f t ht => Or.inl (returned_of_error ht))
    fun _ _ => trivial

theorem lift (p : Program Reconciling α) : FaultsIn h R (Task.lift p) := fun s => wp_lift.2 (Program.wp_true p s)

theorem ofIo (hR : ∀ e, R (.io e)) (p : Program Reconciling (Except IoError α)) : FaultsIn h R (Task.ofIo p) := by
  intro s
  refine wp_ofIo.2 (Program.wp_mono (Program.wp_true p s) (fun r u _ => ?_) fun _ hc => hc)
  cases r with
  | ok a => trivial
  | error e => exact Or.inr (hR e)

theorem unlessOk {t : Task Reconciling α} (ht : t.FaultsIn h R) (d : LocalDeed) :
    FaultsIn h R (Task.unlessOk (I := Reconciling) d t) := fun s => wp_unlessOk.2 (ht s)

end FaultsIn

end Task

/-! ## Stages -/

/-- A fault that only a request to the cluster comes to. -/
def Fault.isReply : Fault → Bool
  | notFound _ | requestFailed .. | backend _ => true
  | _ => false

section
variable {h : Host Reconciling σ} {R : Fault → Prop}
  (hR : ∀ f : Fault, f.isReply = false → f.kind ≠ .configuration → R f)
include hR

theorem faultsIn_checkCollision (node datastore fileName : String) (overwrite : Bool) :
    (Placement.checkCollision node datastore fileName overwrite).FaultsIn h R := by
  refine .bind (.call _) fun listing => .ofExcept fun f hf => ?_
  unfold Placement.collisions at hf
  split at hf
  · rw [← Except.error.inj hf]
    exact hR _ rfl nofun
  · cases hf

theorem faultsIn_verify (path : String) (checksum : Option String) : (Artifact.verify path checksum).FaultsIn h R := by
  unfold Artifact.verify
  split
  · exact .pure _
  · rename_i expected _
    refine .bind (.ofIo (fun e => hR _ rfl nofun) _) fun bytes => ?_
    dsimp only
    cases Artifact.sameDigits (Digest.sha256 bytes) expected with
    | true => exact .pure _
    | false => exact .throw (hR _ rfl nofun)

theorem faultsIn_appendAll (path : String) (pieces : List ByteArray) :
    (Artifact.appendAll path pieces).FaultsIn h R := by
  induction pieces with
  | nil => exact .pure _
  | cons piece rest ih => exact .bind (.ofIo (fun e => hR _ rfl nofun) _) fun _ => ih

theorem faultsIn_makeTemporary (tmpDir stem : String) {fill : String → Task Reconciling Unit}
    (hf : ∀ path, (fill path).FaultsIn h R) : (Artifact.makeTemporary tmpDir stem fill).FaultsIn h R := by
  unfold Artifact.makeTemporary
  refine .bind (.ofIo (fun e => hR _ rfl nofun) _) fun _ => ?_
  refine .bind (.ofIo (fun e => hR _ rfl nofun) _) fun path => ?_
  exact .bind ((hf path).unlessOk _) fun _ => .pure _

theorem faultsIn_download (tls : Http.TlsPolicy) (url tmpDir : String) :
    (Artifact.download tls url tmpDir).FaultsIn h R := by
  unfold Artifact.download
  refine .bind (.lift _) fun r => ?_
  split
  · exact .throw (hR _ rfl nofun)
  · refine faultsIn_makeTemporary hR tmpDir "download" fun path => ?_
    refine .bind (faultsIn_appendAll hR path _) fun _ => ?_
    split
    · exact .pure _
    · exact .throw (hR _ rfl nofun)

/-- A source that has been validated is resolved without any more doubts about it. -/
theorem faultsIn_resolve (tmpDir : String) {source : Source} (hv : source.validate = .ok ()) :
    (Artifact.resolve tmpDir source).FaultsIn h R := by
  unfold Artifact.resolve
  obtain ⟨name, hname⟩ := exists_fileName_of_validate hv
  refine .bind (.ofExcept fun f hf => nomatch hname.symm.trans hf) fun fileName => ?_
  cases source with
  | file f =>
    dsimp only
    split
    · obtain ⟨tls, htls⟩ := exists_minimumTls_of_validate hv
      refine .bind (.ofExcept fun e he => ?_) fun tls => ?_
      · rw [Artifact.tlsPolicy, htls] at he
        cases he
      · refine .bind (faultsIn_download hR tls f.path tmpDir) fun path => ?_
        exact .bind ((faultsIn_verify hR path f.checksum).unlessOk _) fun _ => .pure _
    · exact .bind (faultsIn_verify hR f.path f.checksum) fun _ => .pure _
  | raw r =>
    obtain ⟨padding, hpadding⟩ := exists_padding_of_validate hv
    refine .bind (.ofExcept fun e he => nomatch hpadding.symm.trans he) fun padding => ?_
    exact .bind (faultsIn_makeTemporary hR tmpDir "raw" fun path => faultsIn_appendAll hR path _) fun _ => .pure _

omit hR in
theorem eq_of_dateOfHeader {value : String} {f : Fault} (hf : Drift.dateOfHeader value = .error f) :
    ∃ text, f = .invalidDateHeader text := by
  rw [← fault?_eq_some_iff] at hf
  unfold Drift.dateOfHeader at hf
  split at hf
  · cases hf
  · rw [fault?_map, fault?_eq_some_iff, Time.HttpDate.parse] at hf
    split at hf
    · cases hf
    · exact ⟨_, (Except.error.inj hf).symm⟩

omit hR in
theorem eq_of_ofResponse {r : Http.Response} {f : Fault} (hf : Drift.ofResponse r = .error f) :
    ∃ text, f = .invalidDateHeader text := by
  unfold Drift.ofResponse at hf
  cases hdate : Drift.dateOfHeader (r.headerText "last-modified") with
  | ok date =>
    rw [hdate] at hf
    cases hf
  | error e =>
    rw [hdate] at hf
    cases hf
    exact eq_of_dateOfHeader hdate

theorem faultsIn_observe {f : SourceFile} {tls : TlsVersion} (htls : f.minimumTls = .ok tls) :
    (Drift.observe f).FaultsIn h R := by
  unfold Drift.observe
  split
  · refine .bind (.ofExcept fun e he => ?_) fun tls => ?_
    · rw [Artifact.tlsPolicy, htls] at he
      cases he
    · unfold Drift.observeUrl
      refine .bind (.lift _) fun r => ?_
      split
      · exact .throw (hR _ rfl nofun)
      · refine .ofExcept fun e he => ?_
        obtain ⟨text, rfl⟩ := eq_of_ofResponse he
        exact hR _ rfl nofun
  · unfold Drift.observeLocal
    refine .bind (.lift _) fun r => ?_
    split
    · exact .pure _
    · exact .pure _
    · exact .throw (hR _ rfl nofun)

/-- Refreshing fails for an identity that cannot be read only if that of the record cannot. -/
theorem faultsIn_refresh {spec : Spec} {state : State}
    (htls : ∀ f, spec.sourceFile = some f → ∃ tls, f.minimumTls = .ok tls)
    (hparse : ∀ f, VolumeId.parse state.id = .error f → R f) : (refresh spec state).FaultsIn h R := by
  unfold refresh
  refine .bind (.call _) fun listing => ?_
  split
  · exact .pure _
  · rename_i entry hfind
    have hid : entry.volumeId = state.id := of_decide_eq_true (List.find?_some hfind :)
    refine .bind (.ofExcept fun f hf => hparse f (hid ▸ hf)) fun v => ?_
    dsimp only
    split
    · exact .pure _
    · rename_i file hfile
      obtain ⟨tls, hfile⟩ := htls file hfile
      exact .bind (faultsIn_observe hR hfile) fun _ => .pure _

theorem faultsIn_readBack {spec : Spec} {p : Placed}
    (htls : ∀ f, spec.sourceFile = some f → ∃ tls, f.minimumTls = .ok tls)
    (hparse : ∀ f, VolumeId.parse p.volume.format = .error f → R f) : (readBack spec p).FaultsIn h R := by
  unfold readBack
  refine .bind (faultsIn_refresh hR htls hparse) fun found => ?_
  split
  · exact .pure _
  · exact .throw (hR _ rfl nofun)

end

/-! ## Creating -/

section
variable {h : Host Reconciling σ} {tmpDir : String} {spec : Spec} {f : Fault} {s : σ}

theorem isDefect_of_kind (hf : f.kind ≠ .configuration) : f.isDefect = false := by
  cases hd : f.isDefect with
  | false => rfl
  | true => exact absurd (Fault.kind_of_isDefect hd) hf

/-- Without defects, the checks of a desired state come to their end. -/
theorem exists_plan (hd : spec.firstDefect? = none) : ∃ p, plan spec = .ok p := by
  rw [firstDefect?_eq, Option.or_eq_none_iff] at hd
  exact fault?_eq_none_iff.1 hd.1

theorem validate_of_plan {p : Plan} (hp : plan spec = .ok p) : p.source.validate = .ok () := by
  obtain ⟨source, hsource, hp⟩ := bind_eq_ok.1 hp
  obtain ⟨_, hvalidate, hp⟩ := bind_eq_ok.1 hp
  obtain ⟨mode, -, hp⟩ := bind_eq_ok.1 hp
  obtain ⟨name, -, hp⟩ := bind_eq_ok.1 hp
  cases hp
  exact hvalidate

theorem isDefect_of_infer {fileName : String} {canImport : Bool}
    (hf : ContentKind.infer fileName canImport = .error f) : f.isDefect = false := by
  unfold ContentKind.infer at hf
  split at hf
  · cases hf
  · split at hf
    · cases hf
    · split at hf
      · cases hf
      · rw [← Except.error.inj hf]
        rfl

theorem faultsIn_contentKind (hd : spec.firstDefect? = none) (fileName : String) :
    (contentKind spec fileName).FaultsIn h fun f => f.isDefect = false := by
  unfold contentKind
  cases hstated : stated spec.contentType with
  | some text =>
    have hkind := firstDefect?_eq_none_iff.1 hd .kind
    simp only [Spec.defect?, hstated, Option.bind_some, ← ContentKind.fault?_parse] at hkind
    obtain ⟨kind, hkind⟩ := fault?_eq_none_iff.1 hkind
    refine .ofExcept fun f hf => ?_
    rw [hkind] at hf
    cases hf
  | none =>
    intro s
    refine Program.wp_bind.2 (Program.wp_mono (Program.wp_true releaseOrMinimum s) (fun release u _ => ?_)
      fun _ hc => hc)
    cases hinfer : ContentKind.infer fileName release.canImport with
    | ok kind => trivial
    | error f => exact Or.inr (isDefect_of_infer hinfer)

/-- Without defects, no stage before the upload finds one. -/
theorem faultsIn_prepare (tmpDir : String) (hd : spec.firstDefect? = none) :
    (prepare tmpDir spec).FaultsIn h fun f => f.isDefect = false := by
  obtain ⟨p, hp⟩ := exists_plan hd
  refine .ofExcept_bind (fun f hf => nomatch hp.symm.trans hf) fun plan hplan => ?_
  refine .bind (faultsIn_contentKind hd plan.fileName) fun kind => ?_
  refine .bind (faultsIn_checkCollision (fun _ _ => isDefect_of_kind) _ _ _ _) fun overwritten => ?_
  exact .bind (faultsIn_resolve (fun _ _ => isDefect_of_kind) tmpDir (validate_of_plan hplan)) fun _ => .pure _

/-- Behind a quiet log, an upload fails with what a backend has returned, or before it is asked for. -/
theorem wp_upload_origin (h : Host Reconciling σ) (target : Target) (artifact : Artifact) (mode : Option FileMode)
    (s : σ) {log : List (Entry Reconciling σ)} (hq : QuietLog log) :
    (Placement.upload target artifact mode).wp h.logged (fun _ _ => True)
      (fun f u => Returned f u.2 ∨ f.isDefect = false ∧ QuietLog u.2) (fun _ => True) (s, log) := by
  unfold Placement.upload
  cases target.kind.transport with
  | api =>
    exact Task.wp_bind.2 (Reconciling.wp_call_logged
      (.apiUpload target.node target.datastore ⟨target.kind.name, artifact.fileName, artifact.path, mode⟩)
      (fun _ _ _ => trivial) (fun f t ht => Or.inl (returned_of_error ht)) fun _ _ => trivial)
  | stream =>
    have hquiet : QuietLog (log ++ [.askedInTime h target.question s]) :=
      hq.append (quietLog_singleton ⟨rfl, rfl⟩)
    unfold Placement.uploadViaStream
    refine Task.wp_bind.2 (Reconciling.wp_call_logged (.datastore target.datastore) (fun d t ht => ?_)
      (fun f t ht => Or.inl (returned_of_error ht)) fun _ _ => trivial)
    cases hd : stated (d : Datastore).path with
    | none => exact Or.inr ⟨rfl, hquiet⟩
    | some path =>
      exact Task.wp_bind.2 (Reconciling.wp_call_logged
        (.streamUpload target.node path ⟨target.kind.directory, artifact.fileName, artifact.path, mode⟩)
        (fun _ _ _ => trivial) (fun f u hu => Or.inl (returned_of_error hu)) fun _ _ => trivial)

/-- What placing has not got from a backend, it finds before an upload. -/
theorem wp_place_origin (h : Host Reconciling σ) (tmpDir : String) (s : σ) (hd : spec.firstDefect? = none) :
    (place tmpDir spec).wp h.logged (fun _ _ => True)
      (fun f u => Returned f u.2 ∨ f.isDefect = false ∧ QuietLog u.2) (fun _ => True) (s, []) := by
  rw [place_eq]
  have hprepare := Task.wp_and (wp_prepare h tmpDir spec s) (faultsIn_prepare tmpDir hd (s, []))
  refine Task.wp_bind.2 (Task.wp_mono hprepare (fun p t hp => ?_) (fun f t ht => ?_) fun _ _ => trivial)
  · have hupload := wp_upload_origin h ⟨spec.nodeName, spec.datastoreId, p.kind⟩ p.artifact p.plan.mode t.1 hp.1.2
    refine Task.wp_bind.2 (Task.wp_mono (Task.wp_guarded_logged (Q := fun _ _ => True)
      (E := fun f log => Returned f log ∨ f.isDefect = false ∧ QuietLog log) (C := fun _ => True) hupload)
      (fun _ _ _ => trivial) (fun _ _ hu => hu) fun _ _ => trivial)
  · exact ht.2.imp_right fun hf => ⟨hf, ht.1⟩

/-- Where the fault of a failed creation is from. -/
inductive Origin (spec : Spec) (log : List (Entry Reconciling σ)) (f : Fault) : Prop
  | backend (hr : Returned f log)
  /-- It is no defect, and nothing has been uploaded. -/
  | preparing (hf : f.isDefect = false) (hl : ∀ e ∈ log, e.call.isUpload = false)
  /-- It does not lie in the desired state. -/
  | elsewhere (hf : f.kind ≠ .configuration)
  | unreadable {v : VolumeId} (hv : IsTarget spec v) (hf : VolumeId.parse v.format = .error f)

theorem exists_minimumTls (hd : spec.firstDefect? = none) {file : SourceFile} (hfile : spec.sourceFile = some file) :
    ∃ tls, file.minimumTls = .ok tls := by
  have htls := firstDefect?_eq_none_iff.1 hd .tls
  simp only [Spec.defect?, hfile, Option.bind_some, ← TlsVersion.fault?_parseMinimum] at htls
  exact fault?_eq_none_iff.1 htls

theorem origin_of_create (hd : spec.firstDefect? = none) (hf : (create h tmpDir spec s).result = .error f) :
    Origin spec (createLog h tmpDir spec s) f := by
  have hplace := Task.wp_and (wp_place h tmpDir spec (h.setLimit spec.timeout s))
    (wp_place_origin h tmpDir (h.setLimit spec.timeout s) hd)
  -- An upload is completed here, so a doubt about its identity is kept apart from the other faults.
  have hback : ∀ p : Placed, (readBack spec p).FaultsIn h fun f =>
      f.kind ≠ .configuration ∨ VolumeId.parse p.volume.format = .error f := fun p =>
    faultsIn_readBack (fun _ _ => Or.inl) (fun _ hfile => exists_minimumTls hd hfile) fun _ => Or.inr
  have hconcludes := create_concludes h.logged tmpDir spec (s, [])
    (Q := fun p _ => IsTarget spec p.volume)
    (E := fun f t => f.kind ≠ .configuration ∨ Returned f t.2 ∨ f.isDefect = false ∧ QuietLog t.2)
    (F := fun p f t => IsTarget spec p.volume ∧
      (Returned f t.2 ∨ f.kind ≠ .configuration ∨ VolumeId.parse p.volume.format = .error f))
    (B := fun _ _ _ => True)
    (Task.wp_mono hplace (fun p t ht => ht.1.isTarget) (fun f t ht => Or.inr ht.2) fun t _ => Or.inl nofun)
    (fun p t hp => Task.wp_mono (hback p t) (fun _ _ _ => trivial) (fun f u hu => ⟨hp, hu⟩)
      fun u _ => ⟨hp, Or.inr (Or.inl nofun)⟩)
    (fun _ _ _ ht => ht) fun _ _ _ _ ht => ht
  rw [create_logged] at hf
  rw [createLog]
  generalize create h.logged tmpDir spec (s, []) = finished at hconcludes hf
  cases hconcludes with
  | @unplaced g t hg =>
    obtain rfl : g = f := Except.error.inj hf
    rcases hg with hkind | hreturned | ⟨hdefect, hquiet⟩
    · exact .elsewhere hkind
    · exact .backend hreturned
    · exact .preparing hdefect fun e he => (hquiet e he).1
  | @undone p g t hg =>
    rw [rollBack_result] at hf
    obtain rfl : g = f := Except.error.inj hf
    rw [rollBack_host]
    obtain ⟨hp, hreturned | hkind | hparse⟩ := hg
    · exact .backend hreturned.append
    · exact .elsewhere hkind
    · exact .unreadable hp hparse
  | created _ => cases hf

/-- A source that has a name has one that is not empty. -/
theorem fileName_ne_empty {source : Source} {name : String} (hn : source.fileName = .ok name) : name ≠ "" := by
  unfold Source.fileName at hn
  split at hn
  · rename_i file
    split at hn
    · rename_i stated hstated
      rw [← Except.ok.inj hn]
      exact stated_ne_empty hstated
    · split at hn
      · rename_i own hown
        rw [← Except.ok.inj hn]
        unfold SourceFile.ownName? at hown
        split at hown
        · split at hown
          · exact stated_ne_empty hown
          · cases hown
        · obtain ⟨last, hlast, rfl⟩ := Option.map_eq_some_iff.1 hown
          simpa using PathName.fileName?_ne_nil hlast
      · cases hn
  · split at hn
    · cases hn
    · rename_i hne
      rw [← Except.ok.inj hn]
      simpa using hne

/-- What a desired state stands for can be read where the name of the datastore is not in the way. -/
theorem IsTarget.readable {v : VolumeId} (hv : IsTarget spec v) (hne : spec.datastoreId ≠ "")
    (hcolon : ':' ∉ spec.datastoreId.toList) : v.Readable := by
  obtain ⟨hdatastore, p, kind, hp, hname, -, hkind⟩ := hv
  obtain ⟨-, hfileName, -⟩ := fileName_of_plan hp
  obtain rfl : v = ⟨spec.datastoreId, kind.name, p.fileName⟩ := by rw [← hdatastore, ← hkind, ← hname]
  exact VolumeId.readable_of_kind kind hne hcolon (fileName_ne_empty hfileName)

/-- A defect of the desired state is found before anything is asked for, and of several defects the first
one. Without defects, no fault is that of one unless a backend returns it; and if the datastore has a name
that can be told apart in an identity, and no backend returns a fault of the configuration, then creating
does not upload anything before it fails for the configuration. -/
theorem checks_come_first (h : Host Reconciling σ) (tmpDir : String) :
    (∀ spec s f, spec.firstDefect? = some f → create h tmpDir spec s = failed spec [] f (h.setLimit spec.timeout s) ∧
      createLog h tmpDir spec s = [] ∧ f.kind = .configuration) ∧
    ∀ spec s f, spec.firstDefect? = none → (create h tmpDir spec s).result = .error f →
      (f.isDefect = true → Returned f (createLog h tmpDir spec s)) ∧
      (spec.datastoreId ≠ "" → ':' ∉ spec.datastoreId.toList →
        (∀ g, Returned g (createLog h tmpDir spec s) → g.kind ≠ .configuration) →
          f.kind = .configuration → ∀ e ∈ createLog h tmpDir spec s, e.call.isUpload = false) := by
  constructor
  · intro spec s f hd
    exact ⟨create_of_defect hd h tmpDir s, createLog_of_defect hd h tmpDir s,
      Fault.kind_of_isDefect (isDefect_of_firstDefect? hd)⟩
  · intro spec s f hd hf
    have horigin := origin_of_create hd hf
    constructor
    · intro hdefect
      cases horigin with
      | backend hreturned => exact hreturned
      | preparing hno _ => rw [hno] at hdefect; cases hdefect
      | elsewhere hkind => exact absurd (Fault.kind_of_isDefect hdefect) hkind
      | unreadable _ hparse =>
        obtain ⟨rfl, -⟩ := VolumeId.parse_eq_error_iff.1 hparse
        cases hdefect
    · intro hne hcolon hbackend hkind
      cases horigin with
      | backend hreturned => exact absurd hkind (hbackend f hreturned)
      | preparing _ hlog => exact hlog
      | elsewhere hother => exact absurd hkind hother
      | unreadable hv hparse =>
        rw [VolumeId.parse_format_iff.2 (hv.readable hne hcolon)] at hparse
        cases hparse

end

/-! ## On a shelf -/

namespace Shelf

variable {datastore tmpDir : String} {spec : Spec} {s : Shelf} {f : Fault}

/-- A shelf that takes what it is given misses files at most. -/
theorem kind_of_perform {call : BackendCall}
    (hf : Call.Returns f (.backend call) (some (s.perform datastore (.ok ()) call).1)) : f.kind ≠ .configuration := by
  cases call with
  | deleteFile node name id =>
    change Call.Returns f (.backend (.deleteFile node name id)) (some (s.delete id).1) at hf
    unfold delete at hf
    split at hf
    · cases hf
    · rw [← show Fault.notFound id = f from hf]
      exact nofun
  | _ => cases hf

theorem kind_of_returned (hr : Returned f (createLog (host datastore (.ok ())) tmpDir spec s)) :
    f.kind ≠ .configuration := by
  obtain ⟨e, he, hf⟩ := hr
  have hl := create_linked (h := host datastore (.ok ())) (v := fun _ => ()) (fun _ _ => rfl) (fun _ _ => rfl)
    tmpDir spec s
  have hg := hl.genuine e he
  obtain ⟨c, reply, before, after⟩ := e
  cases c with
  | here call => cases hf
  | backend call => rcases hg with hg | hg <;> rw [hg] at hf <;> exact kind_of_perform hf

end Shelf

/-- An invalid mode is found before an unknown kind, and in no time. A datastore without a place for its files
is not uploaded to, and what an upload is answered may be anything. -/
theorem checks_come_first_snippet :
    (create (Shelf.host "local" (.ok ())) "tmp"
        { Shelf.snippet with fileMode := some "9", contentType := some "song", timeoutUpload := 0 } .empty).result =
      .error (.invalidFileMode "9") ∧
    (create (Shelf.host "other" (.ok ())) "tmp" Shelf.snippet .empty).result = .error (.noDestinationPath "local") ∧
    (∀ e ∈ createLog (Shelf.host "other" (.ok ())) "tmp" Shelf.snippet .empty, e.call.isUpload = false) ∧
    (create (Shelf.host "local" (.error .missingSource)) "tmp" Shelf.snippet .empty).result = .error .missingSource ∧
    Returned .missingSource (createLog (Shelf.host "local" (.error .missingSource)) "tmp" Shelf.snippet .empty) := by
  have hsound : Shelf.snippet.firstDefect? = none := rfl
  have hunplaced : (create (Shelf.host "other" (.ok ())) "tmp" Shelf.snippet .empty).result =
      .error (.noDestinationPath "local") := rfl
  have hreturned : (create (Shelf.host "local" (.error .missingSource)) "tmp" Shelf.snippet .empty).result =
      .error .missingSource := rfl
  refine ⟨?_, hunplaced, ?_, hreturned, ?_⟩
  · obtain ⟨hresult, -⟩ := (checks_come_first (Shelf.host "local" (.ok ())) "tmp").1
      { Shelf.snippet with fileMode := some "9", contentType := some "song", timeoutUpload := 0 } .empty
      (.invalidFileMode "9") rfl
    rw [hresult]
    rfl
  · exact ((checks_come_first (Shelf.host "other" (.ok ())) "tmp").2 _ _ _ hsound hunplaced).2 (by decide) (by decide)
      (fun _ => Shelf.kind_of_returned) rfl
  · exact ((checks_come_first (Shelf.host "local" (.error .missingSource)) "tmp").2 _ _ _ hsound hreturned).1 rfl

end FilePlacement
