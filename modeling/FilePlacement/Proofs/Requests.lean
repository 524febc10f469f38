import FilePlacement.Proofs.Program
import FilePlacement.Reconcile

/-!
# What reconciling asks for, stage by stage

Creating a file prepares, uploads and reads back. What is asked for while preparing and while
reading back is neither an upload nor a deletion (`asksOnly_prepare`, `asksOnly_readBack`), and of
the web only preparing gets anything: reading back looks at heads. `place_eq` cuts `place` apart at
the upload.
-/

namespace FilePlacement

/-! ## Requests by their effect -/

/-- The content kind that a directory is for. -/
def Upload.kindName (u : Upload) : String :=
  if u.contentType = ContentKind.backup.directory then ContentKind.backup.name else u.contentType

theorem kindName_directory (kind : ContentKind) (fileName localPath : String) (mode : Option FileMode) :
    Upload.kindName ⟨kind.directory, fileName, localPath, mode⟩ = kind.name := by
  cases kind <;> rfl

namespace Call

/-- The volume that an upload is to make. A stream names a directory; `streamed` is the datastore
that it belongs to. -/
def volume? (streamed : String) : Call → Option VolumeId
  | .backend (.apiUpload _ datastore u) => some ⟨datastore, u.contentType, u.fileName⟩
  | .backend (.streamUpload _ _ u) => some ⟨streamed, u.kindName, u.fileName⟩
  | _ => none

def isUpload : Call → Bool
  | .backend (.apiUpload ..) | .backend (.streamUpload ..) => true
  | _ => false

def isDeletion : Call → Bool
  | .backend (.deleteFile ..) => true
  | _ => false

/-- Neither an upload nor a deletion. -/
def Quiet (c : Call) : Prop := c.isUpload = false ∧ c.isDeletion = false

/-- What is asked for to get a source. -/
def Gets : Call → Prop
  | .here (.exchange r) => r.method = .get
  | .here (.makeDirectories _) | .here (.makeTemporary ..) | .here (.append ..) | .here (.contents _) => True
  | _ => False

/-- What is asked for before an upload. -/
def Prepares : Call → Prop
  | .backend (.listFiles ..) | .backend .release => True
  | c => c.Gets

/-- What is asked for to observe a source. -/
def Observes : Call → Prop
  | .here (.exchange r) => r.method = .head
  | .here (.stat _) => True
  | _ => False

/-- What is asked for to refresh a record. -/
def Looks : Call → Prop
  | .backend (.listFiles ..) => True
  | c => c.Observes

theorem Gets.quiet {c : Call} (hc : c.Gets) : c.Quiet := by
  cases c with
  | backend call => exact hc.elim
  | here call => exact ⟨rfl, rfl⟩

theorem Observes.quiet {c : Call} (hc : c.Observes) : c.Quiet := by
  cases c with
  | backend call => exact hc.elim
  | here call => exact ⟨rfl, rfl⟩

theorem Prepares.quiet {c : Call} (hc : c.Prepares) : c.Quiet := by
  unfold Prepares at hc
  split at hc
  · exact ⟨rfl, rfl⟩
  · exact ⟨rfl, rfl⟩
  · exact hc.quiet

theorem Looks.quiet {c : Call} (hc : c.Looks) : c.Quiet := by
  unfold Looks at hc
  split at hc
  · exact ⟨rfl, rfl⟩
  · exact hc.quiet

theorem Gets.prepares {c : Call} (hc : c.Gets) : c.Prepares := by
  cases c with
  | backend call => exact hc.elim
  | here call => exact hc

theorem Observes.looks {c : Call} (hc : c.Observes) : c.Looks := by
  cases c with
  | backend call => exact hc.elim
  | here call => exact hc

end Call

section
variable {P : Call → Prop}

theorem asksOnly_call {c : BackendCall} (hc : P (.backend c)) : (Reconciling.call c).AsksOnly P :=
  ⟨hc, fun _ => trivial⟩

theorem asksOnly_localRequest {c : LocalCall} (hc : P (.here c)) :
    (Reconciling.localRequest c).AsksOnly P := ⟨hc, fun _ => trivial⟩

/-! ## The web -/

/-- A redirect does not turn a `GET` or a `HEAD` into anything else. -/
theorem method_redirected {r next : Http.Request} {status : Http.Status} {url : Url}
    (hm : r.method = .get ∨ r.method = .head) (hr : r.redirected status url = some next) :
    next.method = r.method := by
  unfold Http.Request.redirected at hr
  by_cases hk : status.keepsMethod = true
  · simp only [hk, if_true] at hr
    split at hr
    · simp at hr
    · simp only [Option.some.injEq] at hr
      rw [← hr]
  · simp only [hk, if_false, Option.some.injEq, Bool.false_eq_true] at hr
    rw [← hr]
    rcases hm with hm | hm <;> simp [hm]

theorem method_withCredentials (r : Http.Request) : r.withCredentials.method = r.method := by
  unfold Http.Request.withCredentials
  split <;> rfl

variable {m : Http.Method}

theorem asksOnly_follow (hm : m = .get ∨ m = .head) (hP : ∀ r : Http.Request, r.method = m → P (.here (.exchange r)))
    (left : Nat) (request : Http.Request) (hr : request.method = m) :
    (Http.follow Reconciling.exchange left request).AsksOnly P := by
  induction left generalizing request with
  | zero =>
    unfold Http.follow
    refine Program.AsksOnly.bind (asksOnly_localRequest (hP request hr)) fun reply => ?_
    split
    · trivial
    · split <;> trivial
  | succ left ih =>
    unfold Http.follow
    refine Program.AsksOnly.bind (asksOnly_localRequest (hP request hr)) fun reply => ?_
    split
    · trivial
    · split
      · trivial
      · rename_i next hnext
        obtain ⟨url, -, hnext⟩ := Option.bind_eq_some_iff.1 hnext
        exact ih next ((method_redirected (hr ▸ hm) hnext).trans hr)

theorem asksOnly_fetch (hm : m = .get ∨ m = .head) (hP : ∀ r : Http.Request, r.method = m → P (.here (.exchange r)))
    (tls : Http.TlsPolicy) (location : String) :
    (Http.fetch Reconciling.exchange m tls location).AsksOnly P := by
  unfold Http.fetch
  split
  · trivial
  · refine Program.AsksOnly.bind ?_ fun r => ?_
    · unfold Http.send
      split
      · trivial
      · simp only
        split
        · trivial
        · exact asksOnly_follow hm hP _ _ (method_withCredentials _)
    · split
      · trivial
      · split <;> trivial

end

/-! ## Preparing -/

namespace Reconciler

/-- What has been made ready for an upload. -/
structure Prepared where
  plan : Plan
  kind : ContentKind
  overwritten : List VolumeId
  artifact : Artifact

/-- All that comes before an upload. -/
def prepare (tmpDir : String) (spec : Spec) : Task Reconciling Prepared := do
  let plan ← Task.ofExcept (plan spec)
  let kind ← contentKind spec plan.fileName
  let overwritten ← Placement.checkCollision spec.nodeName spec.datastoreId plan.fileName spec.overwrite
  let artifact ← Artifact.resolve tmpDir plan.source
  return ⟨plan, kind, overwritten, artifact⟩

/-- The upload of what has been made ready. -/
def uploadPrepared (spec : Spec) (p : Prepared) : Task Reconciling Placed := do
  let warnings ← Task.guarded p.artifact.deeds
    (Placement.upload ⟨spec.nodeName, spec.datastoreId, p.kind⟩ p.artifact p.plan.mode)
  return ⟨⟨spec.datastoreId, p.kind.name, p.plan.fileName⟩, p.kind, p.overwritten,
    p.overwritten.map Placement.overwriteWarning ++ warnings⟩

theorem place_eq (tmpDir : String) (spec : Spec) :
    place tmpDir spec = prepare tmpDir spec >>= uploadPrepared spec := by
  simp only [place, prepare, uploadPrepared, bind_assoc, pure_bind]

/-- The content kinds that a file of a desired state can have: the one that is stated, or what the
name suggests to a cluster that can import or cannot. -/
def KindFor (spec : Spec) (fileName : String) (kind : ContentKind) : Prop :=
  match stated spec.contentType with
  | some text => ContentKind.parse text = .ok kind
  | none => ∃ canImport, ContentKind.infer fileName canImport = .ok kind

theorem ends_contentKind (spec : Spec) (fileName : String) :
    (contentKind spec fileName).Ends (KindFor spec fileName) := by
  unfold contentKind KindFor
  cases stated spec.contentType with
  | some text => exact Task.ends_ofExcept fun kind hkind => hkind
  | none =>
    refine Program.Ends.bind (Program.ends_true releaseOrMinimum) fun release _ => ?_
    exact fun kind hkind => ⟨release.canImport, hkind⟩

/-- A content kind is found by itself, or with the release. -/
theorem asksOnly_contentKind {P : Call → Prop} (hP : P (.backend .release)) (spec : Spec) (fileName : String) :
    (contentKind spec fileName).AsksOnly P := by
  unfold contentKind
  split
  · exact Task.asksOnly_ofExcept _
  · refine Program.AsksOnly.bind ?_ fun _ => trivial
    refine Program.AsksOnly.bind (Program.asksOnly_request.2 hP) fun r => ?_
    split <;> trivial

theorem asksOnly_checkCollision (node datastore fileName : String) (overwrite : Bool) :
    (Placement.checkCollision node datastore fileName overwrite).AsksOnly Call.Prepares :=
  Task.AsksOnly.bind (asksOnly_call trivial) fun _ => Task.asksOnly_ofExcept _

theorem asksOnly_verify (path : String) (checksum : Option String) :
    (Artifact.verify path checksum).AsksOnly Call.Gets := by
  unfold Artifact.verify
  split
  · exact Task.asksOnly_pure _
  · rename_i expected _
    refine Task.AsksOnly.bind (Task.AsksOnly.ofIo (asksOnly_localRequest trivial)) fun bytes => ?_
    dsimp only
    cases Artifact.sameDigits (Digest.sha256 bytes) expected with
    | true => exact Task.asksOnly_pure _
    | false => exact Task.asksOnly_throw _

theorem asksOnly_appendAll (path : String) (pieces : List ByteArray) :
    (Artifact.appendAll path pieces).AsksOnly Call.Gets := by
  induction pieces with
  | nil => exact Task.asksOnly_pure _
  | cons piece rest ih =>
    exact Task.AsksOnly.bind (Task.AsksOnly.ofIo (asksOnly_localRequest trivial)) fun _ => ih

theorem asksOnly_makeTemporary (tmpDir stem : String) {fill : String → Task Reconciling Unit}
    (hf : ∀ path, (fill path).AsksOnly Call.Gets) :
    (Artifact.makeTemporary tmpDir stem fill).AsksOnly Call.Gets := by
  unfold Artifact.makeTemporary
  refine Task.AsksOnly.bind (Task.AsksOnly.ofIo (asksOnly_localRequest trivial)) fun _ => ?_
  refine Task.AsksOnly.bind (Task.AsksOnly.ofIo (asksOnly_localRequest trivial)) fun path => ?_
  exact Task.AsksOnly.bind ((hf path).unlessOk _) fun _ => Task.asksOnly_pure _

theorem asksOnly_download (tls : Http.TlsPolicy) (url tmpDir : String) :
    (Artifact.download tls url tmpDir).AsksOnly Call.Gets := by
  unfold Artifact.download
  refine Task.AsksOnly.bind (Task.AsksOnly.lift (asksOnly_fetch (Or.inl rfl) (fun _ hr => hr) tls url)) fun r => ?_
  split
  · exact Task.asksOnly_throw _
  · refine asksOnly_makeTemporary tmpDir "download" fun path => ?_
    refine Task.AsksOnly.bind (asksOnly_appendAll path _) fun _ => ?_
    split
    · exact Task.asksOnly_pure _
    · exact Task.asksOnly_throw _

theorem asksOnly_resolve (tmpDir : String) (source : Source) :
    (Artifact.resolve tmpDir source).AsksOnly Call.Gets := by
  unfold Artifact.resolve
  refine Task.AsksOnly.bind (Task.asksOnly_ofExcept _) fun fileName => ?_
  split
  · rename_i f
    split
    · refine Task.AsksOnly.bind (Task.asksOnly_ofExcept _) fun tls => ?_
      refine Task.AsksOnly.bind (asksOnly_download tls f.path tmpDir) fun path => ?_
      exact Task.AsksOnly.bind ((asksOnly_verify path f.checksum).unlessOk _) fun _ => Task.asksOnly_pure _
    · exact Task.AsksOnly.bind (asksOnly_verify f.path f.checksum) fun _ => Task.asksOnly_pure _
  · refine Task.AsksOnly.bind (Task.asksOnly_ofExcept _) fun padding => ?_
    exact Task.AsksOnly.bind (asksOnly_makeTemporary tmpDir "raw" fun path => asksOnly_appendAll path _)
      fun _ => Task.asksOnly_pure _

theorem asksOnly_prepare (tmpDir : String) (spec : Spec) : (prepare tmpDir spec).AsksOnly Call.Prepares := by
  unfold prepare
  refine Task.AsksOnly.bind (Task.asksOnly_ofExcept _) fun plan => ?_
  refine Task.AsksOnly.bind (asksOnly_contentKind trivial spec plan.fileName) fun kind => ?_
  refine Task.AsksOnly.bind (asksOnly_checkCollision _ _ _ _) fun overwritten => ?_
  have hresolve := (asksOnly_resolve tmpDir plan.source).mono fun _ => Call.Gets.prepares
  exact Task.AsksOnly.bind hresolve fun _ => Task.asksOnly_pure _

/-- An artifact has the name of its source. -/
theorem ends_resolve (tmpDir : String) (source : Source) :
    (Artifact.resolve tmpDir source).Ends fun a => source.fileName = .ok a.fileName := by
  unfold Artifact.resolve
  refine Task.Ends.bind (Task.ends_ofExcept fun name hname => hname) fun fileName hname => ?_
  split
  · split
    · exact Task.Ends.bind' fun tls => Task.Ends.bind' fun path => Task.Ends.bind' fun _ => Task.ends_pure hname
    · exact Task.Ends.bind' fun _ => Task.ends_pure hname
  · exact Task.Ends.bind' fun padding => Task.Ends.bind' fun path => Task.ends_pure hname

theorem fileName_of_plan {spec : Spec} {p : Plan} (hp : plan spec = .ok p) :
    spec.source = .ok p.source ∧ p.source.fileName = .ok p.fileName ∧ spec.mode = .ok p.mode := by
  unfold plan at hp
  obtain ⟨source, hsource, hp⟩ := bind_eq_ok.1 hp
  obtain ⟨-, -, hp⟩ := bind_eq_ok.1 hp
  obtain ⟨mode, hmode, hp⟩ := bind_eq_ok.1 hp
  obtain ⟨name, hname, hp⟩ := bind_eq_ok.1 hp
  cases hp
  exact ⟨hsource, hname, hmode⟩

/-- What has been made ready is what the desired state says. -/
theorem ends_prepare (tmpDir : String) (spec : Spec) :
    (prepare tmpDir spec).Ends fun p =>
      plan spec = .ok p.plan ∧ KindFor spec p.plan.fileName p.kind ∧ p.artifact.fileName = p.plan.fileName := by
  unfold prepare
  refine Task.Ends.bind (Task.ends_ofExcept fun plan hplan => hplan) fun plan hplan => ?_
  refine Task.Ends.bind (ends_contentKind spec plan.fileName) fun kind hkind => Task.Ends.bind' fun overwritten => ?_
  refine Task.Ends.bind (ends_resolve tmpDir plan.source) fun artifact hname => Task.ends_pure ⟨hplan, hkind, ?_⟩
  rw [(fileName_of_plan hplan).2.1] at hname
  exact (Except.ok.inj hname).symm

/-! ## Reading back -/

theorem asksOnly_observe (f : SourceFile) : (Drift.observe f).AsksOnly Call.Observes := by
  unfold Drift.observe
  split
  · refine Task.AsksOnly.bind (Task.asksOnly_ofExcept _) fun tls => ?_
    unfold Drift.observeUrl
    refine Task.AsksOnly.bind (Task.AsksOnly.lift (asksOnly_fetch (Or.inr rfl) (fun _ hr => hr) tls f.path)) fun r => ?_
    split
    · exact Task.asksOnly_throw _
    · exact Task.asksOnly_ofExcept _
  · unfold Drift.observeLocal
    refine Task.AsksOnly.bind (Task.AsksOnly.lift (asksOnly_localRequest trivial)) fun r => ?_
    split
    · exact Task.asksOnly_pure _
    · exact Task.asksOnly_pure _
    · exact Task.asksOnly_throw _

theorem asksOnly_refresh (spec : Spec) (state : State) : (refresh spec state).AsksOnly Call.Looks := by
  unfold refresh
  refine Task.AsksOnly.bind (asksOnly_call trivial) fun listing => ?_
  split
  · exact Task.asksOnly_pure _
  · refine Task.AsksOnly.bind (Task.asksOnly_ofExcept _) fun v => ?_
    simp only
    split
    · exact Task.asksOnly_pure _
    · rename_i file _
      have hobserve := (asksOnly_observe file).mono fun _ => Call.Observes.looks
      exact Task.AsksOnly.bind hobserve fun _ => Task.asksOnly_pure _

theorem asksOnly_readBack (spec : Spec) (p : Placed) : (readBack spec p).AsksOnly Call.Looks := by
  unfold readBack
  refine Task.AsksOnly.bind (asksOnly_refresh spec _) fun r => ?_
  split
  · exact Task.asksOnly_pure _
  · exact Task.asksOnly_throw _

/-- Refreshing does not touch the identity. -/
theorem ends_refresh (spec : Spec) (state : State) :
    (refresh spec state).Ends fun r => ∀ next, r = some next → next.id = state.id := by
  unfold refresh
  refine Task.Ends.bind' fun listing => ?_
  split
  · exact Task.ends_pure (by simp)
  · refine Task.Ends.bind' fun v => ?_
    simp only
    split
    · exact Task.ends_pure (by simp [refreshed])
    · exact Task.Ends.bind' fun observed => Task.ends_pure (by simp [refreshed, withObservation])

theorem ends_readBack (spec : Spec) (p : Placed) : (readBack spec p).Ends fun st => st.id = p.volume.format := by
  unfold readBack
  refine Task.Ends.bind (ends_refresh spec (p.state spec)) fun r hr => ?_
  split
  · exact Task.ends_pure (hr _ rfl)
  · exact Task.ends_throw _

end Reconciler

end FilePlacement
