import FilePlacement.Proofs.WorldFiles

/-!
# The bytes that are uploaded

An upload names a local file. `Intended` says which one it may be for each kind of source, and what has
to be in it at that moment: the configured file as it was, the body of the response that the download
has ended with, or the data with the spaces behind it; and in each case the digest that is stated.
Every upload of a creation is an intended one, and a source that is unfit makes creating fail without
any (`uploads_intended`).
-/

namespace FilePlacement

open Reconciler

variable {σ : Type}

/-- The file `path` with the contents `now` may be uploaded for a source, where the files were `initial`
at first, downloads have ended with `answers`, and the temporary files `made` have been made. -/
def Intended (tmpDir : String) (source : Source) (initial now : Files) (answers : List Http.Response)
    (made : List (String × String × String)) (path : String) : Prop :=
  match source with
  | .file f =>
    (if f.isUrl then
      ∃ response, Sound response ∧ answers = [response] ∧ made = [(tmpDir, "download", path)] ∧
        now path = .ok response.body.bytes
    else path = f.path ∧ now path = initial path ∧ made = []) ∧ Verified now path f.checksum
  | .raw r =>
    made = [(tmpDir, "raw", path)] ∧
      ∃ bytes, now path = .ok bytes ∧ bytes = r.bytes ++ Artifact.spaces (r.resize.toNat - r.bytes.size) ∧
        (r.resize ≠ 0 → r.bytes.size < r.resize.toNat ∧ bytes.size = r.resize.toNat)

theorem padding_eq {r : SourceRaw} {n : Nat} (hp : r.padding = .ok n) :
    n = r.resize.toNat - r.bytes.size ∧ (r.resize ≠ 0 → r.bytes.size < r.resize.toNat) := by
  unfold SourceRaw.padding at hp
  split at hp
  · rename_i h0
    cases hp
    rw [h0]
    exact ⟨(Nat.zero_sub _).symm, fun hne => absurd rfl hne⟩
  · split at hp
    · cases hp
    · rename_i hlt
      cases hp
      exact ⟨rfl, fun _ => Nat.lt_of_not_le hlt⟩

theorem foldl_padding (bytes : ByteArray) (n : Nat) :
    (if n = 0 then [bytes] else [bytes, Artifact.spaces n]).foldl (· ++ ·) .empty = bytes ++ Artifact.spaces n := by
  split
  · rename_i h0
    subst h0
    exact ByteArray.empty_append.trans ByteArray.append_empty.symm
  · exact congrArg (· ++ Artifact.spaces n) ByteArray.empty_append

theorem size_spaces (n : Nat) : (Artifact.spaces n).size = n := Array.size_replicate

section
variable {h : Host Reconciling σ} {files : σ → Files} {initial : Files} {t t' : σ × List (Entry Reconciling σ)}

theorem gives_resolve (hf : KeepsFiles h files) (tmpDir : String) (source : Source)
    (hr : Ready files (· = initial) [] [] t) :
    (Artifact.resolve tmpDir source).Gives h.logged
      (fun a t => Intended tmpDir source initial (files t.1) (downloads t.2) (temporaries t.2) a.path) t := by
  unfold Artifact.resolve
  refine Task.gives_ofExcept_bind fun fileName _ => ?_
  cases source with
  | file f =>
    dsimp only
    split
    · rename_i hurl
      refine Task.gives_ofExcept_bind fun tls _ => ?_
      refine (gives_download hf tls f.path tmpDir hr).bind fun path t ⟨response, hsound, hready⟩ => ?_
      refine ((gives_verify hf path f.checksum hready).unlessOk _).bind fun _ t hv => ?_
      refine ⟨?_, hv.files.2⟩
      rw [if_pos hurl]
      exact ⟨response, hsound, hv.downloads, hv.temporaries, hv.files.1⟩
    · rename_i hurl
      refine (gives_verify hf f.path f.checksum hr).bind fun _ t hv => ?_
      refine ⟨?_, hv.files.2⟩
      rw [if_neg hurl]
      exact ⟨rfl, congrFun hv.files.1 f.path, hv.temporaries⟩
  | raw r =>
    dsimp only
    refine Task.gives_ofExcept_bind fun n hn => ?_
    obtain ⟨hn, hlt⟩ := padding_eq hn
    refine Task.Gives.bind (gives_filled hf tmpDir "raw" hr fun path t' hempty => ?_) fun path t hi => hi
    refine (gives_appendAll hf path _ hempty).mono fun _ t hfilled => ?_
    have hbytes := hfilled.files
    rw [foldl_padding, hn] at hbytes
    refine ⟨hfilled.temporaries, _, hbytes, rfl, fun hne => ⟨hlt hne, ?_⟩⟩
    rw [ByteArray.size_append, size_spaces]
    have := hlt hne
    omega

theorem gives_contentKind (hf : KeepsFiles h files) (spec : Spec) (fileName : String)
    (hr : Ready files (· = initial) [] [] t) :
    (contentKind spec fileName).Gives h.logged (fun _ t => Ready files (· = initial) [] [] t) t := by
  unfold contentKind
  cases stated spec.contentType with
  | some text => exact Task.gives_ofExcept fun _ _ => hr
  | none =>
    refine Program.wp_bind.2 (Program.wp_bind.2 (Program.wp_ask.2 ⟨fun reply t' ht => ?_, fun _ _ => trivial⟩))
    have hready := (hr.step hf (c := .backend .release) trivial ht).2
    have hinferred : ∀ r : Except Fault ContentKind,
        (Task.ofProgram (.done r) : Task Reconciling ContentKind).Gives h.logged
          (fun _ t => Ready files (· = initial) [] [] t) t' := by
      rintro (f | kind)
      · trivial
      · exact hready
    match reply with
    | .ok release => exact hinferred (ContentKind.infer fileName release.canImport)
    | .error _ => exact hinferred (ContentKind.infer fileName Release.minimum.canImport)

theorem gives_checkCollision (hf : KeepsFiles h files) (node datastore fileName : String) (overwrite : Bool)
    (hr : Ready files (· = initial) [] [] t) :
    (Placement.checkCollision node datastore fileName overwrite).Gives h.logged
      (fun _ t => Ready files (· = initial) [] [] t) t := by
  unfold Placement.checkCollision
  refine Task.wp_bind.2 ((Reconciling.wp_call (.listFiles node datastore)).2
    ⟨fun listing t' ht => ?_, fun _ _ _ => trivial, fun _ _ => trivial⟩)
  have hready := (hr.step hf (c := .backend (.listFiles node datastore)) trivial ht).2
  exact Task.gives_ofExcept fun _ _ => hready

theorem gives_prepare (hf : KeepsFiles h files) (tmpDir : String) (spec : Spec)
    (hr : Ready files (· = initial) [] [] t) :
    (prepare tmpDir spec).Gives h.logged
      (fun p t => spec.source = .ok p.plan.source ∧
        Intended tmpDir p.plan.source initial (files t.1) (downloads t.2) (temporaries t.2) p.artifact.path) t := by
  unfold prepare
  refine Task.gives_ofExcept_bind fun plan hplan => ?_
  refine (gives_contentKind hf spec plan.fileName hr).bind fun kind t hr => ?_
  have hcollision := gives_checkCollision hf spec.nodeName spec.datastoreId plan.fileName spec.overwrite hr
  refine hcollision.bind fun overwritten t hr => ?_
  refine (gives_resolve hf tmpDir plan.source hr).bind fun artifact t ha => ?_
  exact ⟨(fileName_of_plan hplan).1, ha⟩

/-! ## Uploads -/

/-- The file that a call uploads. -/
def Call.upload? : Call → Option Upload
  | .backend call => call.upload?
  | .here _ => none

/-- Every upload of a log is an intended one. -/
def UploadsIntended (files : σ → Files) (tmpDir : String) (spec : Spec) (initial : Files)
    (log : List (Entry Reconciling σ)) : Prop :=
  ∀ e ∈ log, ∀ u, e.call.upload? = some u → ∃ source, spec.source = .ok source ∧
    Intended tmpDir source initial (files e.before) (downloads log) (temporaries log) u.localPath

/-- Requests that upload nothing, download nothing and make nothing temporary. -/
def IdleLog (log : List (Entry Reconciling σ)) : Prop :=
  ∀ e ∈ log, e.call.upload? = none ∧ e.call.finalGet? e.answer = none ∧ e.call.temporary? e.answer = none

theorem UploadsIntended.append {tmpDir : String} {spec : Spec} {log new : List (Entry Reconciling σ)}
    (hl : UploadsIntended files tmpDir spec initial log) (hn : IdleLog new) :
    UploadsIntended files tmpDir spec initial (log ++ new) := by
  have hd : downloads (log ++ new) = downloads log := by
    unfold downloads
    rw [List.filterMap_append, List.filterMap_eq_nil_iff.2 fun e he => (hn e he).2.1, List.append_nil]
  have ht : temporaries (log ++ new) = temporaries log := by
    unfold temporaries
    rw [List.filterMap_append, List.filterMap_eq_nil_iff.2 fun e he => (hn e he).2.2, List.append_nil]
  intro e he u hu
  rw [hd, ht]
  rcases List.mem_append.1 he with he | he
  · exact hl e he u hu
  · rw [(hn e he).1] at hu
    cases hu

theorem Call.upload?_of_quiet {c : Call} (hc : c.Quiet) : c.upload? = none := by
  cases c with
  | here call => rfl
  | backend call =>
    cases call with
    | apiUpload => cases hc.1
    | streamUpload => cases hc.1
    | _ => rfl

theorem uploadsIntended_of_quiet {tmpDir : String} {spec : Spec} {log : List (Entry Reconciling σ)}
    (hq : QuietLog log) : UploadsIntended files tmpDir spec initial log := by
  intro e he u hu
  rw [Call.upload?_of_quiet (hq e he)] at hu
  cases hu

/-- Whatever an upload is answered, it is in the log as intended. -/
theorem uploadsIntended_of_upload {tmpDir : String} {spec : Spec} {source : Source} {s : σ}
    {log : List (Entry Reconciling σ)} (hq : QuietLog log) (hsource : spec.source = .ok source) {c : BackendCall}
    {u : Upload} (hc : c.upload? = some u)
    (hi : Intended tmpDir source initial (files s) (downloads log) (temporaries log) u.localPath) :
    UploadsIntended files tmpDir spec initial (log ++ [.askedInTime h (Call.backend c) s]) := by
  have hd : downloads (log ++ [.askedInTime h (Call.backend c) s]) = downloads log :=
    List.filterMap_append.trans (List.append_nil _)
  have ht : temporaries (log ++ [.askedInTime h (Call.backend c) s]) = temporaries log :=
    List.filterMap_append.trans (List.append_nil _)
  intro e he w hw
  rw [hd, ht]
  rcases List.mem_append.1 he with he | he
  · rw [Call.upload?_of_quiet (hq e he)] at hw
    cases hw
  · rw [List.mem_singleton.1 he] at hw ⊢
    obtain rfl : u = w := Option.some.inj (hc.symm.trans hw)
    exact ⟨source, hsource, hi⟩

theorem Sends.intended (hf : KeepsFiles h files) {tmpDir : String} {spec : Spec} {source : Source}
    (hsource : spec.source = .ok source) {target : Target} {artifact : Artifact} {mode : Option FileMode} {s : σ}
    {log new : List (Entry Reconciling σ)} {success : Bool} (hsends : Sends h target artifact mode s log success new)
    (hq : QuietLog log)
    (hi : Intended tmpDir source initial (files s) (downloads log) (temporaries log) artifact.path) :
    UploadsIntended files tmpDir spec initial new := by
  have hquiet : QuietLog (log ++ [.askedInTime h target.question s]) :=
    hq.append (quietLog_singleton ⟨rfl, rfl⟩)
  cases hsends with
  | unaddressed => exact uploadsIntended_of_quiet hquiet
  | api => exact uploadsIntended_of_upload hq hsource rfl hi
  | stream =>
    -- Asking where to stream to leaves the file as it was.
    have hr : Ready files (· = files s) (downloads log) (temporaries log) (s, log) := ⟨rfl, rfl, rfl⟩
    obtain ⟨hkeep, -, hd, htemp⟩ := hr.step hf (c := target.question) trivial rfl
    rw [← hkeep, ← hd, ← htemp] at hi
    exact uploadsIntended_of_upload hquiet hsource rfl hi

theorem Call.Looks.idle {c : Call} (hc : c.Looks) (reply : Option c.Reply) :
    c.upload? = none ∧ c.finalGet? reply = none ∧ c.temporary? reply = none := by
  refine ⟨Call.upload?_of_quiet hc.quiet, ?_⟩
  cases c with
  | backend call => exact ⟨rfl, rfl⟩
  | here call =>
    cases call with
    | exchange request =>
      refine ⟨?_, rfl⟩
      have hhead : request.method ≠ .get := fun hget => by
        rw [show request.method = .head from hc] at hget
        cases hget
      rcases reply with _ | _ | response
      · rfl
      · rfl
      · exact if_neg fun hboth => hhead hboth.1
    | stat path => exact ⟨rfl, rfl⟩
    | _ => exact hc.elim

theorem wp_place_intended (hf : KeepsFiles h files) (tmpDir : String) (spec : Spec) {s : σ} :
    (place tmpDir spec).wp h.logged (fun _ t => UploadsIntended files tmpDir spec (files s) t.2)
      (fun _ t => UploadsIntended files tmpDir spec (files s) t.2)
      (fun t => UploadsIntended files tmpDir spec (files s) t.2) (s, []) := by
  rw [place_eq]
  have hquiet := Task.wp_of_asksOnly (h := h.logged) (fun t => QuietLog t.2)
    (fun c t hc ht => quiet_answerInTime hc.quiet ht) (fun d t ht => ht) (asksOnly_prepare tmpDir spec)
    (s := (s, [])) (by simp [QuietLog])
  have hprepare := Task.wp_and (gives_prepare hf tmpDir spec ⟨rfl, rfl, rfl⟩) hquiet
  refine Task.wp_bind.2 (Task.wp_mono hprepare (fun p t hp => ?_)
    (fun _ t ht => uploadsIntended_of_quiet ht.2) fun t ht => uploadsIntended_of_quiet ht.2)
  obtain ⟨⟨hsource, hi⟩, hq⟩ := hp
  exact Task.wp_mono (wp_uploadPrepared h spec p t) (fun _ u hu => hu.2.intended hf hsource hq hi)
    (fun _ u hu => hu.intended hf hsource hq hi) fun u hu => hu.intended hf hsource hq hi

theorem wp_attempt_intended (hf : KeepsFiles h files) (tmpDir : String) (spec : Spec) {s : σ} :
    (attempt tmpDir spec).wp h.logged (fun _ t => UploadsIntended files tmpDir spec (files s) t.2)
      (fun _ t => UploadsIntended files tmpDir spec (files s) t.2)
      (fun t => UploadsIntended files tmpDir spec (files s) t.2) (s, []) := by
  refine Task.wp_bind.2 (Task.wp_mono (wp_place_intended hf tmpDir spec) (fun p t ht => ?_) (fun _ _ ht => ht)
    fun _ ht => ht)
  have hread := Task.wp_of_asksOnly (h := h.logged) (fun t => UploadsIntended files tmpDir spec (files s) t.2)
    (fun c t hc ht => ?_) (fun d t ht => ht) (asksOnly_readBack spec p) ht
  · exact Task.wp_bind.2 (Task.wp_mono hread (fun _ _ ht => ht) (fun _ _ ht => ht) fun _ ht => ht)
  · refine ht.append fun e he => ?_
    rw [List.mem_singleton.1 he]
    exact Call.Looks.idle hc _

theorem uploadsIntended_createLog (hf : KeepsFiles h files) (tmpDir : String) (spec : Spec) (s : σ) :
    UploadsIntended files tmpDir spec (files s) (createLog h tmpDir spec s) := by
  have hattempt : UploadsIntended files tmpDir spec (files s) (attemptLog h tmpDir spec s) := by
    have hwp := wp_attempt_intended hf tmpDir spec (s := h.setLimit spec.timeout s)
    rw [hf.setLimit] at hwp
    unfold attemptLog
    change UploadsIntended files tmpDir spec (files s)
      ((attempt tmpDir spec).runInTime h.logged (h.setLimit spec.timeout s, [])).2.2
    rcases hrun : (attempt tmpDir spec).runInTime h.logged (h.setLimit spec.timeout s, []) with ⟨_ | f | o, t⟩
    · have hlog := Task.of_runInTime_none hwp (fun d t ht => ht) hrun
      exact hlog
    · have hlog := Task.of_runInTime_error hwp hrun
      exact hlog
    · have hlog := Task.of_runInTime_ok hwp hrun
      exact hlog
  obtain ⟨undo, hlog, hcourse⟩ := create_course h tmpDir spec s
  rw [hlog]
  refine hattempt.append ?_
  generalize (create h tmpDir spec s).result = result at hcourse
  generalize attemptLog h tmpDir spec s = log at hcourse
  cases hcourse with
  | undone =>
    intro e he
    rw [List.mem_singleton.1 he]
    exact ⟨rfl, rfl, rfl⟩
  | _ => simp [IdleLog]

/-! ## Unfit sources -/

/-- A source that must not be uploaded, where the files were `initial` at first and downloads have ended
with `answers`. -/
inductive Unfit (spec : Spec) (initial : Files) (answers : List Http.Response) : Prop
  /-- The download has ended in an error status, or its body before its end. -/
  | unsound {f : SourceFile} {response : Http.Response} (hsource : spec.source = .ok (.file f)) (hurl : f.isUrl = true)
      (hanswer : response ∈ answers) (hbad : ¬ Sound response)
  /-- What has been downloaded has another digest. -/
  | otherDigest {f : SourceFile} {response : Http.Response} {expected : String}
      (hsource : spec.source = .ok (.file f)) (hurl : f.isUrl = true) (hanswer : response ∈ answers)
      (hstated : stated f.checksum = some expected)
      (hother : Artifact.sameDigits (Digest.sha256 response.body.bytes) expected = false)
  /-- A local file cannot be read or has another digest. -/
  | unverified {f : SourceFile} (hsource : spec.source = .ok (.file f)) (hlocal : f.isUrl = false)
      (hbad : ¬ Verified initial f.path f.checksum)
  /-- Data would have to be cut, or is as long as asked for. -/
  | tooSmall {r : SourceRaw} (hsource : spec.source = .ok (.raw r)) (hresize : r.resize ≠ 0)
      (hle : r.resize.toNat ≤ r.bytes.size)

theorem Unfit.not_intended {spec : Spec} {answers : List Http.Response} (hu : Unfit spec initial answers)
    {tmpDir : String} {source : Source} {now : Files} {made : List (String × String × String)} {path : String}
    (hsource : spec.source = .ok source) : ¬ Intended tmpDir source initial now answers made path := by
  intro hi
  cases hu with
  | unsound hfile hurl hanswer hbad =>
    cases hsource.symm.trans hfile
    obtain ⟨hi, -⟩ := hi
    rw [if_pos hurl] at hi
    obtain ⟨response, hsound, rfl, -, -⟩ := hi
    exact hbad (List.mem_singleton.1 hanswer ▸ hsound)
  | otherDigest hfile hurl hanswer hstated hother =>
    cases hsource.symm.trans hfile
    obtain ⟨hi, hv⟩ := hi
    rw [if_pos hurl] at hi
    obtain ⟨response, -, rfl, -, hnow⟩ := hi
    obtain ⟨bytes, hbytes, hsame⟩ := hv _ hstated
    rw [List.mem_singleton.1 hanswer, ← Except.ok.inj (hbytes.symm.trans hnow), hsame] at hother
    cases hother
  | unverified hfile hlocal hbad =>
    cases hsource.symm.trans hfile
    obtain ⟨hi, hv⟩ := hi
    rw [if_neg (by simp [hlocal])] at hi
    obtain ⟨rfl, hsame, -⟩ := hi
    refine hbad fun expected he => ?_
    obtain ⟨bytes, hbytes, hdigest⟩ := hv expected he
    exact ⟨bytes, hsame ▸ hbytes, hdigest⟩
  | tooSmall hraw hresize hle =>
    cases hsource.symm.trans hraw
    obtain ⟨-, bytes, -, -, hlt⟩ := hi
    exact absurd (hlt hresize).1 (Nat.not_lt_of_le hle)

/-- A creation that succeeds has uploaded something. -/
theorem upload_of_created {tmpDir : String} {spec : Spec} {s : σ} {o : Outcome State}
    (ho : (create h tmpDir spec s).result = .ok o) :
    ∃ e ∈ createLog h tmpDir spec s, ∃ u, e.call.upload? = some u := by
  obtain ⟨undo, hlog, hcourse⟩ := create_course h tmpDir spec s
  rw [hlog]
  rw [ho] at hcourse
  generalize attemptLog h tmpDir spec s = log at hcourse
  cases hcourse with
  | created hid hu hback =>
    obtain ⟨e, he, hv, -⟩ := hu.unique
    refine ⟨e, List.mem_append_left _ (List.mem_append_left _ he), ?_⟩
    have hup := Call.isUpload_of_volume? hv
    unfold Call.isUpload at hup
    split at hup
    · rename_i u heq
      exact ⟨u, by rw [heq]; rfl⟩
    · rename_i u heq
      exact ⟨u, by rw [heq]; rfl⟩
    · cases hup

/-- Where nobody else writes to the local files, every upload is of the intended file with the intended
bytes, verified if a digest is stated. An unfit source makes creating fail, and nothing is uploaded. -/
theorem uploads_intended (hf : KeepsFiles h files) (tmpDir : String) (spec : Spec) (s : σ) :
    (∀ e ∈ createLog h tmpDir spec s, ∀ u, e.call.upload? = some u → ∃ source, spec.source = .ok source ∧
      Intended tmpDir source (files s) (files e.before) (downloads (createLog h tmpDir spec s))
        (temporaries (createLog h tmpDir spec s)) u.localPath) ∧
    (Unfit spec (files s) (downloads (createLog h tmpDir spec s)) →
      (∃ f, (create h tmpDir spec s).result = .error f) ∧
        ∀ e ∈ createLog h tmpDir spec s, e.call.upload? = none) := by
  have hintended := uploadsIntended_createLog hf tmpDir spec s
  refine ⟨hintended, fun hunfit => ?_⟩
  have hnone : ∀ e ∈ createLog h tmpDir spec s, e.call.upload? = none := by
    intro e he
    cases hu : e.call.upload? with
    | none => rfl
    | some u =>
      obtain ⟨source, hsource, hi⟩ := hintended e he u hu
      exact absurd hi (hunfit.not_intended hsource)
  refine ⟨?_, hnone⟩
  cases hresult : (create h tmpDir spec s).result with
  | error f => exact ⟨f, rfl⟩
  | ok o =>
    obtain ⟨e, he, u, hu⟩ := upload_of_created hresult
    rw [hnone e he] at hu
    cases hu

end

/-! ## On a store in memory -/

namespace Memory

/-- A store that holds nothing, on a machine that holds nothing. -/
def vacant : Memory := ⟨.ofTree .empty, ⟨"local", .ok .minimum, some "/var/lib/vz", [], []⟩, [], []⟩

/-- A text of four bytes that is to be streamed with a stated size. -/
def text (resize : UInt64) : Spec :=
  ⟨"node", "local", none, none, some ⟨"text", "notes.yaml", resize⟩, some "0600", true, 60⟩

end Memory

/-- A text is uploaded from its temporary file, and not at all if it were to be cut. -/
theorem uploads_intended_snippet :
    (∃ e ∈ createLog Memory.host "tmp" (Memory.text 6) .vacant, ∃ u, e.call.upload? = some u ∧
      ∃ source, (Memory.text 6).source = .ok source ∧
        Intended "tmp" source Memory.vacant.contents e.before.contents
          (downloads (createLog Memory.host "tmp" (Memory.text 6) .vacant))
          (temporaries (createLog Memory.host "tmp" (Memory.text 6) .vacant)) u.localPath) ∧
      ∃ f, (create Memory.host "tmp" (Memory.text 4) .vacant).result = .error f := by
  constructor
  · have hok : ∃ o, (create Memory.host "tmp" (Memory.text 6) .vacant).result = .ok o := ⟨_, rfl⟩
    obtain ⟨o, ho⟩ := hok
    obtain ⟨e, he, u, hu⟩ := upload_of_created ho
    exact ⟨e, he, u, hu, (uploads_intended Memory.keepsFiles "tmp" (Memory.text 6) .vacant).1 e he u hu⟩
  · exact ((uploads_intended Memory.keepsFiles "tmp" (Memory.text 4) .vacant).2
      (.tooSmall rfl (by decide) (by decide))).1

end FilePlacement
