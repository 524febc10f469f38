import FilePlacement.Proofs.CallSequence
import FilePlacement.Proofs.Releases
import FilePlacement.Proofs.Resemblance

/-!
# What the release of a cluster decides

A release that can import disk images gives a kind to the names of such images, which have none otherwise; the kind
of any other name does not depend on it (`infer_of_import`, `infer_of_not_import`). Nothing else asks for the
release: a cluster that does not tell one, tells it in a text that cannot be read or tells an old one is the same to
whoever creates a file, and so is one that tells any release that can import (`create_resembles`). Where a content
kind is stated, the release is not asked for (`release_not_asked`).
-/

namespace FilePlacement

open Reconciler

variable {σ τ : Type}

/-! ## Releases -/

/-- No release that can import is told: the request fails, the text cannot be read, or the release comes before the
first one that can import. -/
def TooOld : Except Fault Release → Prop
  | .ok release => release.numbers < [8, 4, 0]
  | .error _ => True

instance : DecidablePred TooOld
  | .ok release => inferInstanceAs (Decidable (release.numbers < [8, 4, 0]))
  | .error _ => inferInstanceAs (Decidable True)

/-- What is taken for the release of a cluster can import, unless the cluster tells none that can. -/
theorem canImport_told (reply : Except Fault Release) :
    (reply.toOption.getD .minimum).canImport = true ↔ ¬ TooOld reply := by
  cases reply with
  | ok release => exact release.canImport_iff
  | error f =>
    have hminimum : Release.minimum.canImport = false := rfl
    exact iff_of_false (by simp [Except.toOption, hminimum]) (not_not_intro trivial)

/-! ## Kinds of names -/

namespace ContentKind

theorem endsIn_iff {endings : List String} {name : String} :
    endsIn endings name = true ↔ ∃ e ∈ endings, e.toList <:+ name.toList := by
  simp [endsIn]

/-- The name of a disk image is not that of a container template. -/
theorem not_endsIn_template {name : String} (hi : endsIn importEndings name = true) :
    endsIn templateEndings name = false := by
  have hapart : ∀ i ∈ importEndings, ∀ t ∈ templateEndings, ¬ i.toList <:+ t.toList ∧ ¬ t.toList <:+ i.toList := by
    decide
  obtain ⟨i, himport, hi⟩ := endsIn_iff.1 hi
  refine Bool.eq_false_iff.2 fun ht => ?_
  obtain ⟨t, htemplate, ht⟩ := endsIn_iff.1 ht
  obtain ⟨hit, hti⟩ := hapart i himport t htemplate
  exact (List.suffix_or_suffix_of_suffix hi ht).elim hit hti

/-- The extension of a disk image stands for no kind. -/
theorem ofExtension?_of_import {name : String} (hi : endsIn importEndings name = true) :
    ((PathName.extension? name.toList).bind fun ext => ofExtension? (String.ofList ext)) = none := by
  have hextension : ∀ e ∈ importEndings, e.toList = '.' :: e.toList.tail ∧ e.toList.tail ≠ [] ∧ '.' ∉ e.toList.tail ∧
      '/' ∉ e.toList.tail ∧ ofExtension? (String.ofList e.toList.tail) = none := by
    decide
  obtain ⟨e, he, hsuffix⟩ := endsIn_iff.1 hi
  obtain ⟨hcons, hne, hpoint, hslash, hkind⟩ := hextension e he
  rw [hcons] at hsuffix
  rcases PathName.extension?_of_suffix hsuffix hne hpoint hslash with hext | hext
  · rw [hext, Option.bind_some]
    exact hkind
  · rw [hext, Option.bind_none]

/-- Whether a cluster can import decides on the name of a disk image. -/
theorem infer_of_import {name : String} (hi : endsIn importEndings name = true) :
    infer name true = .ok importImage ∧ infer name false = .error (.undeterminedContentKind name) := by
  simp [infer, hi, not_endsIn_template hi, ofExtension?_of_import hi]

/-- It does not decide on any other name. -/
theorem infer_of_not_import {name : String} (hi : endsIn importEndings name = false) (canImport : Bool) :
    infer name canImport = infer name false := by
  simp [infer, hi]

end ContentKind

/-! ## Replies that are alike -/

/-- Two replies are equal, or they tell releases of which both can import or neither can. -/
def Call.Alike : (c : Call) → c.Reply → c.Reply → Prop
  | .backend .release => fun a b => TooOld a ↔ TooOld b
  | _ => Eq

theorem Call.Alike.eq {c : Call} (hc : c ≠ .backend .release) {a b : c.Reply} (hab : Call.Alike c a b) : a = b := by
  unfold Call.Alike at hab
  split at hab
  · exact absurd rfl hc
  · exact hab

theorem releaseOrMinimum_eq :
    releaseOrMinimum = (Program.request (I := Reconciling) (.backend .release)).bind fun reply =>
      .done ((reply : Except Fault Release).toOption.getD .minimum) := by
  unfold releaseOrMinimum
  congr 1
  funext reply
  cases (reply : Except Fault Release) <;> rfl

theorem Call.Alike.of_eq {c : Call} {a b : c.Reply} (hab : a = b) : Call.Alike c a b := by
  subst hab
  unfold Call.Alike
  split
  · exact Iff.rfl
  · rfl

/-- Who does not ask for the release cannot tell. -/
theorem Task.AsksOnly.respects_release {α : Type} {P : Call → Prop} {t : Task Reconciling α} (ht : t.AsksOnly P)
    (hP : ¬ P (.backend .release)) : t.Respects Call.Alike :=
  ht.respects fun _ hc _ _ hab => hab.eq fun hrelease => hP (hrelease ▸ hc)

/-- Classifying a file takes no more from the release than whether it can import. -/
theorem respects_contentKind (spec : Spec) (fileName : String) : (contentKind spec fileName).Respects Call.Alike := by
  unfold contentKind
  cases stated spec.contentType with
  | some text => exact Task.respects_ofExcept _
  | none =>
    rw [releaseOrMinimum_eq]
    refine ⟨fun a b hab => ?_, fun _ => trivial⟩
    change Except Fault Release at a b
    change TooOld a ↔ TooOld b at hab
    have himport : (a.toOption.getD .minimum).canImport = (b.toOption.getD .minimum).canImport :=
      Bool.eq_iff_iff.2 ((canImport_told a).trans ((not_congr hab).trans (canImport_told b).symm))
    change Program.done (ContentKind.infer fileName (a.toOption.getD .minimum).canImport) = _
    rw [himport]
    rfl

/-! ## Creating on two hosts -/

theorem asksOnly_upload (target : Target) (artifact : Artifact) (mode : Option FileMode) :
    (Placement.upload target artifact mode).AsksOnly (· ≠ Call.backend .release) := by
  unfold Placement.upload
  cases target.kind.transport with
  | api => exact Task.AsksOnly.bind (asksOnly_call nofun) fun _ => Task.asksOnly_pure _
  | stream =>
    refine Task.AsksOnly.bind (asksOnly_call nofun) fun d => ?_
    cases stated (d : Datastore).path with
    | none => exact Task.asksOnly_throw _
    | some path => exact Task.AsksOnly.bind (asksOnly_call nofun) fun _ => Task.asksOnly_pure _

theorem respects_place (tmpDir : String) (spec : Spec) : (place tmpDir spec).Respects Call.Alike := by
  unfold place
  have hcollision : ∀ fileName, (Placement.checkCollision spec.nodeName spec.datastoreId fileName spec.overwrite).AsksOnly
      (· ≠ Call.backend .release) := fun fileName =>
    Task.AsksOnly.bind (asksOnly_call nofun) fun _ => Task.asksOnly_ofExcept _
  refine Task.Respects.bind (Task.respects_ofExcept _) fun plan => ?_
  refine Task.Respects.bind (respects_contentKind spec plan.fileName) fun kind => ?_
  refine Task.Respects.bind ((hcollision plan.fileName).respects_release fun hne => hne rfl) fun overwritten => ?_
  refine Task.Respects.bind ((asksOnly_resolve tmpDir plan.source).respects_release id) fun artifact => ?_
  have hupload := (asksOnly_upload ⟨spec.nodeName, spec.datastoreId, kind⟩ artifact plan.mode).guarded artifact.deeds
  exact Task.Respects.bind (hupload.respects_release fun hne => hne rfl) fun _ => Task.respects_pure _

section
variable {h : Host Reconciling σ} {k : Host Reconciling τ} {R : σ → τ → Prop}

theorem rollBack_resembles (hr : h.Resembles k Call.Alike R) (spec : Spec) (p : Placed) (f : Fault) {s : σ} {t : τ}
    (hst : R s t) :
    (rollBack h spec p f s).result = (rollBack k spec p f t).result ∧
      (rollBack h spec p f s).events = (rollBack k spec p f t).events ∧
      R (rollBack h spec p f s).host (rollBack k spec p f t).host := by
  obtain ⟨hreply, hnext⟩ := hr.answer (deletion spec p.volume) s t hst
  have hreply : (h.answer (deletion spec p.volume) s).1 = (k.answer (deletion spec p.volume) t).1 :=
    Call.Alike.eq (c := deletion spec p.volume) nofun hreply
  refine ⟨?_, ?_, ?_⟩
  · rw [rollBack_result, rollBack_result]
  · have hsucceeded : (Entry.asked h (deletion spec p.volume) s : Entry Reconciling σ).succeeded =
        (Entry.asked k (deletion spec p.volume) t : Entry Reconciling τ).succeeded :=
      congrArg (fun reply => Call.succeeded (deletion spec p.volume) (some reply)) hreply
    rw [rollBack_events, rollBack_events, told_singleton, told_singleton, Entry.event?, Entry.event?, hsucceeded]
    rfl
  · rw [rollBack_host, rollBack_host]
    exact hnext

/-- Creating comes to the same on hosts that answer alike, whatever release they tell. -/
theorem create_resembles (hr : h.Resembles k Call.Alike R) (tmpDir : String) (spec : Spec) {s : σ} {t : τ}
    (hst : R s t) :
    (create h tmpDir spec s).result = (create k tmpDir spec t).result ∧
      (create h tmpDir spec s).events = (create k tmpDir spec t).events ∧
      R (create h tmpDir spec s).host (create k tmpDir spec t).host := by
  have hplace := Task.runInTime_resembles hr (respects_place tmpDir spec) (hr.setLimit spec.timeout s t hst)
  unfold create
  rcases hh : (place tmpDir spec).runInTime h (h.setLimit spec.timeout s) with ⟨r, u⟩
  rcases hk : (place tmpDir spec).runInTime k (k.setLimit spec.timeout t) with ⟨r', u'⟩
  rw [hh, hk] at hplace
  obtain ⟨rfl, hu⟩ := hplace
  rcases r with _ | f | p
  · exact ⟨rfl, rfl, hu⟩
  · exact ⟨rfl, rfl, hu⟩
  · have hback := Task.runInTime_resembles hr ((asksOnly_readBack spec p).respects_release id) hu
    dsimp only
    rcases hh : (readBack spec p).runInTime h u with ⟨b, w⟩
    rcases hk : (readBack spec p).runInTime k u' with ⟨b', w'⟩
    rw [hh, hk] at hback
    obtain ⟨rfl, hw⟩ := hback
    rcases b with _ | f | state
    · exact rollBack_resembles hr spec p _ hw
    · exact rollBack_resembles hr spec p f hw
    · exact ⟨rfl, rfl, hw⟩

theorem createLog_resembles (hr : h.Resembles k Call.Alike R) (tmpDir : String) (spec : Spec) {s : σ} {t : τ}
    (hst : R s t) :
    (createLog h tmpDir spec s).map Entry.call = (createLog k tmpDir spec t).map Entry.call :=
  (create_resembles hr.logged tmpDir spec (s := (s, [])) (t := (t, [])) ⟨hst, rfl⟩).2.2.2

end

/-! ## A host that tells another release -/

/-- The same host, but what it tells of the release of the cluster. -/
def Host.telling (told : σ → Except Fault Release) (h : Host Reconciling σ) : Host Reconciling σ where
  answer
    | .backend .release, s => (told s, (h.answer (Call.backend .release) s).2)
    | c, s => h.answer c s
  answerInTime
    | .backend .release, s =>
      ((h.answerInTime (Call.backend .release) s).1.map fun _ => told s, (h.answerInTime (Call.backend .release) s).2)
    | c, s => h.answerInTime c s
  act := h.act
  setLimit := h.setLimit

section
variable {h : Host Reconciling σ} {told told' : σ → Except Fault Release}

theorem telling_answer {c : Call} (hc : c ≠ .backend .release) (s : σ) : (h.telling told).answer c s = h.answer c s := by
  cases c with
  | backend call => cases call <;> first | rfl | exact absurd rfl hc
  | here call => rfl

theorem telling_answerInTime {c : Call} (hc : c ≠ .backend .release) (s : σ) :
    (h.telling told).answerInTime c s = h.answerInTime c s := by
  cases c with
  | backend call => cases call <;> first | rfl | exact absurd rfl hc
  | here call => rfl

/-- Whatever a host tells of its release, it resembles itself as long as that can import or cannot. -/
theorem telling_resembles (htold : ∀ s, TooOld (told s) ↔ TooOld (told' s)) :
    (h.telling told).Resembles (h.telling told') Call.Alike Eq where
  answer c s t hst := by
    subst hst
    by_cases hc : c = .backend .release
    · subst hc
      exact ⟨htold s, rfl⟩
    · rw [telling_answer hc, telling_answer hc]
      exact ⟨Call.Alike.of_eq rfl, rfl⟩
  answerInTime c s t hst := by
    subst hst
    by_cases hc : c = .backend .release
    · subst hc
      refine ⟨?_, rfl⟩
      change Option.Rel _ ((h.answerInTime (Call.backend .release) s).1.map fun _ => told s)
        ((h.answerInTime (Call.backend .release) s).1.map fun _ => told' s)
      cases (h.answerInTime (Call.backend .release) s).1 with
      | none => exact .none
      | some _ => exact .some (htold s)
    · rw [telling_answerInTime hc, telling_answerInTime hc]
      refine ⟨?_, rfl⟩
      cases (h.answerInTime c s).1 with
      | none => exact .none
      | some _ => exact .some (Call.Alike.of_eq rfl)
  act d s t hst := congrArg (h.act d) hst
  setLimit limit s t hst := congrArg (h.setLimit limit) hst

end

/-! ## A stated kind -/

theorem release_not_mem_sending (spec : Spec) (p : Prepared) (path : String) : .release ∉ sending spec p path := by
  unfold sending
  cases p.kind.transport <;> simp

/-- Who states the kind of a file does not ask for the release. -/
theorem release_not_asked (h : Host Reconciling σ) (tmpDir : String) {spec : Spec} {text : String} (s : σ)
    (hstated : stated spec.contentType = some text) :
    Call.backend .release ∉ (createLog h tmpDir spec s).map Entry.call := by
  have hlooks : looks spec = [.listFiles spec.nodeName spec.datastoreId] := by
    simp [looks, releases, hstated]
  have hcourse := create_calls h tmpDir spec s
  intro hasked
  obtain ⟨e, he, hcall⟩ := List.mem_map.1 hasked
  have hmem := mem_backendCalls.2 ⟨e, he, hcall⟩
  generalize createLog h tmpDir spec s = log at hcourse hmem
  generalize (create h tmpDir spec s).result = result at hcourse
  have hsent : ∀ p path rest, .release ∉ rest → .release ∉ looks spec ++ sending spec p path ++ rest := by
    intro p path rest hrest
    simp [hlooks, release_not_mem_sending, hrest]
  cases hcourse with
  | stopped hs =>
    rcases hs with hprefix | ⟨p, path, -, hprefix⟩
    · have hfound := hprefix.subset hmem
      simp [hlooks] at hfound
    · exact hsent p path [] List.not_mem_nil (by simpa using hprefix.subset hmem)
  | undone hs =>
    obtain ⟨p, path, -, -, hcalls⟩ := hs
    exact hsent p path _ (by simp) (hcalls ▸ hmem)
  | created hid hs =>
    obtain ⟨p, path, -, -, hcalls⟩ := hs
    exact hsent p path _ (by simp) (hcalls ▸ hmem)

/-- **What the release decides.** It decides on the names of disk images, which are of the kind for import if the
cluster can import and of none otherwise, and on no other name; so to be able to import never changes a kind that
is found without it. Creating a file comes to the same result, warnings, calls and events on hosts that answer alike
but for the release, if both tell one that can import or neither does: because a request for it fails, because its
text cannot be read, or because it comes before `8.4.0`. Where a content kind is stated, it is not asked for. -/
theorem release_influence (tmpDir : String) (spec : Spec) :
    (∀ name, (ContentKind.classify name none true ≠ ContentKind.classify name none false ↔
        ∃ ending ∈ [".qcow2", ".raw", ".vmdk"], ending.toList <:+ name.toList) ∧
      ((∃ ending ∈ [".qcow2", ".raw", ".vmdk"], ending.toList <:+ name.toList) →
        ContentKind.classify name none true = .ok .importImage ∧
          ContentKind.classify name none false = .error (.undeterminedContentKind name)) ∧
      ∀ kind, ContentKind.classify name none false = .ok kind → ContentKind.classify name none true = .ok kind) ∧
    (∀ (h : Host Reconciling σ) (k : Host Reconciling τ) (R : σ → τ → Prop), h.Resembles k Call.Alike R →
      ∀ s t, R s t → (create h tmpDir spec s).result = (create k tmpDir spec t).result ∧
        (create h tmpDir spec s).events = (create k tmpDir spec t).events ∧
        R (create h tmpDir spec s).host (create k tmpDir spec t).host ∧
        (createLog h tmpDir spec s).map Entry.call = (createLog k tmpDir spec t).map Entry.call) ∧
    (∀ (h : Host Reconciling σ) (told told' : σ → Except Fault Release), (∀ s, TooOld (told s) ↔ TooOld (told' s)) →
      ∀ s, create (h.telling told) tmpDir spec s = create (h.telling told') tmpDir spec s ∧
        (createLog (h.telling told) tmpDir spec s).map Entry.call =
          (createLog (h.telling told') tmpDir spec s).map Entry.call) ∧
    ∀ (h : Host Reconciling σ) (s : σ) (text : String), spec.contentType = some text → text ≠ "" →
      Call.backend .release ∉ (createLog h tmpDir spec s).map Entry.call := by
  refine ⟨fun name => ?_, fun h k R hr s t hst => ?_, fun h told told' htold s => ?_, fun h s text htext hne => ?_⟩
  · change (ContentKind.infer name true ≠ ContentKind.infer name false ↔
        ∃ ending ∈ ContentKind.importEndings, ending.toList <:+ name.toList) ∧
      ((∃ ending ∈ ContentKind.importEndings, ending.toList <:+ name.toList) →
        ContentKind.infer name true = .ok .importImage ∧
          ContentKind.infer name false = .error (.undeterminedContentKind name)) ∧
      ∀ kind, ContentKind.infer name false = .ok kind → ContentKind.infer name true = .ok kind
    rw [← ContentKind.endsIn_iff]
    cases hi : ContentKind.endsIn ContentKind.importEndings name with
    | true =>
      obtain ⟨htrue, hfalse⟩ := ContentKind.infer_of_import hi
      simp [htrue, hfalse]
    | false => simp [ContentKind.infer_of_not_import hi true]
  · obtain ⟨hresult, hevents, hhost⟩ := create_resembles hr tmpDir spec hst
    exact ⟨hresult, hevents, hhost, createLog_resembles hr tmpDir spec hst⟩
  · have hr := telling_resembles (h := h) htold
    obtain ⟨hresult, hevents, hhost⟩ := create_resembles hr tmpDir spec (rfl : s = s)
    refine ⟨?_, createLog_resembles hr tmpDir spec rfl⟩
    cases hfirst : create (h.telling told) tmpDir spec s
    cases hsecond : create (h.telling told') tmpDir spec s
    simp_all
  · have hstated : stated spec.contentType = some text := by simp [htext, stated, hne]
    exact release_not_asked h tmpDir s hstated

/-- A text under the name of a disk image. -/
def Shelf.disk : Spec := ⟨"node", "local", none, none, some ⟨"text", "disk.raw", 0⟩, none, true, 60⟩

/-- A disk image has no kind on a cluster that fails to tell its release, tells one that cannot be read, or tells
`8.3.9`; it is for import from `8.4.0` on. If it is stated to be an ISO image, the release is not asked for. -/
theorem release_influence_disk :
    ContentKind.classify "disk.raw" none false = .error (.undeterminedContentKind "disk.raw") ∧
    (create ((Shelf.host "local" (.ok ())).telling fun _ => .error (.backend (.other "down"))) "tmp" Shelf.disk .empty =
        create ((Shelf.host "local" (.ok ())).telling fun _ => .ok ⟨8, 3, 9⟩) "tmp" Shelf.disk .empty ∧
      create ((Shelf.host "local" (.ok ())).telling fun _ => Release.parse "eight") "tmp" Shelf.disk .empty =
        create ((Shelf.host "local" (.ok ())).telling fun _ => .ok ⟨8, 3, 9⟩) "tmp" Shelf.disk .empty ∧
      (create ((Shelf.host "local" (.ok ())).telling fun _ => .ok ⟨8, 3, 9⟩) "tmp" Shelf.disk .empty).result.toOption =
        none) ∧
    (create ((Shelf.host "local" (.ok ())).telling fun _ => .ok ⟨8, 4, 0⟩) "tmp" Shelf.disk .empty =
        create ((Shelf.host "local" (.ok ())).telling fun _ => .ok ⟨8, 10, 0⟩) "tmp" Shelf.disk .empty ∧
      (createLog ((Shelf.host "local" (.ok ())).telling fun _ => .ok ⟨8, 4, 0⟩) "tmp" Shelf.disk .empty).map Entry.call =
        (createLog ((Shelf.host "local" (.ok ())).telling fun _ => .ok ⟨8, 10, 0⟩) "tmp" Shelf.disk .empty).map
          Entry.call ∧
      ∃ o, (create ((Shelf.host "local" (.ok ())).telling fun _ => .ok ⟨8, 4, 0⟩) "tmp" Shelf.disk .empty).result =
        .ok o ∧ o.value.id = "local:import/disk.raw") ∧
    Call.backend .release ∉ (createLog (Shelf.host "local" (.ok ())) "tmp" { Shelf.disk with contentType := some "iso" }
      .empty).map Entry.call := by
  obtain ⟨hname, hhosts, htelling, -⟩ := release_influence (σ := Shelf) (τ := Shelf) "tmp" Shelf.disk
  have hstated := (release_influence (σ := Shelf) (τ := Shelf) "tmp" { Shelf.disk with contentType := some "iso" }).2.2.2
  refine ⟨((hname "disk.raw").2.1 ⟨".raw", by decide, by decide⟩).2, ⟨?_, ?_, ?_⟩, ⟨?_, ?_, ?_⟩, ?_⟩
  · exact (htelling _ _ _ (fun _ => by decide) .empty).1
  · exact (htelling _ _ _ (fun _ => by decide) .empty).1
  · rfl
  · exact (htelling _ _ _ (fun _ => by decide) .empty).1
  · have hnew : Shelf → (TooOld (.ok ⟨8, 4, 0⟩) ↔ TooOld (.ok ⟨8, 10, 0⟩)) := fun _ => by decide
    exact (hhosts _ _ Eq (telling_resembles hnew) .empty .empty rfl).2.2.2
  · exact ⟨_, rfl, rfl⟩
  · exact hstated _ .empty "iso" rfl (by decide)

end FilePlacement
