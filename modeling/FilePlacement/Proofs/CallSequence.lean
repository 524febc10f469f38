import FilePlacement.Proofs.AuditTrail

/-!
# The sequence of calls

What an operation asks a backend for, call by call. Creating a file asks for the release if no content kind is
stated, lists the datastore, sends the file the way of its kind, and lists the datastore again (`callSequence`).
The upload has the file name that was looked for in the first listing, the mode of the desired state, and the kind
and the name that the identity of the file is made up of; where creating does not succeed, it stops on the way
(`call_sequence`).
-/

namespace FilePlacement

open Reconciler

variable {σ : Type}

/-! ## Calls in a log -/

def Call.backend? : Call → Option BackendCall
  | .backend call => some call
  | .here _ => none

/-- What has been asked of the backend, in order. -/
def backendCalls (log : List (Entry Reconciling σ)) : List BackendCall := log.filterMap fun e => e.call.backend?

section
variable {h : Host Reconciling σ} {log new : List (Entry Reconciling σ)} {s : σ}

theorem backendCalls_append : backendCalls (log ++ new) = backendCalls log ++ backendCalls new :=
  List.filterMap_append

theorem backendCalls_asked (h : Host Reconciling σ) (log : List (Entry Reconciling σ)) (call : BackendCall) (s : σ) :
    backendCalls (log ++ [.askedInTime h (.backend call) s]) = backendCalls log ++ [call] := backendCalls_append

theorem mem_backendCalls {call : BackendCall} : call ∈ backendCalls log ↔ ∃ e ∈ log, e.call = .backend call := by
  unfold backendCalls
  rw [List.mem_filterMap]
  refine exists_congr fun e => and_congr_right fun _ => ?_
  cases e.call with
  | backend c => simp [Call.backend?]
  | here c => simp [Call.backend?]

/-- Whoever asks for local things only leaves the calls as they are. -/
theorem leads_local {α : Type} {P : Call → Prop} (hP : ∀ c, P c → c.backend? = none) {p : Task Reconciling α}
    (hp : p.AsksOnly P) (t : σ × List (Entry Reconciling σ)) :
    p.Leads h.logged (fun u => backendCalls u.2 = backendCalls t.2) t := by
  refine Task.leads_of_asksOnly (h := h.logged) (fun u => backendCalls u.2 = backendCalls t.2) ?_ ?_ hp rfl
  · intro c u hc hu
    have hnone : backendCalls [Entry.askedInTime h c u.1] = [] := by
      simp [backendCalls, Entry.call, Entry.askedInTime, hP c hc]
    change backendCalls (u.2 ++ [Entry.askedInTime h c u.1]) = _
    rw [backendCalls_append, hnone, List.append_nil, hu]
  · intro d u hu
    exact hu

end

theorem Call.Gets.backend? {c : Call} (hc : c.Gets) : c.backend? = none := by
  cases c with
  | backend call => exact hc.elim
  | here call => rfl

theorem Call.Observes.backend? {c : Call} (hc : c.Observes) : c.backend? = none := by
  cases c with
  | backend call => exact hc.elim
  | here call => rfl

/-! ## The sequence -/

namespace Reconciler

/-- The question for the release, where no content kind is stated. -/
def releases (spec : Spec) : List BackendCall := if stated spec.contentType = none then [.release] else []

/-- What classifying a file adds to a log. -/
def askedReleases (h : Host Reconciling σ) (spec : Spec) (s : σ) : List (Entry Reconciling σ) :=
  if stated spec.contentType = none then [.askedInTime h (Call.backend .release) s] else []

theorem map_call_askedReleases (h : Host Reconciling σ) (spec : Spec) (s : σ) :
    (askedReleases h spec s).map Entry.call = (releases spec).map Call.backend := by
  unfold askedReleases releases
  split <;> rfl

theorem backendCalls_askedReleases (h : Host Reconciling σ) (spec : Spec) (s : σ) :
    backendCalls (askedReleases h spec s) = releases spec := by
  unfold askedReleases releases
  split <;> rfl

/-- No kind can be found for a file of this name: the one that is stated is none, or the name suggests none to the
release that the host tells. -/
def Unclassified (h : Host Reconciling σ) (spec : Spec) (fileName : String) (s : σ) (f : Fault) : Prop :=
  ∃ release : Release, ContentKind.classify fileName spec.contentType release.canImport = .error f ∧
    (stated spec.contentType = none → ∃ (reply : Except Fault Release) (t : σ),
      h.answerInTime (Call.backend .release) s = (some reply, t) ∧ release = reply.toOption.getD .minimum)

/-- What creating asks for until its source is at hand. -/
def looks (spec : Spec) : List BackendCall := releases spec ++ [.listFiles spec.nodeName spec.datastoreId]

/-- The way of a file: the cluster's upload service is told its kind; a stream is told the directory of its kind,
below the path that the datastore has. -/
def sending (spec : Spec) (p : Prepared) (path : String) : List BackendCall :=
  match p.kind.transport with
  | .api => [.apiUpload spec.nodeName spec.datastoreId ⟨p.kind.name, p.plan.fileName, p.artifact.path, p.plan.mode⟩]
  | .stream => [.datastore spec.datastoreId,
      .streamUpload spec.nodeName path ⟨p.kind.directory, p.plan.fileName, p.artifact.path, p.plan.mode⟩]

/-- All that creating asks for. -/
def callSequence (spec : Spec) (p : Prepared) (path : String) : List BackendCall :=
  looks spec ++ sending spec p path ++ [.listFiles spec.nodeName spec.datastoreId]

/-- What has been made ready agrees with the desired state and with what has been asked before: the mode, the name,
the kind that the file is classified as, and the files of that name in the first listing. -/
structure Agreed (h : Host Reconciling σ) (spec : Spec) (s : σ) (log : List (Entry Reconciling σ)) (p : Prepared) :
    Prop where
  mode : spec.mode = .ok p.plan.mode
  name : spec.source = .ok p.plan.source ∧ p.plan.source.fileName = .ok p.plan.fileName
  kind : Classifies h spec p.plan.fileName s p.kind
  collisions : ∃ listing, log.findSome? Entry.listing? = some listing ∧
    Placement.collisions spec.overwrite p.plan.fileName listing = .ok p.overwritten

theorem Agreed.append {h : Host Reconciling σ} {spec : Spec} {s : σ} {log : List (Entry Reconciling σ)} {p : Prepared}
    (ha : Agreed h spec s log p) (new : List (Entry Reconciling σ)) : Agreed h spec s (log ++ new) p := by
  obtain ⟨listing, hlisting, hcollisions⟩ := ha.collisions
  exact ⟨ha.mode, ha.name, ha.kind, listing, findSome?_listing_append hlisting, hcollisions⟩

/-- Creating has stopped on the way to the end of its upload. -/
def Stopped (h : Host Reconciling σ) (spec : Spec) (s : σ) (log : List (Entry Reconciling σ)) : Prop :=
  backendCalls log <+: looks spec ∨
    ∃ p path, Agreed h spec s log p ∧ backendCalls log <+: looks spec ++ sending spec p path

/-- The file that `v` stands for has been sent, and after that there have been these calls. -/
def Sent (h : Host Reconciling σ) (spec : Spec) (s : σ) (v : VolumeId) (rest : List BackendCall)
    (log : List (Entry Reconciling σ)) : Prop :=
  ∃ p path, Agreed h spec s log p ∧ v = ⟨spec.datastoreId, p.kind.name, p.plan.fileName⟩ ∧
    backendCalls log = looks spec ++ sending spec p path ++ rest

theorem Sent.append {h : Host Reconciling σ} {spec : Spec} {s : σ} {v : VolumeId} {rest more : List BackendCall}
    {log new : List (Entry Reconciling σ)} (hs : Sent h spec s v rest log) (hnew : backendCalls new = more) :
    Sent h spec s v (rest ++ more) (log ++ new) := by
  obtain ⟨p, path, hagreed, hv, hcalls⟩ := hs
  refine ⟨p, path, hagreed.append new, hv, ?_⟩
  rw [backendCalls_append, hcalls, hnew, List.append_assoc]

end Reconciler

/-! ## Stages -/

section
variable (h : Host Reconciling σ) (tmpDir : String) (spec : Spec)

/-- The question for the release is one entry, answered or not. -/
theorem wp_releaseOrMinimum (s : σ) (log : List (Entry Reconciling σ)) :
    releaseOrMinimum.wp h.logged
      (fun release u => (∃ (reply : Except Fault Release) (t : σ),
        h.answerInTime (Call.backend .release) s = (some reply, t) ∧ release = reply.toOption.getD .minimum) ∧
        u.2 = log ++ [.askedInTime h (Call.backend .release) s])
      (fun u => (h.answerInTime (Call.backend .release) s).1 = none ∧
        u.2 = log ++ [.askedInTime h (Call.backend .release) s]) (s, log) := by
  unfold releaseOrMinimum
  refine Program.wp_bind.2 (Program.wp_ask.2 ⟨fun reply t ht => ?_, fun t ht => ?_⟩)
  · simp only [Host.logged, Prod.mk.injEq] at ht
    obtain ⟨hreply, rfl⟩ := ht
    cases reply with
    | ok release => exact ⟨⟨.ok release, _, Prod.ext hreply rfl, rfl⟩, rfl⟩
    | error f => exact ⟨⟨.error f, _, Prod.ext hreply rfl, rfl⟩, rfl⟩
  · simp only [Host.logged, Prod.mk.injEq] at ht
    obtain ⟨hnone, rfl⟩ := ht
    exact ⟨hnone, rfl⟩

/-- Classifying a file finds its kind, finds that it has none, or is cut off on the question for the release. -/
theorem wp_contentKind (fileName : String) (s : σ) (log : List (Entry Reconciling σ)) :
    (contentKind spec fileName).wp h.logged
      (fun kind u => Classifies h spec fileName s kind ∧ u.2 = log ++ askedReleases h spec s)
      (fun f u => Unclassified h spec fileName s f ∧ u.2 = log ++ askedReleases h spec s)
      (fun u => (∃ e ∈ askedReleases h spec s, e.succeeded = false) ∧ u.2 = log ++ askedReleases h spec s)
      (s, log) := by
  unfold contentKind
  cases hstated : stated spec.contentType with
  | some text =>
    have hlog : log = log ++ askedReleases h spec s := by simp [askedReleases, hstated]
    have hunasked : stated spec.contentType ≠ none := by simp [hstated]
    have hclassify : ContentKind.classify fileName spec.contentType Release.minimum.canImport = ContentKind.parse text := by
      rw [classify_eq, hstated]
    refine Task.wp_ofExcept.2 ⟨fun kind hkind => ⟨?_, hlog⟩, fun f hf => ⟨?_, hlog⟩⟩
    · exact ⟨.minimum, hclassify.trans hkind, fun hnone => absurd hnone hunasked⟩
    · exact ⟨.minimum, hclassify.trans hf, fun hnone => absurd hnone hunasked⟩
  | none =>
    have hasked : askedReleases h spec s = [.askedInTime h (Call.backend .release) s] := if_pos hstated
    rw [hasked]
    refine Program.wp_bind.2 (Program.wp_mono (wp_releaseOrMinimum h s log) ?_ ?_)
    · rintro release u ⟨hrelease, hu⟩
      have hclassify : ContentKind.classify fileName spec.contentType release.canImport =
          ContentKind.infer fileName release.canImport := by
        rw [classify_eq, hstated]
      cases hkind : ContentKind.infer fileName release.canImport with
      | ok kind => exact ⟨⟨release, hclassify.trans hkind, fun _ => hrelease⟩, hu⟩
      | error f => exact ⟨⟨release, hclassify.trans hkind, fun _ => hrelease⟩, hu⟩
    · rintro u ⟨hnone, hu⟩
      have hfailed : (Entry.askedInTime h (Call.backend .release) s : Entry Reconciling σ).succeeded = false :=
        succeeded_of_none (t := (h.answerInTime (Call.backend .release) s).2) (Prod.ext hnone rfl)
      exact ⟨⟨_, List.mem_cons_self, hfailed⟩, hu⟩

theorem checkCollision_calls (fileName : String) (s : σ) (log : List (Entry Reconciling σ)) :
    (Placement.checkCollision spec.nodeName spec.datastoreId fileName spec.overwrite).Leads h.logged
      (fun u => backendCalls u.2 = backendCalls log ++ [.listFiles spec.nodeName spec.datastoreId]) (s, log) := by
  have hlisted := backendCalls_asked h log (.listFiles spec.nodeName spec.datastoreId) s
  refine Task.wp_bind.2 (Reconciling.wp_call_logged (.listFiles spec.nodeName spec.datastoreId)
    (fun listing t _ => ?_) (fun f t _ => hlisted) fun t _ => hlisted)
  exact Task.wp_ofExcept.2 ⟨fun _ _ => hlisted, fun _ _ => hlisted⟩

/-- Until the source is at hand, creating asks for the release and the listing, or stops on the way. -/
theorem wp_prepare_calls (s : σ) :
    (prepare tmpDir spec).wp h.logged
      (fun p u => Classifies h spec p.plan.fileName s p.kind ∧ backendCalls u.2 = looks spec)
      (fun _ u => backendCalls u.2 <+: looks spec) (fun u => backendCalls u.2 <+: looks spec) (s, []) := by
  have hasked : ∀ u : σ × List (Entry Reconciling σ), u.2 = [] ++ askedReleases h spec s →
      backendCalls u.2 = releases spec := fun u hu => hu ▸ backendCalls_askedReleases h spec s
  have hstopped : ∀ u : σ × List (Entry Reconciling σ), u.2 = [] ++ askedReleases h spec s →
      backendCalls u.2 <+: looks spec := fun u hu => hasked u hu ▸ List.prefix_append _ _
  have hlooked : ∀ u : σ × List (Entry Reconciling σ), backendCalls u.2 = looks spec →
      backendCalls u.2 <+: looks spec := fun u hu => hu ▸ List.prefix_refl _
  unfold prepare
  refine Task.wp_bind.2 (Task.wp_ofExcept.2 ⟨fun plan _ => ?_, fun _ _ => List.nil_prefix⟩)
  refine Task.wp_bind.2 (Task.wp_mono (wp_contentKind h spec plan.fileName s []) ?_
    (fun _ u hu => hstopped u hu.2) fun u hu => hstopped u hu.2)
  rintro kind t ⟨hclassifies, ht⟩
  have hcollision := checkCollision_calls h spec plan.fileName t.1 t.2
  rw [hasked t ht] at hcollision
  refine Task.wp_bind.2 (Task.wp_mono hcollision ?_ (fun _ => hlooked) hlooked)
  intro overwritten u hu
  have hresolve := leads_local (h := h) (fun _ => Call.Gets.backend?) (asksOnly_resolve tmpDir plan.source) u
  rw [hu] at hresolve
  exact Task.wp_bind.2 (Task.wp_mono hresolve (fun artifact v hv => ⟨hclassifies, hv⟩) (fun _ => hlooked) hlooked)

/-- Refreshing a record is one listing. -/
theorem refresh_calls (state : State) (t : σ × List (Entry Reconciling σ)) :
    (refresh spec state).Leads h.logged
      (fun u => backendCalls u.2 = backendCalls t.2 ++ [.listFiles spec.nodeName spec.datastoreId]) t := by
  obtain ⟨s, log⟩ := t
  have hlisted := backendCalls_asked h log (.listFiles spec.nodeName spec.datastoreId) s
  unfold refresh
  refine Task.wp_bind.2 (Reconciling.wp_call_logged (.listFiles spec.nodeName spec.datastoreId)
    (fun listing t _ => ?_) (fun f t _ => hlisted) fun t _ => hlisted)
  split
  · exact hlisted
  · rename_i entry _
    refine Task.wp_bind.2 (Task.wp_ofExcept.2 ⟨fun v _ => ?_, fun f _ => hlisted⟩)
    dsimp only
    split
    · exact hlisted
    · rename_i file _
      have hobserve := leads_local (h := h) (fun _ => Call.Observes.backend?) (asksOnly_observe file)
        (t, log ++ [.askedInTime h (Call.backend (.listFiles spec.nodeName spec.datastoreId)) s])
      rw [hlisted] at hobserve
      exact Task.wp_bind.2 hobserve

theorem readBack_calls (placed : Placed) (t : σ × List (Entry Reconciling σ)) :
    (readBack spec placed).Leads h.logged
      (fun u => backendCalls u.2 = backendCalls t.2 ++ [.listFiles spec.nodeName spec.datastoreId]) t := by
  unfold readBack
  refine Task.wp_andThen (refresh_calls h spec (placed.state spec) t) fun found u hu => ?_
  cases found with
  | none => exact hu
  | some state => exact hu

end

section
variable {h : Host Reconciling σ} {tmpDir : String} {spec : Spec} {s : σ}

/-- A file is sent the way of its kind, or the way ends where it is stopped. -/
theorem Sends.calls {p : Prepared} {log new : List (Entry Reconciling σ)} {success : Bool}
    (hsends : Sends h ⟨spec.nodeName, spec.datastoreId, p.kind⟩ p.artifact p.plan.mode s log success new)
    (hname : p.artifact.fileName = p.plan.fileName) :
    ∃ path, backendCalls new <+: backendCalls log ++ sending spec p path ∧
      (success = true → backendCalls new = backendCalls log ++ sending spec p path) := by
  have hasked : backendCalls (log ++ [.askedInTime h (Target.question ⟨spec.nodeName, spec.datastoreId, p.kind⟩) s]) =
      backendCalls log ++ [.datastore spec.datastoreId] := backendCalls_asked h log _ s
  unfold sending
  rw [← hname]
  cases hsends with
  | unaddressed hway =>
    change p.kind.transport = .stream at hway
    rw [hway, hasked]
    exact ⟨"", (List.prefix_append_right_inj _).2 (List.prefix_append [_] [_]), nofun⟩
  | api hs hway =>
    change p.kind.transport = .api at hway
    have hcalls := backendCalls_asked h log (.apiUpload spec.nodeName spec.datastoreId
      ⟨p.kind.name, p.artifact.fileName, p.artifact.path, p.plan.mode⟩) s
    rw [hway]
    exact ⟨"", hcalls ▸ List.prefix_refl _, fun _ => hcalls⟩
  | @stream _ path hr hs hway =>
    change p.kind.transport = .stream at hway
    have hcalls : ∀ t : σ, backendCalls (log ++
        [.askedInTime h (Target.question ⟨spec.nodeName, spec.datastoreId, p.kind⟩) s] ++
        [.askedInTime h
          (Target.streamUpload ⟨spec.nodeName, spec.datastoreId, p.kind⟩ p.artifact p.plan.mode path) t]) =
        backendCalls log ++ [.datastore spec.datastoreId, .streamUpload spec.nodeName path
          ⟨p.kind.directory, p.artifact.fileName, p.artifact.path, p.plan.mode⟩] := by
      intro t
      rw [backendCalls_append, hasked, List.append_assoc]
      rfl
    rw [hway, hcalls]
    exact ⟨path, List.prefix_refl _, fun _ => rfl⟩

end

/-! ## Creating -/

theorem wp_place_calls (h : Host Reconciling σ) (tmpDir : String) (spec : Spec) (s : σ) :
    (place tmpDir spec).wp h.logged (fun placed u => Sent h spec s placed.volume [] u.2)
      (fun _ u => Stopped h spec s u.2) (fun u => Stopped h spec s u.2) (s, []) := by
  rw [place_eq]
  have hprepare := Task.wp_and (Task.wp_and (wp_prepare h tmpDir spec s) (gives_prepare_collisions h tmpDir spec s))
    (wp_prepare_calls h tmpDir spec s)
  refine Task.wp_bind.2 (Task.wp_mono hprepare ?_ (fun _ _ hu => Or.inl hu.2) fun _ hu => Or.inl hu.2)
  rintro p t ⟨⟨⟨⟨hplan, -, hname⟩, -⟩, hcollisions⟩, hkind, hlooks⟩
  obtain ⟨hsource, hfileName, hmode⟩ := fileName_of_plan hplan
  have hagreed : Agreed h spec s t.2 p := ⟨hmode, ⟨hsource, hfileName⟩, hkind, hcollisions⟩
  have hstopped : ∀ u : σ × List (Entry Reconciling σ),
      Sends h ⟨spec.nodeName, spec.datastoreId, p.kind⟩ p.artifact p.plan.mode t.1 t.2 false u.2 →
        Stopped h spec s u.2 := by
    intro u hsends
    obtain ⟨more, hu⟩ := hsends.exists_append
    obtain ⟨path, hcalls, -⟩ := hsends.calls hname
    rw [hlooks] at hcalls
    exact Or.inr ⟨p, path, hu ▸ hagreed.append more, hcalls⟩
  refine Task.wp_mono (wp_uploadPrepared h spec p t) ?_ (fun _ => hstopped) hstopped
  rintro placed u ⟨⟨hvolume, -, -⟩, hsends⟩
  obtain ⟨more, hu⟩ := hsends.exists_append
  obtain ⟨path, -, hcalls⟩ := hsends.calls hname
  rw [hlooks] at hcalls
  exact ⟨p, path, hu ▸ hagreed.append more, hvolume, (hcalls rfl).trans (List.append_nil _).symm⟩

/-- Reading back adds a listing to the calls. -/
theorem wp_readBack_sent {h : Host Reconciling σ} {spec : Spec} {s : σ} {placed : Placed}
    {t : σ × List (Entry Reconciling σ)} (ht : Sent h spec s placed.volume [] t.2) :
    (readBack spec placed).wp h.logged
      (fun state u => state.id = placed.volume.format ∧
        Sent h spec s placed.volume [.listFiles spec.nodeName spec.datastoreId] u.2)
      (fun _ u => Sent h spec s placed.volume [.listFiles spec.nodeName spec.datastoreId] u.2)
      (fun u => Sent h spec s placed.volume [.listFiles spec.nodeName spec.datastoreId] u.2) t := by
  have hsent : ∀ u : σ × List (Entry Reconciling σ), (∃ back, u.2 = t.2 ++ back ∧ QuietLog back) →
      backendCalls u.2 = backendCalls t.2 ++ [.listFiles spec.nodeName spec.datastoreId] →
        Sent h spec s placed.volume [.listFiles spec.nodeName spec.datastoreId] u.2 := by
    rintro u ⟨back, hu, -⟩ hcalls
    rw [hu, backendCalls_append] at hcalls
    rw [hu]
    exact ht.append (List.append_cancel_left hcalls)
  have hback := Task.wp_and (wp_readBack h spec placed t.1 t.2) (readBack_calls h spec placed t)
  exact Task.wp_mono hback (fun state u hu => ⟨hu.1.1, hsent u hu.1.2 hu.2⟩) (fun _ u hu => hsent u hu.1 hu.2)
    fun u hu => hsent u hu.1 hu.2

/-- The calls of creating, by its result: it has stopped before its upload was over; the file has been sent and
listed, and is deleted again; or it is there. -/
inductive CallCourse (h : Host Reconciling σ) (spec : Spec) (s : σ) :
    Except Fault (Outcome State) → List (Entry Reconciling σ) → Prop
  | stopped {f log} (hs : Stopped h spec s log) : CallCourse h spec s (.error f) log
  | undone {f v log} (hs : Sent h spec s v [.listFiles spec.nodeName spec.datastoreId,
      .deleteFile spec.nodeName spec.datastoreId v.format] log) : CallCourse h spec s (.error f) log
  | created {o v log} (hid : o.value.id = v.format)
      (hs : Sent h spec s v [.listFiles spec.nodeName spec.datastoreId] log) : CallCourse h spec s (.ok o) log

theorem create_calls (h : Host Reconciling σ) (tmpDir : String) (spec : Spec) (s : σ) :
    CallCourse h spec (h.setLimit spec.timeout s) (create h tmpDir spec s).result (createLog h tmpDir spec s) := by
  have hconcludes := create_concludes h.logged tmpDir spec (s, [])
    (E := fun _ u => Stopped h spec (h.setLimit spec.timeout s) u.2)
    (F := fun placed _ u => Sent h spec (h.setLimit spec.timeout s) placed.volume
      [.listFiles spec.nodeName spec.datastoreId] u.2)
    (B := fun placed state u => state.id = placed.volume.format ∧ Sent h spec (h.setLimit spec.timeout s) placed.volume
      [.listFiles spec.nodeName spec.datastoreId] u.2)
    (wp_place_calls h tmpDir spec (h.setLimit spec.timeout s)) (fun placed t ht => wp_readBack_sent ht)
    (fun _ _ _ hu => hu) fun _ _ _ _ hu => hu
  rw [create_logged, createLog]
  generalize create h.logged tmpDir spec (s, []) = finished at hconcludes
  cases hconcludes with
  | unplaced hs => exact .stopped hs
  | undone hs =>
    rw [rollBack_result, rollBack_host]
    exact .undone (hs.append rfl)
  | created hs => exact .created hs.1 hs.2

/-! ## Operations -/

/-- What an operation asks for. -/
def Operation.log (h : Host Reconciling σ) (tmpDir : String) (op : Operation) (s : σ) : List (Entry Reconciling σ) :=
  (op.run h.logged tmpDir (s, [])).host.2

theorem read_calls (h : Host Reconciling σ) (tmpDir : String) (spec : Spec) (state : State) (s : σ) :
    backendCalls ((Operation.read spec state).log h tmpDir s) = [.listFiles spec.nodeName spec.datastoreId] := by
  have hcalls := (refresh_calls h.patient spec state (s, [])).host fun _ _ hu => hu
  rw [patient_logged, Program.runInTime_patient] at hcalls
  change backendCalls (Reconciler.read h.logged spec state (s, [])).host.2 = _
  rw [read_host]
  exact hcalls

theorem delete_calls (h : Host Reconciling σ) (tmpDir : String) (spec : Spec) (state : State) (s : σ) :
    backendCalls ((Operation.delete spec state).log h tmpDir s) =
      [.deleteFile spec.nodeName spec.datastoreId state.id] := by
  change backendCalls (Reconciler.delete h.logged spec state (s, [])).host.2 = _
  rw [delete_host]
  rfl

/-- **The bytes go where the identity says.** If creating succeeds, its calls are the whole sequence for a file whose
mode, name and kind are those of the desired state; the name is the one whose collisions have been looked for, and
it is made up with the kind to the identity that is recorded. If it fails, its calls stop on the way, or they are
the whole sequence and the deletion of that identity. A stream goes where the backend has said that the datastore
has its files. Reading is one listing, deleting is one deletion, and updating asks for nothing. -/
theorem call_sequence (h : Host Reconciling σ) (tmpDir : String) (s : σ) :
    (∀ spec o, (create h tmpDir spec s).result = .ok o → ∃ p path,
      Agreed h spec (h.setLimit spec.timeout s) (createLog h tmpDir spec s) p ∧
      backendCalls (createLog h tmpDir spec s) = callSequence spec p path ∧
      (p.kind.transport = .stream → ∃ e ∈ createLog h tmpDir spec s, e.Reports spec.datastoreId path) ∧
      o.value.id = VolumeId.format ⟨spec.datastoreId, p.kind.name, p.plan.fileName⟩ ∧
      (':' ∉ spec.datastoreId.toList →
        VolumeId.parse o.value.id = .ok ⟨spec.datastoreId, p.kind.name, p.plan.fileName⟩)) ∧
    (∀ spec f, (create h tmpDir spec s).result = .error f →
      backendCalls (createLog h tmpDir spec s) <+: looks spec ∨ ∃ p path,
        Agreed h spec (h.setLimit spec.timeout s) (createLog h tmpDir spec s) p ∧
        (backendCalls (createLog h tmpDir spec s) <+: looks spec ++ sending spec p path ∨
          backendCalls (createLog h tmpDir spec s) = callSequence spec p path ++
            [.deleteFile spec.nodeName spec.datastoreId
              (VolumeId.format ⟨spec.datastoreId, p.kind.name, p.plan.fileName⟩)])) ∧
    (∀ spec, ∀ e ∈ createLog h tmpDir spec s, Addressed spec.datastoreId (createLog h tmpDir spec s) e.call) ∧
    (∀ spec state,
      backendCalls ((Operation.read spec state).log h tmpDir s) = [.listFiles spec.nodeName spec.datastoreId] ∧
      (Operation.update spec state).log h tmpDir s = [] ∧
      backendCalls ((Operation.delete spec state).log h tmpDir s) =
        [.deleteFile spec.nodeName spec.datastoreId state.id]) := by
  refine ⟨?_, ?_, fun spec => addressed_createLog h tmpDir spec s, ?_⟩
  · intro spec o ho
    have hcourse := create_calls h tmpDir spec s
    have haddressed := addressed_createLog h tmpDir spec s
    rw [ho] at hcourse
    generalize createLog h tmpDir spec s = log at hcourse haddressed
    cases hcourse with
    | created hid hs =>
      obtain ⟨p, path, hagreed, rfl, hcalls⟩ := hs
      refine ⟨p, path, hagreed, hcalls, ?_, hid, (created_of_create ho).coherent.parse_eq hid⟩
      intro hway
      have hstream : BackendCall.streamUpload spec.nodeName path
          ⟨p.kind.directory, p.plan.fileName, p.artifact.path, p.plan.mode⟩ ∈ backendCalls log := by
        simp [hcalls, sending, hway]
      obtain ⟨e, he, hcall⟩ := mem_backendCalls.1 hstream
      exact haddressed e he _ _ _ hcall
  · intro spec f hf
    have hcourse := create_calls h tmpDir spec s
    rw [hf] at hcourse
    generalize createLog h tmpDir spec s = log at hcourse
    cases hcourse with
    | stopped hs =>
      rcases hs with hlooks | ⟨p, path, hagreed, hcalls⟩
      · exact Or.inl hlooks
      · exact Or.inr ⟨p, path, hagreed, Or.inl hcalls⟩
    | undone hs =>
      obtain ⟨p, path, hagreed, rfl, hcalls⟩ := hs
      refine Or.inr ⟨p, path, hagreed, Or.inr ?_⟩
      rw [hcalls, callSequence, List.append_assoc _ [_] [_]]
      rfl
  · intro spec state
    exact ⟨read_calls h tmpDir spec state s, rfl, delete_calls h tmpDir spec state s⟩

/-- A text that is to be kept as a backup. -/
def Shelf.backup : Spec :=
  ⟨"node", "local", some "backup", none, some ⟨"text", "vzdump.tar.zst", 0⟩, some "0600", true, 60⟩

/-- A backup is streamed into the directory `dump`, and its identity says `backup`. -/
theorem call_sequence_backup :
    ∃ o, (create (Shelf.host "local" (.ok ())) "tmp" Shelf.backup .empty).result = .ok o ∧
      o.value.id = "local:backup/vzdump.tar.zst" ∧ ∃ path localPath mode,
        Shelf.backup.mode = .ok mode ∧
        backendCalls (createLog (Shelf.host "local" (.ok ())) "tmp" Shelf.backup .empty) =
          [.listFiles "node" "local", .datastore "local",
            .streamUpload "node" path ⟨"dump", "vzdump.tar.zst", localPath, mode⟩, .listFiles "node" "local"] := by
  obtain ⟨o, ho⟩ : ∃ o, (create (Shelf.host "local" (.ok ())) "tmp" Shelf.backup .empty).result = .ok o := ⟨_, rfl⟩
  obtain ⟨p, path, hagreed, hcalls, -, hid, -⟩ :=
    (call_sequence (Shelf.host "local" (.ok ())) "tmp" .empty).1 Shelf.backup o ho
  have hkind : p.kind = .backup := by
    obtain ⟨release, hclassify, -⟩ := hagreed.kind
    exact (Except.ok.inj hclassify).symm
  have hname : p.plan.fileName = "vzdump.tar.zst" := by
    obtain ⟨hsource, hfileName⟩ := hagreed.name
    rw [← Except.ok.inj hsource] at hfileName
    exact (Except.ok.inj hfileName).symm
  rw [hkind, hname] at hid
  unfold callSequence sending at hcalls
  rw [hkind, hname] at hcalls
  exact ⟨o, ho, hid, path, p.artifact.path, p.plan.mode, hagreed.mode, hcalls⟩

end FilePlacement
