import FilePlacement.Proofs.CallSequence

/-!
# Files of the same name

Before a file is created, the datastore is listed and looked through for files of its name. Which these are is said
by the written identities alone: those that can be read and are read with this name (`VolumeId.isNamed`). Of them
the first one stands in the way of a file that must not overwrite (`collisions_false`), and all are found by one that
may (`format_namesakes`).

Creating a file comes to its upload only past this check. Up to there it stops because the desired state is wrong,
the kind of the file cannot be found, the backend does not answer, or a file is in the way (`Refusal`), and has asked
the backend for nothing but the release and the listing; past it, what the check has found is what is warned about
(`create_checked`).
-/

namespace FilePlacement

open Reconciler

variable {σ : Type}

/-! ## Listings -/

/-- The written identities of a listing, readable or not. -/
def identities (listing : List Listed) : List String := listing.map Listed.volumeId

/-- Whether an identity can be read, and is read with this file name. -/
def VolumeId.isNamed (fileName id : String) : Bool :=
  match parse id with
  | .ok v => decide (v.fileName = fileName)
  | .error _ => false

theorem VolumeId.isNamed_iff {fileName id : String} :
    isNamed fileName id = true ↔ ∃ v, parse id = .ok v ∧ v.fileName = fileName := by
  unfold isNamed
  cases parse id <;> simp

namespace Placement

variable (fileName : String) (listing : List Listed)

/-- The files that are found have the identities of their name, in the order of the listing. -/
theorem format_namesakes :
    (namesakes fileName listing).map VolumeId.format = (identities listing).filter (VolumeId.isNamed fileName) := by
  induction listing with
  | nil => rfl
  | cons entry rest ih =>
    have hrest : (namesakes fileName rest).map VolumeId.format =
        (rest.map Listed.volumeId).filter (VolumeId.isNamed fileName) := ih
    unfold namesakes at hrest ⊢
    rw [identities, List.map_cons, List.filter_cons, List.filterMap_cons]
    cases hparse : VolumeId.parse entry.volumeId with
    | error f => simpa [VolumeId.isNamed, hparse] using hrest
    | ok v =>
      obtain ⟨hformat, -⟩ := VolumeId.parse_eq_ok_iff.1 hparse
      by_cases hname : v.fileName = fileName
      · simpa [VolumeId.isNamed, hparse, hname, hformat] using hrest
      · simpa [VolumeId.isNamed, hparse, hname] using hrest

theorem mem_namesakes {v : VolumeId} :
    v ∈ namesakes fileName listing ↔ v.fileName = fileName ∧ ∃ x ∈ listing, VolumeId.parse x.volumeId = .ok v := by
  unfold namesakes
  rw [List.mem_filterMap]
  constructor
  · rintro ⟨x, hx, hv⟩
    cases hparse : VolumeId.parse x.volumeId with
    | error f => simp [hparse] at hv
    | ok w =>
      simp only [hparse, Option.ite_none_right_eq_some, Option.some.injEq] at hv
      obtain ⟨hname, rfl⟩ := hv
      exact ⟨hname, x, hx, hparse⟩
  · rintro ⟨hname, x, hx, hparse⟩
    exact ⟨x, hx, by simp [hparse, hname]⟩

/-- The first file of the name stands in the way of one that must not overwrite. -/
theorem collisions_false :
    collisions false fileName listing = match (identities listing).find? (VolumeId.isNamed fileName) with
      | some id => .error (.alreadyExists id)
      | none => .ok [] := by
  rw [← List.head?_filter, ← format_namesakes]
  unfold collisions
  cases namesakes fileName listing <;> rfl

theorem collisions_true : collisions true fileName listing = .ok (namesakes fileName listing) := by
  unfold collisions
  cases namesakes fileName listing <;> rfl

/-- Looking a datastore through is one listing, and what is found in it. -/
theorem runInTime_checkCollision (h : Host Reconciling σ) (node datastore : String) (overwrite : Bool) {s t : σ}
    (ht : h.answerInTime (Call.backend (.listFiles node datastore)) s = (some (.ok listing), t)) :
    (checkCollision node datastore fileName overwrite).runInTime h s =
      (some (collisions overwrite fileName listing), t) := by
  rw [← runInTime_listFiles] at ht
  unfold checkCollision
  rw [Task.runInTime_bind_ok ht]
  exact Task.runInTime_ofExcept h _ t

end Placement

/-! ## What stops a file before its upload -/

section
variable {h : Host Reconciling σ} {spec : Spec} {s : σ} {log new : List (Entry Reconciling σ)} {f : Fault}

/-- The log begins with the release, where it is asked for, and this listing of the datastore. -/
def ListedFirst (spec : Spec) (listing : List Listed) (log : List (Entry Reconciling σ)) : Prop :=
  ∃ pre e rest, log = pre ++ e :: rest ∧ pre.map Entry.call = (releases spec).map Call.backend ∧
    e.call = .backend (.listFiles spec.nodeName spec.datastoreId) ∧ e.listing? = some listing

/-- Creating a file has stopped before its upload for want of something that the check has to have, or because of
what the check has found. -/
inductive Refusal (h : Host Reconciling σ) (spec : Spec) (s : σ) : Fault → List (Entry Reconciling σ) → Prop
  | unfit {fault : Fault} (hplan : plan spec = .error fault) : Refusal h spec s fault []
  | unclassified {p : Plan} {fault : Fault} {log : List (Entry Reconciling σ)} (hplan : plan spec = .ok p)
      (hkind : Unclassified h spec p.fileName s fault)
      (hcalls : log.map Entry.call = (releases spec).map Call.backend) : Refusal h spec s fault log
  /-- The release or the listing was not answered. -/
  | unanswered {fault : Fault} {log : List (Entry Reconciling σ)} (hfailed : ∃ e ∈ log, e.succeeded = false)
      (hcalls : log.map Entry.call <+: (looks spec).map Call.backend)
      (hlisting : log.findSome? Entry.listing? = none) : Refusal h spec s fault log
  | collided {p : Plan} {kind : ContentKind} {fault : Fault} {listing : List Listed} {log : List (Entry Reconciling σ)}
      (hplan : plan spec = .ok p) (hkind : Classifies h spec p.fileName s kind) (hlisting : ListedFirst spec listing log)
      (hcollision : Placement.collisions spec.overwrite (nameOrEmpty spec) listing = .error fault)
      (hcalls : log.map Entry.call = (looks spec).map Call.backend) : Refusal h spec s fault log

/-- The first listing has been looked through, and these files of the name have been found. -/
def Checked (spec : Spec) (found : List VolumeId) (log : List (Entry Reconciling σ)) : Prop :=
  ∃ listing, ListedFirst spec listing log ∧
    Placement.collisions spec.overwrite (nameOrEmpty spec) listing = .ok found

theorem ListedFirst.append {listing : List Listed} (hl : ListedFirst spec listing log)
    (new : List (Entry Reconciling σ)) : ListedFirst spec listing (log ++ new) := by
  obtain ⟨pre, e, rest, rfl, hpre, he, hlisting⟩ := hl
  exact ⟨pre, e, rest ++ new, by simp, hpre, he, hlisting⟩

theorem Checked.append {found : List VolumeId} (hc : Checked spec found log) (new : List (Entry Reconciling σ)) :
    Checked spec found (log ++ new) := by
  obtain ⟨listing, hlisting, hfound⟩ := hc
  exact ⟨listing, hlisting.append new, hfound⟩

/-- Until the check is over, the backend has been asked for the release and the listing at most. -/
theorem Refusal.calls (hr : Refusal h spec s f log) : log.map Entry.call <+: (looks spec).map Call.backend := by
  cases hr with
  | unfit hplan => exact List.nil_prefix
  | unclassified hplan hkind hcalls =>
    rw [hcalls, looks, List.map_append]
    exact List.prefix_append _ _
  | unanswered hfailed hcalls hlisting => exact hcalls
  | collided hplan hkind hlisting hcollision hcalls => exact hcalls ▸ List.prefix_refl _

theorem quiet_of_mem_looks {c : Call} (hc : c ∈ (looks spec).map Call.backend) : c.Quiet := by
  obtain ⟨call, hcall, rfl⟩ := List.mem_map.1 hc
  rcases List.mem_append.1 hcall with hrelease | hlist
  · unfold releases at hrelease
    split at hrelease
    · obtain rfl := List.mem_singleton.1 hrelease
      exact ⟨rfl, rfl⟩
    · cases hrelease
  · obtain rfl := List.mem_singleton.1 hlist
    exact ⟨rfl, rfl⟩

theorem Refusal.quiet (hr : Refusal h spec s f log) : QuietLog log :=
  fun _ he => quiet_of_mem_looks (hr.calls.subset (List.mem_map_of_mem he))

theorem Entry.listing?_eq_none {e : Entry Reconciling σ}
    (hc : ∀ node datastore, e.call ≠ .backend (.listFiles node datastore)) : e.listing? = none := by
  obtain ⟨c, reply, before, after⟩ := e
  cases c with
  | here call => rfl
  | backend call =>
    cases call with
    | listFiles node datastore => exact absurd rfl (hc node datastore)
    | _ => rfl

/-- Nothing is listed while the release is asked for. -/
theorem findSome?_listing_of_releases (hcalls : log.map Entry.call = (releases spec).map Call.backend) :
    log.findSome? Entry.listing? = none := by
  refine List.findSome?_eq_none_iff.2 fun e he => Entry.listing?_eq_none fun node datastore hlist => ?_
  have hcall : e.call ∈ (releases spec).map Call.backend := hcalls ▸ List.mem_map_of_mem he
  rw [hlist] at hcall
  unfold releases at hcall
  split at hcall <;> simp at hcall

theorem ListedFirst.findSome?_eq {listing : List Listed} (hl : ListedFirst spec listing log) :
    log.findSome? Entry.listing? = some listing := by
  obtain ⟨pre, e, rest, rfl, hpre, -, hlisting⟩ := hl
  rw [List.findSome?_append, findSome?_listing_of_releases hpre, Option.none_or, List.findSome?_cons, hlisting]

end

/-! ## Stages -/

section
variable (h : Host Reconciling σ) (tmpDir : String) (spec : Spec)

theorem wp_contentKind_refusal {p : Plan} (hplan : plan spec = .ok p) (s : σ) :
    (contentKind spec p.fileName).wp h.logged
      (fun kind u => Classifies h spec p.fileName s kind ∧ u.2.map Entry.call = (releases spec).map Call.backend)
      (fun f u => Refusal h spec s f u.2) (fun u => Refusal h spec s (.timeout spec.timeout) u.2) (s, []) := by
  have hcalls : ∀ u : σ × List (Entry Reconciling σ), u.2 = [] ++ askedReleases h spec s →
      u.2.map Entry.call = (releases spec).map Call.backend := fun u hu => hu ▸ map_call_askedReleases h spec s
  refine Task.wp_mono (wp_contentKind h spec p.fileName s []) ?_ ?_ ?_
  · rintro kind u ⟨hkind, hu⟩
    exact ⟨hkind, hcalls u hu⟩
  · rintro f u ⟨hnone, hu⟩
    exact .unclassified hplan hnone (hcalls u hu)
  · rintro u ⟨⟨e, he, hfailed⟩, hu⟩
    have he : e ∈ u.2 := hu ▸ List.mem_append_right [] he
    refine .unanswered ⟨e, he, hfailed⟩ ?_ (findSome?_listing_of_releases (hcalls u hu))
    rw [hcalls u hu, looks, List.map_append]
    exact List.prefix_append _ _

/-- Looking a datastore through behind the release finds the files of the name, or stops. -/
theorem wp_checkCollision_refusal {p : Plan} {kind : ContentKind} (hplan : plan spec = .ok p) {s : σ}
    (hkind : Classifies h spec p.fileName s kind) {t : σ × List (Entry Reconciling σ)}
    (hcalls : t.2.map Entry.call = (releases spec).map Call.backend) :
    (Placement.checkCollision spec.nodeName spec.datastoreId p.fileName spec.overwrite).wp h.logged
      (fun found u => Checked spec found u.2) (fun f u => Refusal h spec s f u.2)
      (fun u => Refusal h spec s (.timeout spec.timeout) u.2) t := by
  obtain ⟨t, log⟩ := t
  have hlog : (log ++ [Entry.askedInTime h (Call.backend (.listFiles spec.nodeName spec.datastoreId)) t]).map Entry.call =
      (looks spec).map Call.backend := by
    rw [List.map_append, hcalls, looks, List.map_append]
    rfl
  have hnone := findSome?_listing_of_releases hcalls
  refine Task.wp_bind.2 (Reconciling.wp_call_logged (.listFiles spec.nodeName spec.datastoreId)
    (fun listing u hu => ?_) (fun f u hu => ?_) fun u hu => ?_)
  · have hfirst : ListedFirst spec listing
        (log ++ [Entry.askedInTime h (Call.backend (.listFiles spec.nodeName spec.datastoreId)) t]) :=
      ⟨log, _, [], rfl, hcalls, rfl, Entry.listing?_askedInTime hu⟩
    rw [← nameOrEmpty_of_plan hplan]
    exact Task.wp_ofExcept.2 ⟨fun found hfound => ⟨listing, hfirst, hfound⟩, fun f hf =>
      .collided hplan hkind hfirst hf hlog⟩
  · exact .unanswered ⟨_, List.mem_append_right log List.mem_cons_self, succeeded_of_error hu⟩
      (hlog ▸ List.prefix_refl _) (findSome?_listing_asked hnone hu)
  · exact .unanswered ⟨_, List.mem_append_right log List.mem_cons_self, succeeded_of_none hu⟩
      (hlog ▸ List.prefix_refl _) (findSome?_listing_asked hnone hu)

/-- Behind the check, nothing changes what it has found. -/
theorem leads_checked {α : Type} {found : List VolumeId} (t : Task Reconciling α) {u : σ × List (Entry Reconciling σ)}
    (hu : Checked spec found u.2) : t.Leads h.logged (fun u => Checked spec found u.2) u :=
  Task.leads_of_asksOnly (h := h.logged) (P := fun _ => True) (fun u => Checked spec found u.2)
    (fun c u _ hu => hu.append [Entry.askedInTime h c u.1]) (fun _ _ hu => hu) (Program.asksOnly_true t) hu

/-- An upload warns of a datastore that is not meant for the kind, or not at all. -/
def UploadWarnings (datastore : String) (kind : ContentKind) (warnings : List String) : Prop :=
  warnings = [] ∨ ∃ supported, kind.name ∉ supported ∧ warnings = [Placement.unsupportedWarning datastore kind supported]

theorem ends_upload (target : Target) (artifact : Artifact) (mode : Option FileMode) :
    (Placement.upload target artifact mode).Ends (UploadWarnings target.datastore target.kind) := by
  unfold Placement.upload
  cases target.kind.transport with
  | api => exact Task.Ends.bind' fun _ => Task.ends_pure (Or.inl rfl)
  | stream =>
    refine Task.Ends.bind' fun d => ?_
    cases stated (d : Datastore).path with
    | none => exact Task.ends_throw _
    | some path =>
      refine Task.Ends.bind' fun _ => Task.ends_pure ?_
      by_cases hmeant : (Datastore.content d).contains target.kind.name = true
      · exact Or.inl (if_pos hmeant)
      · exact Or.inr ⟨Datastore.content d, by simpa using hmeant, if_neg hmeant⟩

/-- What has been placed is warned about: first the files of the name that the check has found. -/
def Warned (spec : Spec) (found : List VolumeId) (warnings : List String) : Prop :=
  ∃ kind extra, warnings = found.map Placement.overwriteWarning ++ extra ∧ UploadWarnings spec.datastoreId kind extra

theorem wp_place_checked (s : σ) :
    (place tmpDir spec).wp h.logged
      (fun p u => Checked spec p.overwritten u.2 ∧ Warned spec p.overwritten p.warnings)
      (fun f u => Refusal h spec s f u.2 ∨ ∃ found, Checked spec found u.2)
      (fun u => Refusal h spec s (.timeout spec.timeout) u.2 ∨ ∃ found, Checked spec found u.2) (s, []) := by
  unfold place
  refine Task.wp_bind.2 (Task.wp_ofExcept.2 ⟨fun plan hplan => ?_, fun f hf => Or.inl (.unfit hf)⟩)
  refine Task.wp_bind.2 (Task.wp_mono (wp_contentKind_refusal h spec hplan s) ?_ (fun _ _ => Or.inl) fun _ => Or.inl)
  rintro kind t ⟨hkind, ht⟩
  refine Task.wp_bind.2 (Task.wp_mono (wp_checkCollision_refusal h spec hplan hkind ht) (fun found u hu => ?_)
    (fun _ _ => Or.inl) fun _ => Or.inl)
  refine Task.wp_bind.2 (Task.wp_mono (leads_checked h spec (Artifact.resolve tmpDir plan.source) hu)
    (fun artifact v hv => ?_) (fun _ _ hv => Or.inr ⟨found, hv⟩) fun _ hv => Or.inr ⟨found, hv⟩)
  have hupload := Task.wp_ends (ends_upload ⟨spec.nodeName, spec.datastoreId, kind⟩ artifact plan.mode)
    (leads_checked h spec (Placement.upload ⟨spec.nodeName, spec.datastoreId, kind⟩ artifact plan.mode) hv)
  refine Task.wp_bind.2 (Task.wp_mono (Task.wp_guarded_logged
    (Q := fun warnings log => UploadWarnings spec.datastoreId kind warnings ∧ Checked spec found log)
    (E := fun _ log => Checked spec found log) (C := fun log => Checked spec found log) hupload)
    (fun warnings w hw => ?_) (fun _ _ hw => Or.inr ⟨found, hw⟩) fun _ hw => Or.inr ⟨found, hw⟩)
  exact ⟨hw.2, kind, warnings, rfl, hw.1⟩

end

/-! ## Creating -/

/-- How far creating a file has come: not past the check; past it without success; or the file is there, and there
are warnings about what the check has found. -/
inductive CheckCourse (h : Host Reconciling σ) (spec : Spec) (s : σ) :
    Except Fault (Outcome State) → List (Entry Reconciling σ) → Prop
  | refused {f : Fault} {log : List (Entry Reconciling σ)} (hr : Refusal h spec s f log) :
      CheckCourse h spec s (.error f) log
  | stopped {f : Fault} {log : List (Entry Reconciling σ)} {found : List VolumeId} (hc : Checked spec found log) :
      CheckCourse h spec s (.error f) log
  | created {o : Outcome State} {log : List (Entry Reconciling σ)} {found : List VolumeId}
      (hc : Checked spec found log) (hw : Warned spec found o.warnings) : CheckCourse h spec s (.ok o) log

theorem create_checked (h : Host Reconciling σ) (tmpDir : String) (spec : Spec) (s : σ) :
    CheckCourse h spec (h.setLimit spec.timeout s) (create h tmpDir spec s).result (createLog h tmpDir spec s) := by
  have hconcludes := create_concludes h.logged tmpDir spec (s, [])
    (E := fun f u => Refusal h spec (h.setLimit spec.timeout s) f u.2 ∨ ∃ found, Checked spec found u.2)
    (F := fun p _ u => Checked spec p.overwritten u.2 ∧ Warned spec p.overwritten p.warnings)
    (B := fun p _ u => Checked spec p.overwritten u.2 ∧ Warned spec p.overwritten p.warnings)
    (wp_place_checked h tmpDir spec (h.setLimit spec.timeout s))
    (fun p t ht => Task.wp_mono (leads_checked h spec (readBack spec p) ht.1) (fun _ _ hu => ⟨hu, ht.2⟩)
      (fun _ _ hu => ⟨hu, ht.2⟩) fun _ hu => ⟨hu, ht.2⟩)
    (fun _ _ _ hu => hu) fun _ _ _ _ hu => hu
  rw [create_logged, createLog]
  generalize create h.logged tmpDir spec (s, []) = finished at hconcludes
  cases hconcludes with
  | unplaced hf =>
    rcases hf with hr | ⟨found, hc⟩
    · exact .refused hr
    · exact .stopped hc
  | undone hf =>
    rw [rollBack_result, rollBack_host]
    exact .stopped (hf.1.append _)
  | created hs => exact .created hs.1 hs.2

/-- What has been created has passed the check. -/
theorem checked_of_created {h : Host Reconciling σ} {tmpDir : String} {spec : Spec} {s : σ} {o : Outcome State}
    (ho : (create h tmpDir spec s).result = .ok o) :
    ∃ found, Checked spec found (createLog h tmpDir spec s) ∧ Warned spec found o.warnings := by
  have hcourse := create_checked h tmpDir spec s
  rw [ho] at hcourse
  generalize createLog h tmpDir spec s = log at hcourse ⊢
  cases hcourse with
  | created hc hw => exact ⟨_, hc, hw⟩

end FilePlacement
