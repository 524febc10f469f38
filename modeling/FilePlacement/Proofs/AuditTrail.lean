import FilePlacement.Proofs.Coherence

/-!
# What the audit trail tells

Every upload and every deletion that a backend has done has its event, in order (`told`), and beside
these events creating says only what it has overwritten and why it has failed (`create_events`). So the
trail of a run tells, of each identity, whether it is stored (`Accounts`): one call and its event do
(`Entry.accounts`), hence a log and its events (`Linked.accounts`), an action (`accounts_action`) and a
whole run (`accounts_runActions`).
-/

namespace FilePlacement

open Reconciler Entries

variable {σ : Type}

/-! ## Events of calls -/

namespace Call

/-- What a datastore has been found to hold. -/
def listing? : (c : Call) → Option c.Reply → Option (List Listed)
  | .backend (.listFiles ..), some (.ok listing) => some listing
  | _, _ => none

/-- The event of a call of an attempt. A stream names a directory; `streamed` is the datastore that it belongs
to. -/
def event? (streamed : String) : Call → Option AuditEvent
  | .backend (.apiUpload node datastore u) =>
    some (.uploaded node (VolumeId.format ⟨datastore, u.contentType, u.fileName⟩) .api)
  | .backend (.streamUpload node _ u) =>
    some (.uploaded node (VolumeId.format ⟨streamed, u.kindName, u.fileName⟩) .stream)
  | .backend (.deleteFile node _ id) => some (.rolledBack node id)
  | _ => none

theorem event?_of_quiet {c : Call} (hc : c.Quiet) (streamed : String) : c.event? streamed = none := by
  unfold event?
  split
  · cases hc.1
  · cases hc.1
  · cases hc.2
  · rfl

end Call

namespace Entry

def listing? (e : Entry Reconciling σ) : Option (List Listed) := e.call.listing? e.answer

/-- The event of a call that has succeeded. -/
def event? (streamed : String) (e : Entry Reconciling σ) : Option AuditEvent :=
  if e.succeeded then e.call.event? streamed else none

end Entry

/-- The events of all that has been done. -/
def told (streamed : String) (log : List (Entry Reconciling σ)) : List AuditEvent :=
  log.filterMap (Entry.event? streamed)

/-- The first listing that a log has, empty if it has none. -/
def firstListing (log : List (Entry Reconciling σ)) : List Listed := (log.findSome? Entry.listing?).getD []

namespace Reconciler

/-- The events of what an upload has overwritten: of the files with its name in the first listing. -/
def overwrites (spec : Spec) (log : List (Entry Reconciling σ)) : List AuditEvent :=
  match completed spec.datastoreId log with
  | [] => []
  | _ :: _ =>
    (Placement.namesakes (nameOrEmpty spec) (firstListing log)).map fun v => .overwritten spec.nodeName v.format

/-- The event of a failure. -/
def failures (spec : Spec) : Except Fault (Outcome State) → List AuditEvent
  | .ok _ => []
  | .error f => [.uploadFailed spec.nodeName (nameOrEmpty spec) f.message]

end Reconciler

section
variable {h : Host Reconciling σ} {streamed : String} {log new : List (Entry Reconciling σ)}

theorem told_append : told streamed (log ++ new) = told streamed log ++ told streamed new := List.filterMap_append

theorem told_singleton (e : Entry Reconciling σ) : told streamed [e] = (e.event? streamed).toList := by
  unfold told
  cases he : e.event? streamed <;> simp [he]

theorem told_of_quiet (hl : QuietLog log) : told streamed log = [] := by
  refine List.filterMap_eq_nil_iff.2 fun e he => ?_
  unfold Entry.event?
  rw [Call.event?_of_quiet (hl e he)]
  exact ite_self none

theorem told_of_unsuccessful {spec : Spec} {v : VolumeId} (hu : Uploads spec v false log) : told streamed log = [] := by
  obtain ⟨pre, e, rfl, hpre, -, -, hs, -⟩ := hu
  rw [told_append, told_of_quiet hpre, told_singleton, Entry.event?, hs]
  rfl

theorem told_of_notUploaded {spec : Spec} (hn : NotUploaded spec log) : told streamed log = [] := by
  rcases hn with hq | ⟨v, hu⟩
  · exact told_of_quiet hq
  · exact told_of_unsuccessful hu

/-- A first listing stays the first one. -/
theorem findSome?_listing_append {listing : List Listed} (hl : log.findSome? Entry.listing? = some listing) :
    (log ++ new).findSome? Entry.listing? = some listing := by
  rw [List.findSome?_append, hl]
  rfl

theorem Entry.listing?_askedInTime {node datastore : String} {s t : σ} {reply : Option (Except Fault (List Listed))}
    (ht : h.answerInTime (Call.backend (.listFiles node datastore)) s = (reply, t)) :
    (Entry.askedInTime h (Call.backend (.listFiles node datastore)) s).listing? =
      Call.listing? (.backend (.listFiles node datastore)) reply :=
  congrArg (Call.listing? (.backend (.listFiles node datastore))) (congrArg Prod.fst ht)

/-- A listing behind a log without any is its first one. -/
theorem findSome?_listing_asked (hlog : log.findSome? Entry.listing? = none) {node datastore : String} {s t : σ}
    {reply : Option (Except Fault (List Listed))}
    (ht : h.answerInTime (Call.backend (.listFiles node datastore)) s = (reply, t)) :
    (log ++ [Entry.askedInTime h (Call.backend (.listFiles node datastore)) s]).findSome? Entry.listing? =
      Call.listing? (.backend (.listFiles node datastore)) reply := by
  rw [List.findSome?_append, hlog, Option.none_or, List.findSome?_singleton, Entry.listing?_askedInTime ht]

/-- A successful upload is told behind what the log has told before. -/
theorem Sends.told_eq {target : Target} {artifact : Artifact} {mode : Option FileMode} {s : σ}
    (hsends : Sends h target artifact mode s log true new) :
    told target.datastore new = told target.datastore log ++
      [.uploaded target.node (VolumeId.format ⟨target.datastore, target.kind.name, artifact.fileName⟩)
        target.kind.transport] := by
  have hquestion : told target.datastore [Entry.askedInTime h target.question s] = [] :=
    told_of_quiet (quietLog_singleton ⟨rfl, rfl⟩)
  cases hsends with
  | api hs hway =>
    rw [told_append, told_singleton, Entry.event?, if_pos hs, hway]
    rfl
  | @stream _ path hr hs hway =>
    have hevent : (target.streamUpload artifact mode path).event? target.datastore =
        some (.uploaded target.node (VolumeId.format ⟨target.datastore, target.kind.name, artifact.fileName⟩)
          .stream) := by
      simp only [Target.streamUpload, Call.event?, kindName_directory]
    rw [told_append, told_append, hquestion, List.append_nil, told_singleton, Entry.event?, if_pos hs, hway]
    exact congrArg (told target.datastore log ++ Option.toList ·) hevent

theorem Sends.exists_append {target : Target} {artifact : Artifact} {mode : Option FileMode} {s : σ} {success : Bool}
    (hsends : Sends h target artifact mode s log success new) : ∃ more, new = log ++ more := by
  cases hsends with
  | unaddressed => exact ⟨_, rfl⟩
  | api hs hway => exact ⟨_, rfl⟩
  | stream hr hs hway => exact ⟨_, List.append_assoc ..⟩

end

/-! ## Events of creating -/

section
variable {h : Host Reconciling σ} {tmpDir : String} {spec : Spec} {s : σ}

/-- What has been overwritten is what the first listing has of the name; of an upload, its event is told. -/
def Announces (spec : Spec) (p : Placed) (log : List (Entry Reconciling σ)) : Prop :=
  (∃ listing, log.findSome? Entry.listing? = some listing ∧
    p.overwritten = Placement.namesakes (nameOrEmpty spec) listing) ∧
    told spec.datastoreId log = [.uploaded spec.nodeName p.volume.format p.kind.transport]

theorem Announces.append {p : Placed} {log new : List (Entry Reconciling σ)} (ha : Announces spec p log)
    (hn : QuietLog new) : Announces spec p (log ++ new) := by
  obtain ⟨⟨listing, hlisting, hnames⟩, htold⟩ := ha
  refine ⟨⟨listing, findSome?_listing_append hlisting, hnames⟩, ?_⟩
  rw [told_append, htold, told_of_quiet hn]
  rfl

/-- The events of an upload are those of the log, once it is completed. -/
theorem Announces.events_eq {p : Placed} {log new : List (Entry Reconciling σ)} (ha : Announces spec p log)
    (hc : completed spec.datastoreId (log ++ new) = [p.volume]) :
    p.events spec.nodeName = overwrites spec (log ++ new) ++ told spec.datastoreId log := by
  obtain ⟨⟨listing, hlisting, hnames⟩, htold⟩ := ha
  unfold Placed.events overwrites
  rw [hc, htold, hnames, firstListing, findSome?_listing_append hlisting]
  rfl

theorem nameOrEmpty_of_plan {p : Plan} (hp : plan spec = .ok p) : nameOrEmpty spec = p.fileName := by
  obtain ⟨hsource, hname, -⟩ := fileName_of_plan hp
  unfold nameOrEmpty
  rw [hsource]
  dsimp only
  rw [hname]
  rfl

theorem collisions_eq_ok {overwrite : Bool} {fileName : String} {listing : List Listed} {vs : List VolumeId}
    (hc : Placement.collisions overwrite fileName listing = .ok vs) : vs = Placement.namesakes fileName listing := by
  unfold Placement.collisions at hc
  split at hc
  · cases hc
  · exact (Except.ok.inj hc).symm

theorem gives_collisions {node datastore fileName : String} {overwrite : Bool}
    {log : List (Entry Reconciling σ)} (hlog : log.findSome? Entry.listing? = none) :
    (Placement.checkCollision node datastore fileName overwrite).Gives h.logged
      (fun vs t => ∃ listing, t.2.findSome? Entry.listing? = some listing ∧
        Placement.collisions overwrite fileName listing = .ok vs) (s, log) := by
  unfold Placement.checkCollision
  refine Task.wp_bind.2 (Reconciling.wp_call_logged (.listFiles node datastore) (fun listing t ht => ?_)
    (fun f t _ => trivial) fun t _ => trivial)
  exact Task.gives_ofExcept fun vs hvs => ⟨listing, findSome?_listing_asked hlog ht, hvs⟩

theorem gives_prepare_collisions (h : Host Reconciling σ) (tmpDir : String) (spec : Spec) (s : σ) :
    (prepare tmpDir spec).Gives h.logged (fun p t => ∃ listing, t.2.findSome? Entry.listing? = some listing ∧
      Placement.collisions spec.overwrite p.plan.fileName listing = .ok p.overwritten) (s, []) := by
  refine Task.gives_ofExcept_bind fun plan _ => ?_
  have hkind := Task.wp_of_asksOnly (h := h.logged) (s := (s, [])) (fun t => t.2.findSome? Entry.listing? = none)
    (fun c t hc ht => ?_) (fun d t ht => ht)
    (asksOnly_contentKind (P := (· = Call.backend .release)) rfl spec plan.fileName) rfl
  · refine Task.wp_bind.2 (Task.wp_mono hkind (fun kind t ht => ?_) (fun _ _ _ => trivial) fun _ _ => trivial)
    refine Task.Gives.bind (gives_collisions ht) fun overwritten u hu => ?_
    obtain ⟨listing, hlisting, hcollisions⟩ := hu
    have hresolve := Task.wp_of_asksOnly (h := h.logged) (s := u)
      (fun t => t.2.findSome? Entry.listing? = some listing) (fun c t hc ht => findSome?_listing_append ht)
      (fun d t ht => ht) (asksOnly_resolve tmpDir plan.source) hlisting
    refine Task.wp_bind.2 (Task.wp_mono hresolve (fun artifact w hw => ?_) (fun _ _ _ => trivial) fun _ _ => trivial)
    exact ⟨listing, hw, hcollisions⟩
  · subst hc
    change (t.2 ++ [Entry.askedInTime h (Call.backend .release) t.1]).findSome? Entry.listing? = none
    rw [List.findSome?_append, ht]
    rfl

theorem gives_place_announces (h : Host Reconciling σ) (tmpDir : String) (spec : Spec) (s : σ) :
    (place tmpDir spec).Gives h.logged (fun p t => Announces spec p t.2) (s, []) := by
  rw [place_eq]
  have hprepare := Task.wp_and (wp_prepare h tmpDir spec s) (gives_prepare_collisions h tmpDir spec s)
  refine Task.wp_bind.2 (Task.wp_mono hprepare (fun p t hp => ?_) (fun _ _ _ => trivial) fun _ _ => trivial)
  obtain ⟨⟨⟨hplan, -, hname⟩, hquiet⟩, listing, hlisting, hcollisions⟩ := hp
  refine Task.wp_mono (wp_uploadPrepared h spec p t) ?_ (fun _ _ _ => trivial) fun _ _ => trivial
  rintro placed u ⟨⟨hvolume, hkind, hoverwritten⟩, hsends⟩
  obtain ⟨more, hu⟩ := hsends.exists_append
  constructor
  · refine ⟨listing, hu ▸ findSome?_listing_append hlisting, ?_⟩
    rw [hoverwritten, collisions_eq_ok hcollisions, nameOrEmpty_of_plan hplan]
  · rw [hsends.told_eq, told_of_quiet hquiet, hvolume, hkind, ← hname]
    rfl

theorem wp_readBack_announces {p : Placed} {t : σ × List (Entry Reconciling σ)} (hu : Uploads spec p.volume true t.2)
    (ha : Announces spec p t.2) :
    (readBack spec p).wp h.logged
      (fun st u => (st.id = p.volume.format ∧ UploadsThenLooks spec p.volume u.2) ∧ Announces spec p u.2)
      (fun _ u => UploadsThenLooks spec p.volume u.2 ∧ Announces spec p u.2)
      (fun u => UploadsThenLooks spec p.volume u.2 ∧ Announces spec p u.2) t := by
  refine Task.wp_and (wp_readBack_looks h hu) (Task.wp_of_asksOnly (h := h.logged) (s := t)
    (fun u => Announces spec p u.2) ?_ (fun d u hu => hu) (asksOnly_readBack spec p) ha)
  intro c u hc hu
  exact hu.append (quietLog_singleton hc.quiet)

theorem UploadsThenLooks.completed_eq {v : VolumeId} {log : List (Entry Reconciling σ)}
    (hu : UploadsThenLooks spec v log) : completed spec.datastoreId log = [v] := by
  obtain ⟨first, back, rfl, hu, hback⟩ := hu
  rw [completed_append, hu.completed_eq, completed_of_quiet hback]
  rfl

theorem rollBack_events (h : Host Reconciling σ) (spec : Spec) (p : Placed) (f : Fault) (s : σ) :
    (rollBack h spec p f s).events = p.events spec.nodeName ++
      told spec.datastoreId [Entry.asked h (deletion spec p.volume) s] ++ failures spec (.error f) := by
  have hevent : told spec.datastoreId [Entry.asked h (deletion spec p.volume) s] =
      if Call.succeeded (deletion spec p.volume) (some (h.answer (deletion spec p.volume) s).1) then
        [.rolledBack spec.nodeName p.volume.format] else [] := by
    rw [told_singleton, Entry.event?]
    exact apply_ite Option.toList _ _ _
  rw [hevent]
  unfold rollBack deletion
  rcases h.answer (Call.backend (.deleteFile spec.nodeName spec.datastoreId p.volume.format)) s with ⟨_ | _, t⟩
  · exact congrArg (· ++ failures spec (.error f)) (List.append_nil _).symm
  · rfl

/-- What the calls of creating tell, beside its result and the volumes whose upload is completed. -/
inductive Tells (spec : Spec) : Except Fault (Outcome State) → List VolumeId → List AuditEvent → Prop
  | created {o : Outcome State} {v : VolumeId} {way : Transport} (hid : o.value.id = v.format) :
      Tells spec (.ok o) [v] [.uploaded spec.nodeName v.format way]
  | unplaced {f : Fault} : Tells spec (.error f) [] []
  | undone {f : Fault} {v : VolumeId} {way : Transport} :
      Tells spec (.error f) [v] [.uploaded spec.nodeName v.format way, .rolledBack spec.nodeName v.format]
  /-- The upload could not be taken back. -/
  | remaining {f : Fault} {v : VolumeId} {way : Transport} :
      Tells spec (.error f) [v] [.uploaded spec.nodeName v.format way]

/-- After reading back without success, the events are those of the log with the deletion behind it. -/
theorem Announces.undone {p : Placed} {t : σ × List (Entry Reconciling σ)} {f : Fault}
    (hu : UploadsThenLooks spec p.volume t.2) (ha : Announces spec p t.2) :
    (rollBack h.logged spec p f t).events =
        overwrites spec (t.2 ++ [Entry.asked h (deletion spec p.volume) t.1]) ++
          told spec.datastoreId (t.2 ++ [Entry.asked h (deletion spec p.volume) t.1]) ++ failures spec (.error f) ∧
      Tells spec (.error f) (completed spec.datastoreId (t.2 ++ [Entry.asked h (deletion spec p.volume) t.1]))
        (told spec.datastoreId (t.2 ++ [Entry.asked h (deletion spec p.volume) t.1])) := by
  have hcompleted : completed spec.datastoreId (t.2 ++ [Entry.asked h (deletion spec p.volume) t.1]) =
      [p.volume] := by
    rw [completed_append, hu.completed_eq]
    exact congrArg (p.volume :: ·) (completed_eq_nil (List.forall_mem_singleton.2 rfl))
  constructor
  · have hevents := congrArg Finished.events (rollBack_agrees (logged_agrees h) spec p f t)
    rw [rollBack_events, ha.events_eq hcompleted] at hevents
    rw [← hevents, told_append, List.append_assoc (overwrites spec _)]
  · rw [hcompleted, told_append, ha.2, told_singleton, Entry.event?]
    split
    · exact .undone
    · exact .remaining

theorem Announces.created {p : Placed} {log : List (Entry Reconciling σ)} {o : Outcome State}
    (hu : UploadsThenLooks spec p.volume log) (ha : Announces spec p log) (hid : o.value.id = p.volume.format) :
    p.events spec.nodeName = overwrites spec log ++ told spec.datastoreId log ++ failures spec (.ok o) ∧
      Tells spec (.ok o) (completed spec.datastoreId log) (told spec.datastoreId log) := by
  have hcompleted : completed spec.datastoreId (log ++ []) = [p.volume] := by rw [List.append_nil, hu.completed_eq]
  have hevents := ha.events_eq hcompleted
  rw [List.append_nil] at hevents
  constructor
  · rw [hevents]
    exact (List.append_nil _).symm
  · rw [ha.2, hu.completed_eq]
    exact .created hid

theorem NotUploaded.events {log : List (Entry Reconciling σ)} {f : Fault} (hn : NotUploaded spec log) :
    failures spec (.error f) = overwrites spec log ++ told spec.datastoreId log ++ failures spec (.error f) ∧
      Tells spec (.error f) (completed spec.datastoreId log) (told spec.datastoreId log) := by
  rw [overwrites, hn.completed_eq, told_of_notUploaded hn]
  exact ⟨rfl, .unplaced⟩

/-- Creating has the events of what it overwrites, of what its calls have done, and of its failure. -/
theorem create_events (h : Host Reconciling σ) (tmpDir : String) (spec : Spec) (s : σ) :
    (create h tmpDir spec s).events = overwrites spec (createLog h tmpDir spec s) ++
        told spec.datastoreId (createLog h tmpDir spec s) ++ failures spec (create h tmpDir spec s).result ∧
      Tells spec (create h tmpDir spec s).result (completed spec.datastoreId (createLog h tmpDir spec s))
        (told spec.datastoreId (createLog h tmpDir spec s)) := by
  have hconcludes := create_concludes h.logged tmpDir spec (s, [])
    (E := fun _ t => NotUploaded spec t.2 ∧ True)
    (F := fun p _ t => UploadsThenLooks spec p.volume t.2 ∧ Announces spec p t.2)
    (B := fun p st t => (st.id = p.volume.format ∧ UploadsThenLooks spec p.volume t.2) ∧ Announces spec p t.2)
    (Task.wp_and (wp_place h tmpDir spec (h.setLimit spec.timeout s)) (gives_place_announces h tmpDir spec _))
    (fun p t ht => wp_readBack_announces ht.1 ht.2) (fun _ _ _ hn => hn) fun _ _ _ _ hu => hu
  rw [create_logged, createLog]
  generalize create h.logged tmpDir spec (s, []) = finished at hconcludes
  cases hconcludes with
  | unplaced hn => exact hn.1.events
  | undone hf =>
    rw [rollBack_result, rollBack_host]
    exact Announces.undone hf.1 hf.2
  | created hs => exact Announces.created hs.1.2 hs.2 hs.1.1

end

/-! ## What events tell of the entries -/

namespace AuditEvent

/-- The event says whether a volume is stored. -/
def isAbout (id : String) : AuditEvent → Bool
  | uploaded _ volume _ | rolledBack _ volume | deleted _ volume => volume == id
  | overwritten .. | uploadFailed .. => false

def isUploaded : AuditEvent → Bool
  | uploaded .. => true
  | _ => false

theorem eq_uploaded {id : String} {e : AuditEvent} (ha : e.isAbout id = true) (hu : e.isUploaded = true) :
    ∃ node way, e = .uploaded node id way := by
  cases e with
  | uploaded node volume way =>
    obtain rfl : volume = id := eq_of_beq ha
    exact ⟨node, way, rfl⟩
  | _ => cases hu

end AuditEvent

/-- The last event that says whether a volume is stored. -/
def lastWord (id : String) (events : List AuditEvent) : Option AuditEvent :=
  (events.filter (AuditEvent.isAbout id)).getLast?

theorem lastWord_append (id : String) (events new : List AuditEvent) :
    lastWord id (events ++ new) = (lastWord id new).or (lastWord id events) := by
  unfold lastWord
  rw [List.filter_append, List.getLast?_append]

theorem isAbout_of_lastWord {id : String} {events : List AuditEvent} {e : AuditEvent}
    (he : lastWord id events = some e) : e.isAbout id = true :=
  (List.mem_filter.1 (List.mem_of_getLast? he)).2

/-- From the entries `c` to the entries `c'`, the events have the last word on every identity that they are
about; what they are silent about has not changed. -/
def Accounts (c c' : Set Listed) (events : List AuditEvent) : Prop :=
  ∀ id, Holds c' id ↔ match lastWord id events with
    | some e => e.isUploaded = true
    | none => Holds c id

namespace Accounts

variable {c c' c'' : Set Listed} {events new : List AuditEvent}

theorem of_silent (hs : ∀ e ∈ events, ∀ id, e.isAbout id = false) : Accounts c c events := by
  intro id
  have hnone : lastWord id events = none := by
    unfold lastWord
    rw [List.filter_eq_nil_iff.2 fun e he => by simp [hs e he id]]
    rfl
  rw [hnone]

theorem refl (c : Set Listed) : Accounts c c [] := of_silent (by simp)

theorem trans (hfirst : Accounts c c' events) (hsecond : Accounts c' c'' new) : Accounts c c'' (events ++ new) := by
  intro id
  rw [hsecond id, lastWord_append]
  cases lastWord id new with
  | some e => exact Iff.rfl
  | none => exact hfirst id

theorem of_put (c : Set Listed) (v : VolumeId) (node : String) (way : Transport) :
    Accounts c (put c v) [.uploaded node v.format way] := by
  intro id
  by_cases hid : v.format = id
  · subst hid
    simp [lastWord, AuditEvent.isAbout, AuditEvent.isUploaded, holds_put]
  · simp [lastWord, AuditEvent.isAbout, hid, holds_put_of_ne (Ne.symm hid)]

/-- A volume that is gone has been rolled back or deleted. -/
theorem of_remove {id : String} {e : AuditEvent} (he : ∀ x, e.isAbout x = (id == x)) (hu : e.isUploaded = false) :
    Accounts c (remove c id) [e] := by
  intro x
  by_cases hid : id = x
  · subst hid
    simp [lastWord, he, hu, not_holds_remove]
  · simp [lastWord, he, hid, holds_remove_of_ne (Ne.symm hid)]

end Accounts

section
variable {h : Host Reconciling σ} {entries : σ → Set Listed} {paths : String → Option String} {tmpDir : String}
  {s t : σ} {datastore : String} {log : List (Entry Reconciling σ)}

/-- One call and its event: the event says what the call has changed. -/
theorem Entry.accounts (hs : ActsAsStore h entries paths) {e : Entry Reconciling σ} (hg : e.Genuine h)
    (haddr : ∀ node path u, e.call = .backend (.streamUpload node path u) → paths datastore = some path) :
    Accounts (entries e.before) (entries e.after) (e.event? datastore).toList := by
  have hc := hs.conforms e hg
  unfold Entry.event?
  -- Without success there is no event, and a store has not changed.
  cases hdone : e.succeeded with
  | false =>
    rw [hc.eq_of_not_succeeded hdone]
    exact .refl _
  | true =>
    obtain ⟨c, reply, before, after⟩ := e
    change Conforms paths (entries before) (entries after) c reply at hc
    change c.succeeded reply = true at hdone
    change Accounts (entries before) (entries after) (c.event? datastore).toList
    cases c with
    | here call => cases hdone
    | backend call =>
      cases call with
      | apiUpload node name u =>
        have hv : Call.volume? datastore (.backend (.apiUpload node name u)) =
            some ⟨name, u.contentType, u.fileName⟩ := rfl
        rw [hc.eq_put hv hdone nofun]
        exact .of_put _ _ node .api
      | streamUpload node path u =>
        have hv : Call.volume? datastore (.backend (.streamUpload node path u)) =
            some ⟨datastore, u.kindName, u.fileName⟩ := rfl
        rw [hc.eq_put hv hdone haddr]
        exact .of_put _ _ node .stream
      | deleteFile node name id =>
        rw [hc.eq_remove hdone]
        exact .of_remove (fun _ => rfl) rfl
      | _ =>
        rw [hc.eq_of_quiet ⟨rfl, rfl⟩]
        exact .refl _

/-- A log and its events: they say what its calls have changed, one after the other. -/
theorem Linked.accounts (hs : ActsAsStore h entries paths) (hl : Linked h entries s log t)
    (haddr : ∀ e ∈ log, ∀ node path u,
      e.call = .backend (.streamUpload node path u) → paths datastore = some path) :
    Accounts (entries s) (entries t) (told datastore log) := by
  -- The rest of the log starts from what the first call has left, so the host in front of it varies.
  induction log generalizing s with
  | nil =>
    rw [show entries s = entries t from hl]
    exact .refl _
  | cons e log ih =>
    obtain ⟨hbefore, hg, hrest⟩ := hl
    have hfirst := Entry.accounts hs hg (haddr e List.mem_cons_self)
    rw [hbefore, ← List.singleton_append, told_append, told_singleton]
    exact hfirst.trans (ih hrest fun x hx => haddr x (List.mem_cons_of_mem e hx))

/-! ## What actions tell -/

theorem Addressed.append {new : List (Entry Reconciling σ)} {c : Call} (ha : Addressed datastore log c) :
    Addressed datastore (log ++ new) c := by
  intro node path u hc
  obtain ⟨e, he, hr⟩ := ha node path u hc
  exact ⟨e, List.mem_append_left new he, hr⟩

theorem addressed_of_not_upload {c : Call} (hc : c.isUpload = false) : Addressed datastore log c := by
  rintro node path u rfl
  cases hc

theorem Uploads.addressed {spec : Spec} {v : VolumeId} {success : Bool} (hu : Uploads spec v success log) :
    ∀ e ∈ log, Addressed spec.datastoreId log e.call := by
  obtain ⟨pre, e, rfl, hpre, -, -, -, haddr⟩ := hu
  intro x hx
  rcases List.mem_append.1 hx with hx | hx
  · exact addressed_of_not_upload (hpre x hx).1
  · rw [List.mem_singleton.1 hx]
    exact haddr.append

/-- Creating streams only where the backend has said that the datastore has its files. -/
theorem addressed_createLog (h : Host Reconciling σ) (tmpDir : String) (spec : Spec) (s : σ) :
    ∀ e ∈ createLog h tmpDir spec s, Addressed spec.datastoreId (createLog h tmpDir spec s) e.call := by
  obtain ⟨undo, hlog, hcourse⟩ := create_course h tmpDir spec s
  rw [hlog]
  generalize attemptLog h tmpDir spec s = log at hcourse
  generalize (create h tmpDir spec s).result = result at hcourse
  intro e he
  cases hcourse with
  | unplaced hn =>
    rw [List.append_nil] at he ⊢
    rcases hn with hq | ⟨v, hu⟩
    · exact addressed_of_not_upload (hq e he).1
    · exact hu.addressed e he
  | created hid hu hback =>
    rw [List.append_nil] at he ⊢
    rcases List.mem_append.1 he with he | he
    · exact (hu.addressed e he).append
    · exact addressed_of_not_upload (hback e he).1
  | undone hu hback =>
    rcases List.mem_append.1 he with he | he
    · rcases List.mem_append.1 he with he | he
      · exact (hu.addressed e he).append.append
      · exact addressed_of_not_upload (hback e he).1
    · rw [List.mem_singleton.1 he]
      exact addressed_of_not_upload rfl

theorem accounts_create (hs : ActsAsStore h entries paths) (tmpDir : String) (spec : Spec) (s : σ) :
    Accounts (entries s) (entries (create h tmpDir spec s).host) (create h tmpDir spec s).events := by
  have hl := create_linked hs.act hs.setLimit tmpDir spec s
  have hcalls : Accounts (entries s) (entries (create h tmpDir spec s).host)
      (told spec.datastoreId (createLog h tmpDir spec s)) := by
    refine Linked.accounts hs hl fun e he node path u hc => ?_
    obtain ⟨e', he', hr⟩ := addressed_createLog h tmpDir spec s e he node path u hc
    exact (hs.conforms e' (hl.genuine e' he')).path_of_reports hr
  have hoverwrites : ∀ c, Accounts c c (overwrites spec (createLog h tmpDir spec s)) := by
    intro c
    refine .of_silent fun e he id => ?_
    unfold overwrites at he
    split at he
    · cases he
    · obtain ⟨v, -, rfl⟩ := List.mem_map.1 he
      rfl
  have hfailures : ∀ c, Accounts c c (failures spec (create h tmpDir spec s).result) := by
    intro c
    refine .of_silent fun e he id => ?_
    unfold failures at he
    split at he
    · cases he
    · rw [List.mem_singleton.1 he]
      rfl
  rw [(create_events h tmpDir spec s).1]
  exact ((hoverwrites _).trans hcalls).trans (hfailures _)

/-- The request of a deletion. -/
def removal (spec : Spec) (state : State) : Call := .backend (.deleteFile spec.nodeName spec.datastoreId state.id)

theorem delete_events (h : Host Reconciling σ) (spec : Spec) (state : State) (s : σ) :
    (delete h spec state s).events =
      if (Entry.asked h (removal spec state) s).succeeded then [.deleted spec.nodeName state.id] else [] := by
  change _ = if Call.succeeded (removal spec state) (some (h.answer (removal spec state) s).1) then _ else _
  unfold Reconciler.delete removal
  rcases h.answer (Call.backend (.deleteFile spec.nodeName spec.datastoreId state.id)) s with ⟨f | _, t⟩
  · cases f <;> rfl
  · rfl

theorem delete_host (h : Host Reconciling σ) (spec : Spec) (state : State) (s : σ) :
    (delete h spec state s).host = (h.answer (removal spec state) s).2 := by
  unfold Reconciler.delete removal
  rcases h.answer (Call.backend (.deleteFile spec.nodeName spec.datastoreId state.id)) s with ⟨f | _, t⟩
  · cases f <;> rfl
  · rfl

theorem accounts_delete (hs : ActsAsStore h entries paths) (spec : Spec) (state : State) (s : σ) :
    Accounts (entries s) (entries (delete h spec state s).host) (delete h spec state s).events := by
  have hc := hs.conforms _ (Entry.genuine_asked h (removal spec state) s)
  rw [delete_events, delete_host]
  cases hdone : (Entry.asked h (removal spec state) s : Entry Reconciling σ).succeeded with
  | true =>
    have hgone : entries (h.answer (removal spec state) s).2 = remove (entries s) state.id := hc.eq_remove hdone
    rw [hgone]
    exact .of_remove (fun _ => rfl) rfl
  | false =>
    have hkeep : entries (h.answer (removal spec state) s).2 = entries s := hc.eq_of_not_succeeded hdone
    rw [hkeep]
    exact .refl _

theorem read_events (h : Host Reconciling σ) (spec : Spec) (state : State) (s : σ) :
    (read h spec state s).events = [] := by
  unfold Reconciler.read
  rcases Program.run h (refresh spec state) s with ⟨_ | _, t⟩ <;> rfl

theorem read_host (h : Host Reconciling σ) (spec : Spec) (state : State) (s : σ) :
    (read h spec state s).host = (Program.run h (refresh spec state) s).2 := by
  unfold Reconciler.read
  rcases Program.run h (refresh spec state) s with ⟨_ | _, t⟩ <;> rfl

theorem accounts_read (hs : ActsAsStore h entries paths) (tmpDir : String) (spec : Spec) (state : State) (s : σ) :
    Accounts (entries s) (entries (read h spec state s).host) (read h spec state s).events := by
  have hstep := read_step hs tmpDir spec state s
  rw [read_events]
  generalize entries (read h spec state s).host = c at hstep
  generalize (read h spec state s).result = result at hstep
  cases hstep <;> exact .refl _

/-- Whatever an action does, its events say what it has changed. -/
theorem accounts_action (hs : ActsAsStore h entries paths) (tmpDir : String) (action : Action) (s : σ) :
    Accounts (entries s) (entries (action.run h tmpDir s).host) (action.run h tmpDir s).events := by
  cases action with
  | takeOver id => exact .refl _
  | operation op =>
    cases op with
    | create spec => exact accounts_create hs tmpDir spec s
    | read spec state => exact accounts_read hs tmpDir spec state s
    | update spec state => exact .refl _
    | delete spec state => exact accounts_delete hs spec state s

/-- Actions one after the other: the host after them, and all their events. -/
def runActions (h : Host Reconciling σ) (tmpDir : String) : List Action → σ → σ × List AuditEvent
  | [], s => (s, [])
  | action :: rest, s =>
    let finished := action.run h tmpDir s
    let (t, events) := runActions h tmpDir rest finished.host
    (t, finished.events ++ events)

theorem accounts_runActions (hs : ActsAsStore h entries paths) (tmpDir : String) (actions : List Action) (s : σ) :
    Accounts (entries s) (entries (runActions h tmpDir actions s).1) (runActions h tmpDir actions s).2 := by
  induction actions generalizing s with
  | nil => exact .refl _
  | cons action rest ih => exact (accounts_action hs tmpDir action s).trans (ih _)

end

/-- Creating has an event for all that it has overwritten once an upload is completed, for each upload and
deletion that its backend has done, and for its failure; deleting has one if the backend has done it, and
nothing else has any. So on a host that behaves as a store and is empty at first, an identity is stored after
any actions just if the last event about it is that of an upload. -/
theorem audit_replays (h : Host Reconciling σ) (tmpDir : String) :
    (∀ spec s, (create h tmpDir spec s).events = overwrites spec (createLog h tmpDir spec s) ++
        told spec.datastoreId (createLog h tmpDir spec s) ++ failures spec (create h tmpDir spec s).result ∧
      Tells spec (create h tmpDir spec s).result (completed spec.datastoreId (createLog h tmpDir spec s))
        (told spec.datastoreId (createLog h tmpDir spec s))) ∧
    (∀ spec state s, (delete h spec state s).events =
      if (Entry.asked h (removal spec state) s).succeeded then [.deleted spec.nodeName state.id] else []) ∧
    (∀ spec state id s, (Action.run h tmpDir (.operation (.read spec state)) s).events = [] ∧
      (Action.run h tmpDir (.operation (.update spec state)) s).events = [] ∧
      (Action.run h tmpDir (.takeOver id) s).events = []) ∧
    ∀ entries paths, ActsAsStore h entries paths → ∀ s, entries s = ∅ → ∀ actions id,
      Holds (entries (runActions h tmpDir actions s).1) id ↔
        ∃ node way, lastWord id (runActions h tmpDir actions s).2 = some (.uploaded node id way) := by
  refine ⟨fun spec s => create_events h tmpDir spec s, fun spec state s => delete_events h spec state s, ?_, ?_⟩
  · intro spec state id s
    exact ⟨read_events h spec state s, rfl, rfl⟩
  · intro entries paths hs s hempty actions id
    have hid := accounts_runActions hs tmpDir actions s id
    rw [hid]
    cases hlast : lastWord id (runActions h tmpDir actions s).2 with
    | none =>
      rw [hempty]
      exact iff_of_false (fun hx => hx.elim fun x hx => hx.1) (by simp)
    | some e =>
      constructor
      · intro hu
        obtain ⟨node, way, rfl⟩ := AuditEvent.eq_uploaded (isAbout_of_lastWord hlast) hu
        exact ⟨node, way, rfl⟩
      · rintro ⟨node, way, he⟩
        rw [Option.some.inj he]
        rfl

/-- A text is uploaded and deleted again; its two events are the trail. -/
theorem audit_replays_snippet :
    (runActions (Shelf.host "local" (.ok ())) "tmp" [.operation (.create Shelf.snippet)] .empty).2 =
        [.uploaded "node" "local:snippets/notes.yaml" .stream] ∧
      Holds {x | x ∈ (runActions (Shelf.host "local" (.ok ())) "tmp" [.operation (.create Shelf.snippet)]
          .empty).1.entries} "local:snippets/notes.yaml" ∧
      (runActions (Shelf.host "local" (.ok ())) "tmp"
          [.operation (.create Shelf.snippet), .operation (.delete Shelf.snippet Shelf.recorded)] .empty).2 =
        [.uploaded "node" "local:snippets/notes.yaml" .stream, .deleted "node" "local:snippets/notes.yaml"] ∧
      ¬ Holds {x | x ∈ (runActions (Shelf.host "local" (.ok ())) "tmp"
          [.operation (.create Shelf.snippet), .operation (.delete Shelf.snippet Shelf.recorded)] .empty).1.entries}
        "local:snippets/notes.yaml" := by
  have hreplays := (audit_replays (Shelf.host "local" (.ok ())) "tmp").2.2.2 _ _ (Shelf.actsAsStore "local") .empty
    (Set.eq_empty_iff_forall_notMem.2 fun x => List.not_mem_nil)
  have huploaded : (runActions (Shelf.host "local" (.ok ())) "tmp" [.operation (.create Shelf.snippet)] .empty).2 =
      [.uploaded "node" "local:snippets/notes.yaml" .stream] := rfl
  have hdeleted : (runActions (Shelf.host "local" (.ok ())) "tmp"
      [.operation (.create Shelf.snippet), .operation (.delete Shelf.snippet Shelf.recorded)] .empty).2 =
      [.uploaded "node" "local:snippets/notes.yaml" .stream, .deleted "node" "local:snippets/notes.yaml"] := rfl
  refine ⟨huploaded, ?_, hdeleted, ?_⟩
  · rw [hreplays, huploaded]
    exact ⟨"node", .stream, rfl⟩
  · rw [hreplays, hdeleted]
    rintro ⟨node, way, hlast⟩
    have hword : lastWord "local:snippets/notes.yaml"
        [.uploaded "node" "local:snippets/notes.yaml" .stream, .deleted "node" "local:snippets/notes.yaml"] =
        some (.deleted "node" "local:snippets/notes.yaml") := by decide
    rw [hword] at hlast
    cases hlast

end FilePlacement
