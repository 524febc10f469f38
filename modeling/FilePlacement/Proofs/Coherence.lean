import FilePlacement.Proofs.Identity
import FilePlacement.Proofs.Lifecycle
import FilePlacement.Proofs.Settling

/-!
# Records agree with their identities

A record has its identity in writing, and beside it the datastore, the content kind and the file name.
These come from four places: the desired state, the listed identity, the kind in the listing, and the
identity of a file that is taken over. Whatever a backend lists, the identity of every record that is
given can be read and has the datastore and the file name of the record (`State.Coherent`). Refreshing
makes this so, whatever the record was before (`refreshes_of_refresh`), taking over makes it so
(`coherent_takenOver`), updating keeps it, and therefore it holds of all records of any history
(`coherent_of_history`). `Refreshed` and `Created` add where each of the fields is from.
-/

namespace FilePlacement

open Reconciler

variable {σ : Type}

namespace State

/-- The identity that the fields of a record make up. -/
def volume (state : State) : VolumeId := ⟨state.datastoreId, state.contentType, state.fileName⟩

/-- The identity of a record can be read, and the record has its datastore and its file name. -/
def Coherent (state : State) : Prop :=
  ∃ v, VolumeId.parse state.id = .ok v ∧ state.datastoreId = v.datastore ∧ state.fileName = v.fileName

/-- If the content kind is that of the identity, too, the fields make up the identity. -/
theorem Coherent.format_volume {state : State} (hc : state.Coherent) {v : VolumeId}
    (hv : VolumeId.parse state.id = .ok v) (hkind : state.contentType = v.contentType) :
    state.volume.format = state.id := by
  obtain ⟨w, hw, hdatastore, hname⟩ := hc
  obtain rfl : v = w := Except.ok.inj (hv.symm.trans hw)
  have hvolume : state.volume = v := by rw [volume, hdatastore, hkind, hname]
  rw [hvolume]
  exact (VolumeId.parse_eq_ok_iff.1 hv).1

end State

theorem coherent_takenOver {id : String} {state : State} (h : importState id = .ok state) : state.Coherent := by
  obtain ⟨node, v, hparse, rfl⟩ := importState_eq_ok_iff.1 h
  obtain ⟨-, -, -, hv⟩ := VolumeId.parseOnNode_eq_ok_iff.1 hparse
  exact ⟨v, VolumeId.parse_format_iff.2 hv, rfl, rfl⟩

/-! ## Refreshing -/

/-- What a refreshed record says, from a listing in which its identity is looked up. -/
structure Refreshed (spec : Spec) (listing : List Listed) (id : String) (next : State) : Prop where
  id_eq : next.id = id
  nodeName : next.nodeName = spec.nodeName
  /-- The kind is the one that the first entry with the identity has. -/
  contentType : (listing.find? fun entry => entry.volumeId = id).map Listed.contentType = some next.contentType
  coherent : next.Coherent
  /-- Where the listing has the kind that is in the identity, the fields make up the identity. -/
  written : ∀ v, VolumeId.parse id = .ok v → next.contentType = v.contentType → next.volume.format = next.id

section
variable {h : Host Reconciling σ} {spec : Spec} {tmpDir : String} {state next : State} {s t u : σ}

theorem refreshes_of_refresh (hr : (refresh spec state).runInTime h s = (some (.ok (some next)), u)) :
    ∃ listing t, h.answerInTime (Call.backend (.listFiles spec.nodeName spec.datastoreId)) s =
      (some (.ok listing), t) ∧ Refreshed spec listing state.id next := by
  obtain ⟨sight, hs⟩ := exists_shows hr
  obtain ⟨u', hu'⟩ := runInTime_refresh hs state
  have hsight : sight.refresh spec state = .ok (some next) :=
    Option.some.inj (congrArg Prod.fst (hu'.symm.trans hr))
  obtain ⟨listing, entry, v, o, hlisting, hfind, hv, -, hnext⟩ := Sight.refresh_eq_some_iff.1 hsight
  obtain ⟨t, ht, -⟩ := hs
  rw [hlisting] at ht
  have hid : next.id = state.id := by
    rw [hnext]
    exact id_withObserved spec state entry v o
  have hfields : next.nodeName = spec.nodeName ∧ next.contentType = entry.contentType ∧
      next.datastoreId = v.datastore ∧ next.fileName = v.fileName := by
    rw [hnext]
    cases o <;> exact ⟨rfl, rfl, rfl, rfl⟩
  obtain ⟨hnode, hkind, hdatastore, hname⟩ := hfields
  have hcoherent : next.Coherent := ⟨v, hid ▸ hv, hdatastore, hname⟩
  refine ⟨listing, t, ht, hid, hnode, ?_, hcoherent, ?_⟩
  · rw [hfind, hkind]
    rfl
  · intro w hw hw'
    rw [← hid] at hw
    exact hcoherent.format_volume hw hw'

theorem refreshed_of_read {warnings : List String} (hr : (read h spec state s).result = .ok ⟨some next, warnings⟩) :
    ∃ listing t, h.answer (Call.backend (.listFiles spec.nodeName spec.datastoreId)) s = (.ok listing, t) ∧
      Refreshed spec listing state.id next := by
  have hrun := Program.runInTime_patient h (refresh spec state) s
  unfold Reconciler.read at hr
  rcases hend : Program.run h (refresh spec state) s with ⟨f | found, t⟩ <;> rw [hend] at hr hrun
  · cases hr
  · obtain rfl : found = some next := congrArg Outcome.value (Except.ok.inj hr)
    obtain ⟨listing, u, hlisting, hrefreshed⟩ := refreshes_of_refresh hrun
    exact ⟨listing, u, answer_of_patient hlisting, hrefreshed⟩

/-! ## Creating -/

theorem classify_eq (fileName : String) (explicit : Option String) (canImport : Bool) :
    ContentKind.classify fileName explicit canImport = match stated explicit with
      | some text => ContentKind.parse text
      | none => ContentKind.infer fileName canImport := by
  cases explicit with
  | none => rfl
  | some text =>
    simp only [ContentKind.classify, stated]
    cases text.isEmpty <;> rfl

/-- A file of this name is of this kind: the one that is stated, or else the one that the name suggests
to the release that the host tells, which is the oldest one if it tells none. -/
def Classifies (h : Host Reconciling σ) (spec : Spec) (fileName : String) (s : σ) (kind : ContentKind) : Prop :=
  ∃ release : Release, ContentKind.classify fileName spec.contentType release.canImport = .ok kind ∧
    (stated spec.contentType = none → ∃ (reply : Except Fault Release) (t : σ),
      h.answerInTime (Call.backend .release) s = (some reply, t) ∧ release = reply.toOption.getD .minimum)

theorem runInTime_releaseOrMinimum (h : Host Reconciling σ) (s : σ) :
    releaseOrMinimum.runInTime h s = match h.answerInTime (Call.backend .release) s with
      | (some reply, t) => (some ((reply : Except Fault Release).toOption.getD .minimum), t)
      | (none, t) => (none, t) := by
  have hrequest := Program.runInTime_request h (Call.backend .release) s
  unfold releaseOrMinimum
  rw [Program.runInTime_bind]
  rcases hanswer : h.answerInTime (Call.backend .release) s with ⟨_ | reply, t⟩ <;> rw [hanswer] at hrequest <;>
    rw [hrequest]
  change Except Fault Release at reply
  cases reply <;> rfl

theorem classifies_of_contentKind {fileName : String} {kind : ContentKind}
    (hr : (contentKind spec fileName).runInTime h s = (some (.ok kind), t)) : Classifies h spec fileName s kind := by
  unfold contentKind at hr
  cases hstated : stated spec.contentType with
  | some text =>
    rw [hstated] at hr
    have hparse : ContentKind.parse text = .ok kind :=
      Option.some.inj (congrArg Prod.fst ((Task.runInTime_ofExcept h _ s).symm.trans hr))
    refine ⟨.minimum, ?_, fun hnone => ?_⟩
    · rw [classify_eq, hstated]
      exact hparse
    · rw [hstated] at hnone
      cases hnone
  | none =>
    rw [hstated] at hr
    change (releaseOrMinimum.bind fun release =>
      .done (ContentKind.infer fileName release.canImport)).runInTime h s = _ at hr
    rw [Program.runInTime_bind, runInTime_releaseOrMinimum] at hr
    rcases hanswer : h.answerInTime (Call.backend .release) s with ⟨_ | reply, u⟩ <;> rw [hanswer] at hr
    · cases hr
    · refine ⟨_, ?_, fun _ => ⟨reply, u, hanswer, rfl⟩⟩
      rw [classify_eq, hstated]
      exact Option.some.inj (congrArg Prod.fst hr)

/-- What has been placed is what the desired state plans, of the kind that it is classified as. -/
theorem volume_of_place {p : Placed} (hr : (place tmpDir spec).runInTime h s = (some (.ok p), t)) :
    ∃ plan, Reconciler.plan spec = .ok plan ∧ Classifies h spec plan.fileName s p.kind ∧
      p.volume = ⟨spec.datastoreId, p.kind.name, plan.fileName⟩ := by
  obtain ⟨plan, s₁, hplan, hr⟩ := Task.of_runInTime_bind hr
  rw [Task.runInTime_ofExcept] at hplan
  rw [Prod.mk.injEq, Option.some.injEq] at hplan
  obtain ⟨hplan, rfl⟩ := hplan
  obtain ⟨kind, s₂, hkind, hr⟩ := Task.of_runInTime_bind hr
  obtain ⟨overwritten, s₃, -, hr⟩ := Task.of_runInTime_bind hr
  obtain ⟨artifact, s₄, -, hr⟩ := Task.of_runInTime_bind hr
  obtain ⟨warnings, s₅, -, hr⟩ := Task.of_runInTime_bind hr
  cases hr
  exact ⟨plan, hplan, classifies_of_contentKind hkind, rfl⟩

/-- An identity that was put together from parts and can be read reads as these parts. -/
theorem State.Coherent.parse_eq {datastore name : String} {kind : ContentKind} (hc : next.Coherent)
    (hid : next.id = VolumeId.format ⟨datastore, kind.name, name⟩) (hcolon : ':' ∉ datastore.toList) :
    VolumeId.parse next.id = .ok ⟨datastore, kind.name, name⟩ := by
  obtain ⟨v, hv, -⟩ := hc
  obtain ⟨hformat, hreadable⟩ := VolumeId.parse_eq_ok_iff.1 hv
  have hsame : v = ⟨datastore, kind.name, name⟩ :=
    VolumeId.eq_of_format_eq (hformat.trans hid) hreadable.colon_not_mem hcolon hreadable.slash_not_mem
      (VolumeId.slash_not_mem_name kind)
  rw [hv, hsame]

/-- A file whose identity reads as it was put together from parts has these parts. -/
theorem State.Coherent.eq_of_format {datastore name : String} {kind : ContentKind} (hc : next.Coherent)
    (hid : next.id = VolumeId.format ⟨datastore, kind.name, name⟩) (hcolon : ':' ∉ datastore.toList) :
    next.datastoreId = datastore ∧ next.fileName = name := by
  have hparse := hc.parse_eq hid hcolon
  obtain ⟨v, hv, hdatastore, hname⟩ := hc
  rw [hv] at hparse
  rw [hdatastore, hname, Except.ok.inj hparse]
  exact ⟨rfl, rfl⟩

/-- What the record of a successful creation says. -/
inductive Created (h : Host Reconciling σ) (tmpDir : String) (spec : Spec) (s : σ) (record : State) : Prop
  /-- The identity is made up of the datastore of the desired state, the kind that the file is classified as,
  and the name of its source; the record is refreshed from the listing behind the upload. -/
  | intro {source : Source} {name : String} {kind : ContentKind} {listing : List Listed} {t : σ}
      (hsource : spec.source = .ok source) (hname : source.fileName = .ok name)
      (hkind : Classifies h spec name (h.setLimit spec.timeout s) kind)
      (hid : record.id = VolumeId.format ⟨spec.datastoreId, kind.name, name⟩)
      (hlisting : h.answerInTime (Call.backend (.listFiles spec.nodeName spec.datastoreId))
        (placedAt h tmpDir spec s) = (some (.ok listing), t))
      (hrefreshed : Refreshed spec listing record.id record)
      (hparts : ':' ∉ spec.datastoreId.toList → record.datastoreId = spec.datastoreId ∧ record.fileName = name)

theorem Created.coherent {record : State} (hc : Created h tmpDir spec s record) : record.Coherent := by
  cases hc with
  | intro _ _ _ _ _ hrefreshed _ => exact hrefreshed.coherent

theorem created_of_create {o : Outcome State} (ho : (create h tmpDir spec s).result = .ok o) :
    Created h tmpDir spec s o.value := by
  obtain ⟨p, u, hplace, hback⟩ := placed_of_created ho
  obtain ⟨plan, hplan, hkind, hvolume⟩ := volume_of_place hplace
  obtain ⟨hsource, hname, -⟩ := fileName_of_plan hplan
  obtain ⟨listing, t, hlisting, hrefreshed⟩ := refreshes_of_refresh hback
  have hid : o.value.id = VolumeId.format ⟨spec.datastoreId, p.kind.name, plan.fileName⟩ := by
    rw [hrefreshed.id_eq, ← hvolume]
    rfl
  rw [← hrefreshed.id_eq] at hrefreshed
  refine .intro hsource hname hkind hid hlisting hrefreshed ?_
  intro hcolon
  exact hrefreshed.coherent.eq_of_format hid hcolon

end

/-! ## Histories -/

/-- An operation, or taking a file over that is there already. -/
inductive Action where
  | operation (op : Operation)
  | takeOver (id : String)

def Action.run (h : Host Reconciling σ) (tmpDir : String) : Action → σ → Finished σ (Option State)
  | .operation op, s => op.run h tmpDir s
  | .takeOver id, s => ⟨(importState id).map fun state => ⟨some state, []⟩, [], s⟩

/-- The record that an action has given, if it has given one. -/
def Finished.record? (f : Finished σ (Option State)) : Option State :=
  match f.result with
  | .ok o => o.value
  | .error _ => none

/-- Actions one after the other lead to a state of the host and have given these records. Only a record
that has been given is updated; any other action may be done with any record. -/
inductive History (h : Host Reconciling σ) (tmpDir : String) : σ → List State → Prop
  | start (s : σ) : History h tmpDir s []
  | step {s : σ} {known : List State} (action : Action) (hpast : History h tmpDir s known)
      (hupdate : ∀ spec state, action = .operation (.update spec state) → state ∈ known) :
      History h tmpDir (action.run h tmpDir s).host ((action.run h tmpDir s).record?.toList ++ known)

section
variable {h : Host Reconciling σ} {tmpDir : String} {s : σ}

theorem record?_eq_some_iff {f : Finished σ (Option State)} {state : State} :
    f.record? = some state ↔ ∃ warnings, f.result = .ok ⟨some state, warnings⟩ := by
  unfold Finished.record?
  rcases f.result with fault | ⟨value, warnings⟩ <;> simp

theorem History.created {known : List State} {spec : Spec} {o : Outcome State} (hpast : History h tmpDir s known)
    (ho : (create h tmpDir spec s).result = .ok o) :
    History h tmpDir (create h tmpDir spec s).host (o.value :: known) := by
  have hgiven : (Action.run h tmpDir (.operation (.create spec)) s).record? = some o.value :=
    record?_eq_some_iff.2 ⟨o.warnings, congrArg (Except.map (Outcome.map some)) ho⟩
  have hstep := History.step (.operation (.create spec)) hpast (by simp)
  rw [hgiven] at hstep
  exact hstep

theorem History.updated {known : List State} {spec : Spec} {state : State} {o : Outcome State}
    (hpast : History h tmpDir s known) (hstate : state ∈ known) (ho : Reconciler.update spec state = .ok o) :
    History h tmpDir s (o.value :: known) := by
  have hgiven : (Action.run h tmpDir (.operation (.update spec state)) s).record? = some o.value :=
    record?_eq_some_iff.2 ⟨o.warnings, congrArg (Except.map (Outcome.map some)) ho⟩
  have hstep := History.step (.operation (.update spec state)) hpast (by simp [hstate])
  rw [hgiven] at hstep
  exact hstep

/-- One action gives a coherent record, whatever record it is done with; an update keeps what it is given. -/
theorem coherent_of_action {action : Action} {next : State} (hn : (action.run h tmpDir s).record? = some next)
    (hupdate : ∀ spec state, action = .operation (.update spec state) → state.Coherent) : next.Coherent := by
  obtain ⟨warnings, hn⟩ := record?_eq_some_iff.1 hn
  cases action with
  | takeOver id =>
    change (importState id).map (fun state => (⟨some state, []⟩ : Outcome (Option State))) = _ at hn
    cases himport : importState id with
    | error f =>
      rw [himport] at hn
      cases hn
    | ok state =>
      rw [himport] at hn
      cases hn
      exact coherent_takenOver himport
  | operation op =>
    cases op with
    | create spec =>
      change (create h tmpDir spec s).result.map (Outcome.map some) = _ at hn
      cases hcreate : (create h tmpDir spec s).result with
      | error f =>
        rw [hcreate] at hn
        cases hn
      | ok o =>
        rw [hcreate] at hn
        cases hn
        exact (created_of_create hcreate).coherent
    | read spec state =>
      obtain ⟨_, _, _, hrefreshed⟩ := refreshed_of_read hn
      exact hrefreshed.coherent
    | update spec state =>
      change (Reconciler.update spec state).map (Outcome.map some) = _ at hn
      cases hresult : Reconciler.update spec state with
      | error f =>
        rw [hresult] at hn
        cases hn
      | ok o =>
        rw [hresult] at hn
        obtain ⟨-, -, ho⟩ := bind_eq_ok.1 hresult
        cases ho
        cases hn
        exact hupdate spec state rfl
    | delete spec state =>
      change (delete h spec state s).result.map (Outcome.map fun _ => none) = _ at hn
      cases hdelete : (delete h spec state s).result <;> rw [hdelete] at hn <;> cases hn

theorem coherent_of_history {known : List State} (hh : History h tmpDir s known) :
    ∀ state ∈ known, state.Coherent := by
  induction hh with
  | start s => simp
  | @step s known action hpast hupdate ih =>
    -- The history in front of the action is needed for updates only: any other action gives a new record.
    intro state hstate
    rcases List.mem_append.1 hstate with hnew | hold
    · refine coherent_of_action (Option.mem_toList.1 hnew) ?_
      intro spec before hbefore
      exact ih before (hupdate spec before hbefore)
    · exact ih state hold

end

/-- Whatever a host answers, every record of a history agrees with its identity. A record that has been
read keeps its identity, has the node of the desired state and the kind of the first entry with that
identity. One that has been created has the identity that the desired state, the kind that the file is
classified as and the name of its source make up, and their parts if the datastore has no colon. -/
theorem records_agree (h : Host Reconciling σ) (tmpDir : String) :
    (∀ s known, History h tmpDir s known → ∀ state ∈ known, state.Coherent) ∧
    (∀ spec state s next warnings, (read h spec state s).result = .ok ⟨some next, warnings⟩ →
      ∃ listing t, h.answer (Call.backend (.listFiles spec.nodeName spec.datastoreId)) s = (.ok listing, t) ∧
        Refreshed spec listing state.id next) ∧
    (∀ spec s o, (create h tmpDir spec s).result = .ok o → Created h tmpDir spec s o.value) := by
  refine ⟨?_, ?_, ?_⟩
  · intro s known hh
    exact coherent_of_history hh
  · intro spec state s next warnings hr
    exact refreshed_of_read hr
  · intro spec s o ho
    exact created_of_create ho

/-- A text is created and its record updated; a record with nothing but the identity is read in full. -/
theorem records_agree_snippet :
    ∃ o s, (create (Shelf.host "local" (.ok ())) "tmp" Shelf.snippet .empty).result = .ok o ∧
      History (Shelf.host "local" (.ok ())) "tmp" s [o.value, o.value] ∧ o.value.Coherent ∧
      o.value.datastoreId = "local" ∧ o.value.fileName = "notes.yaml" ∧
      ∃ next listing,
        (read (Shelf.host "local" (.ok ())) Shelf.snippet Shelf.recorded s).result = .ok ⟨some next, []⟩ ∧
        Refreshed Shelf.snippet listing "local:snippets/notes.yaml" next := by
  obtain ⟨hrecords, hread, hcreate⟩ := records_agree (Shelf.host "local" (.ok ())) "tmp"
  have hok : ∃ o, (create (Shelf.host "local" (.ok ())) "tmp" Shelf.snippet .empty).result = .ok o := ⟨_, rfl⟩
  obtain ⟨o, ho⟩ := hok
  have hupdate : Reconciler.update Shelf.snippet o.value = .ok ⟨o.value, []⟩ := rfl
  have hhistory := ((History.start Shelf.empty).created ho).updated List.mem_cons_self hupdate
  have hcoherent : o.value.Coherent := hrecords _ _ hhistory o.value List.mem_cons_self
  have hparts : o.value.datastoreId = "local" ∧ o.value.fileName = "notes.yaml" := by
    obtain ⟨hsource, hname, -, -, -, -, hparts⟩ := hcreate Shelf.snippet .empty o ho
    cases hsource
    cases hname
    exact hparts (by decide)
  have hfound : ∃ next, (read (Shelf.host "local" (.ok ())) Shelf.snippet Shelf.recorded
      (create (Shelf.host "local" (.ok ())) "tmp" Shelf.snippet .empty).host).result = .ok ⟨some next, []⟩ :=
    ⟨_, rfl⟩
  obtain ⟨next, hnext⟩ := hfound
  obtain ⟨listing, u, -, hrefreshed⟩ := hread _ _ _ _ _ hnext
  exact ⟨o, _, ho, hhistory, hcoherent, hparts.1, hparts.2, next, listing, hnext, hrefreshed⟩

end FilePlacement
