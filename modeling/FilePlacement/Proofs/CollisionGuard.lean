import FilePlacement.Proofs.Collisions
import FilePlacement.Proofs.FaultOrigins
import FilePlacement.Proofs.ReleaseInfluence

/-!
# Names that are taken

A file that must not overwrite is not created where its name is taken: creating it fails on the first file of the
name, with nothing asked for but the release and the listing (`create_refused`). What a successful creation warns
about are the files that the check has found (`warnings_of_created`).

On a host that behaves as a store, a file that has been created takes its own name: to create it again without
overwriting changes nothing and fails (`create_again`). It fails on a file of the name, unless the host has told a
release that can import at first and tells none now: then the name of a disk image suggests no kind any more, and
the check is not come to.
-/

namespace FilePlacement

open Reconciler Entries

variable {σ : Type}

/-! ## With and without overwriting -/

section
variable {h : Host Reconciling σ} {tmpDir : String} {spec : Spec} {s : σ}

/-- The first file of the name refuses one that must not overwrite. -/
theorem create_refused {listing : List Listed} {id : String} (hoverwrite : spec.overwrite = false)
    (hlisting : (createLog h tmpDir spec s).findSome? Entry.listing? = some listing)
    (hid : (identities listing).find? (VolumeId.isNamed (nameOrEmpty spec)) = some id) :
    (create h tmpDir spec s).result = .error (.alreadyExists id) ∧
      (createLog h tmpDir spec s).map Entry.call = (looks spec).map Call.backend := by
  have hcollision : Placement.collisions spec.overwrite (nameOrEmpty spec) listing = .error (.alreadyExists id) := by
    rw [hoverwrite, Placement.collisions_false, hid]
  have hchecked : ∀ found, ¬ Checked spec found (createLog h tmpDir spec s) := by
    rintro found ⟨listing', hlisting', hfound⟩
    obtain rfl : listing = listing' := Option.some.inj (hlisting.symm.trans hlisting'.findSome?_eq)
    rw [hcollision] at hfound
    cases hfound
  have hcourse := create_checked h tmpDir spec s
  generalize createLog h tmpDir spec s = log at *
  generalize (create h tmpDir spec s).result = result at *
  cases hcourse with
  | refused hr =>
    cases hr with
    | unfit hplan => cases hlisting
    | unclassified hplan hkind hcalls =>
      rw [findSome?_listing_of_releases hcalls] at hlisting
      cases hlisting
    | unanswered hfailed hcalls hnone =>
      rw [hnone] at hlisting
      cases hlisting
    | collided hplan hkind hfirst hf hcalls =>
      obtain rfl := Option.some.inj (hlisting.symm.trans hfirst.findSome?_eq)
      rw [hcollision] at hf
      obtain rfl := Except.error.inj hf
      exact ⟨rfl, hcalls⟩
  | stopped hc => exact (hchecked _ hc).elim
  | created hc hw => exact (hchecked _ hc).elim

theorem warnings_of_created {o : Outcome State} (ho : (create h tmpDir spec s).result = .ok o) :
    ∃ listing found, (createLog h tmpDir spec s).findSome? Entry.listing? = some listing ∧
      found.map VolumeId.format =
        (if spec.overwrite then (identities listing).filter (VolumeId.isNamed (nameOrEmpty spec)) else []) ∧
      Warned spec found o.warnings := by
  obtain ⟨found, ⟨listing, hlisting, hfound⟩, hw⟩ := checked_of_created ho
  refine ⟨listing, found, hlisting.findSome?_eq, ?_, hw⟩
  cases hoverwrite : spec.overwrite with
  | true =>
    rw [hoverwrite, Placement.collisions_true] at hfound
    obtain rfl := Except.ok.inj hfound
    exact Placement.format_namesakes _ _
  | false =>
    rw [hoverwrite, Placement.collisions_false] at hfound
    split at hfound
    · cases hfound
    · obtain rfl := Except.ok.inj hfound
      rfl

end

/-! ## Creating again -/

/-- The desired state stands for a disk image, no kind is stated, and the release has been dropped: the host tells one
that can import in the state `s`, and none in the state `t`. -/
def ReleaseDropped (h : Host Reconciling σ) (spec : Spec) (s t : σ) : Prop :=
  stated spec.contentType = none ∧ ContentKind.endsIn ContentKind.importEndings (nameOrEmpty spec) = true ∧
    ∃ before after : Except Fault Release, (h.answerInTime (Call.backend .release) s).1 = some before ∧
      (h.answerInTime (Call.backend .release) t).1 = some after ∧ ¬ TooOld before ∧ TooOld after

section
variable {h : Host Reconciling σ} {spec : Spec} {fileName : String} {s t : σ} {kind : ContentKind} {f : Fault}

/-- The name of a disk image has no kind where no release is told that can import. -/
theorem not_classifies_of_tooOld (hstated : stated spec.contentType = none)
    (hi : ContentKind.endsIn ContentKind.importEndings fileName = true) {reply : Except Fault Release}
    (hreply : (h.answerInTime (Call.backend .release) s).1 = some reply) (hold : TooOld reply) :
    ¬ Classifies h spec fileName s kind := by
  rintro ⟨release, hkind, htold⟩
  obtain ⟨reply', u, hreply', rfl⟩ := htold hstated
  obtain rfl : reply' = reply := Option.some.inj ((congrArg Prod.fst hreply').symm.trans hreply)
  have hcannot : (reply'.toOption.getD .minimum).canImport = false :=
    Bool.eq_false_of_not_eq_true fun hnew => (canImport_told reply').1 hnew hold
  rw [classify_eq, hstated, hcannot] at hkind
  dsimp only at hkind
  rw [(ContentKind.infer_of_import hi).2] at hkind
  cases hkind

/-- A name that has a kind and has none later is that of a disk image, and the release has been dropped between. -/
theorem releaseDropped_of_unclassified (hkind : Classifies h spec (nameOrEmpty spec) s kind)
    (hnone : Unclassified h spec (nameOrEmpty spec) t f) :
    f = .undeterminedContentKind (nameOrEmpty spec) ∧ ReleaseDropped h spec s t := by
  have ⟨before, hbefore, htold⟩ := hkind
  obtain ⟨after, hafter, htold'⟩ := hnone
  rw [classify_eq] at hbefore hafter
  cases hstated : stated spec.contentType with
  | some text =>
    rw [hstated] at hbefore hafter
    cases hbefore.symm.trans hafter
  | none =>
    rw [hstated] at hbefore hafter
    dsimp only at hbefore hafter
    obtain ⟨reply, u, hreply, rfl⟩ := htold hstated
    obtain ⟨reply', u', hreply', rfl⟩ := htold' hstated
    cases hi : ContentKind.endsIn ContentKind.importEndings (nameOrEmpty spec) with
    | false =>
      rw [ContentKind.infer_of_not_import hi] at hbefore hafter
      cases hbefore.symm.trans hafter
    | true =>
      obtain ⟨himport, hundetermined⟩ := ContentKind.infer_of_import hi
      have hcannot : (reply'.toOption.getD .minimum).canImport = false := by
        refine Bool.eq_false_of_not_eq_true fun hnew => ?_
        rw [hnew, himport] at hafter
        cases hafter
      rw [hcannot, hundetermined] at hafter
      refine ⟨(Except.error.inj hafter).symm, hstated, hi, reply, reply', congrArg Prod.fst hreply,
        congrArg Prod.fst hreply', ?_, ?_⟩
      · intro hold
        exact not_classifies_of_tooOld hstated hi (congrArg Prod.fst hreply) hold hkind
      · by_contra hnew
        rw [(canImport_told reply').2 hnew] at hcannot
        cases hcannot

end

section
variable {h : Host Reconciling σ} {entries : σ → Set Listed} {paths : String → Option String} {tmpDir : String}
  {spec : Spec} {s t : σ} {log : List (Entry Reconciling σ)}

/-- A listing of a store has all entries of the datastore. -/
theorem Entry.listsAll (hs : ActsAsStore h entries paths) {e : Entry Reconciling σ} (hg : e.Genuine h)
    {node datastore : String} (hcall : e.call = .backend (.listFiles node datastore)) {listing : List Listed}
    (hlisting : e.listing? = some listing) : ListsAll (entries e.before) datastore listing := by
  have hc := hs.conforms e hg
  obtain ⟨c, reply, before, after⟩ := e
  obtain rfl : c = .backend (.listFiles node datastore) := hcall
  change Option (Except Fault (List Listed)) at reply
  match reply, hlisting with
  | some (.ok listing'), hlisting =>
    obtain rfl : listing' = listing := Option.some.inj hlisting
    exact hc.2

/-- The first listing is one of the entries that a store has at the beginning. -/
theorem ListedFirst.listsAll (hs : ActsAsStore h entries paths) (hl : Linked h entries s log t) {listing : List Listed}
    (hlisting : ListedFirst spec listing log) : ListsAll (entries s) spec.datastoreId listing := by
  obtain ⟨pre, e, rest, rfl, hpre, hcall, he⟩ := hlisting
  obtain ⟨m, hfirst, hbefore, hg, -⟩ := linked_append.1 hl
  have hquiet : QuietLog pre := by
    intro x hx
    have hlooks : x.call ∈ (looks spec).map Call.backend := by
      rw [looks, List.map_append, ← hpre]
      exact List.mem_append_left _ (List.mem_map_of_mem hx)
    exact quiet_of_mem_looks hlooks
  rw [← hs.eq_of_quietLog hfirst hquiet, hbefore]
  exact Entry.listsAll hs hg hcall he

/-- What has been created is planned and classified, and stored under the identity that this makes up. -/
theorem stored_of_created (hs : ActsAsStore h entries paths) {o : Outcome State}
    (ho : (create h tmpDir spec s).result = .ok o) :
    ∃ p kind, plan spec = .ok p ∧ Classifies h spec p.fileName (h.setLimit spec.timeout s) kind ∧
      Holds (entries (create h tmpDir spec s).host) (VolumeId.format ⟨spec.datastoreId, kind.name, p.fileName⟩) := by
  obtain ⟨placed, u, hplace, hback⟩ := placed_of_created ho
  obtain ⟨p, hplan, hkind, hvolume⟩ := volume_of_place hplace
  obtain ⟨listing, u', -, hrefreshed⟩ := refreshes_of_refresh hback
  have hid : o.value.id = VolumeId.format ⟨spec.datastoreId, placed.kind.name, p.fileName⟩ := by
    rw [← hvolume]
    exact hrefreshed.id_eq
  refine ⟨p, placed.kind, hplan, hkind, ?_⟩
  rw [← hid]
  have hstep := create_step hs tmpDir spec s
  rw [ho] at hstep
  generalize hresult : (Except.ok o).map (Outcome.map some) = result at hstep
  generalize entries (create h tmpDir spec s).host = c at hstep ⊢
  cases hstep with
  | created htarget hid hheld =>
    have hvalue := congrArg Outcome.value (Except.ok.inj hresult)
    rw [Option.some.inj hvalue]
    exact hheld
  | unplaced => cases hresult
  | undone => cases hresult
  | remaining => cases hresult

/-- An identity that creating a file makes up is one of its name, and belongs to its datastore. -/
theorem isNamed_made {p : Plan} (hplan : plan spec = .ok p) (kind : ContentKind) (hdatastore : spec.datastoreId ≠ "")
    (hcolon : ':' ∉ spec.datastoreId.toList) :
    VolumeId.isNamed (nameOrEmpty spec) (VolumeId.format ⟨spec.datastoreId, kind.name, p.fileName⟩) = true := by
  have hname := fileName_ne_empty (fileName_of_plan hplan).2.1
  have hreadable := VolumeId.readable_of_kind kind hdatastore hcolon hname
  exact VolumeId.isNamed_iff.2 ⟨_, VolumeId.parse_format_iff.2 hreadable, (nameOrEmpty_of_plan hplan).symm⟩

theorem belongsTo_format (v : VolumeId) : BelongsTo v.datastore v.format :=
  ⟨v.contentType ++ "/" ++ v.fileName, by simp [VolumeId.format, String.append_assoc]⟩

/-- The check does not let a file pass whose name is taken, if it must not overwrite. -/
theorem not_checked_of_held (hs : ActsAsStore h entries paths) (hl : Linked h entries s log t)
    (hoverwrite : spec.overwrite = false) {id : String} (hheld : Holds (entries s) id)
    (hid : BelongsTo spec.datastoreId id) (hnamed : VolumeId.isNamed (nameOrEmpty spec) id = true)
    (found : List VolumeId) : ¬ Checked spec found log := by
  rintro ⟨listing, hlisting, hfound⟩
  obtain ⟨x, hx, rfl⟩ := hheld
  have hlisted : x.volumeId ∈ identities listing := List.mem_map_of_mem ((hlisting.listsAll hs hl).2 x hx hid)
  rw [hoverwrite, Placement.collisions_false] at hfound
  cases hfind : (identities listing).find? (VolumeId.isNamed (nameOrEmpty spec)) with
  | some first =>
    rw [hfind] at hfound
    cases hfound
  | none => exact List.find?_eq_none.1 hfind x.volumeId hlisted hnamed

end

/-- The same desired state, but nothing may be overwritten. -/
def Spec.preserving (spec : Spec) : Spec := { spec with overwrite := false }

/-- Creating a file again: it changes nothing and fails, because the release has been dropped, or else on a file of
the name. -/
theorem create_again {h : Host Reconciling σ} {entries : σ → Set Listed} {paths : String → Option String}
    {tmpDir : String} {spec : Spec} {s t : σ} (hs : ActsAsStore h entries paths) (hdatastore : spec.datastoreId ≠ "")
    (hcolon : ':' ∉ spec.datastoreId.toList) {o : Outcome State} (ho : (create h tmpDir spec s).result = .ok o)
    (ht : (create h tmpDir spec s).host = t)
    (hanswered : ∀ e ∈ createLog h tmpDir spec.preserving t, ∀ call, e.call = .backend call → e.succeeded = true) :
    entries (create h tmpDir spec.preserving t).host = entries t ∧
      (ReleaseDropped h spec (h.setLimit spec.timeout s) (h.setLimit spec.timeout t) →
        (create h tmpDir spec.preserving t).result = .error (.undeterminedContentKind (nameOrEmpty spec))) ∧
      (¬ ReleaseDropped h spec (h.setLimit spec.timeout s) (h.setLimit spec.timeout t) →
        ∃ id, Holds (entries t) id ∧ VolumeId.isNamed (nameOrEmpty spec) id = true ∧
          (create h tmpDir spec.preserving t).result = .error (.alreadyExists id)) := by
  obtain ⟨p, kind, hplan, hkind, hheld⟩ := stored_of_created hs ho
  rw [ht] at hheld
  have hplan' : plan spec.preserving = .ok p := hplan
  have hname := nameOrEmpty_of_plan hplan
  have hcourse := create_checked h tmpDir spec.preserving t
  have hl := create_linked hs.act hs.setLimit tmpDir spec.preserving t
  have htaken : ∀ found, ¬ Checked spec.preserving found (createLog h tmpDir spec.preserving t) :=
    not_checked_of_held hs hl rfl hheld (belongsTo_format _) (isNamed_made hplan' kind hdatastore hcolon)
  generalize createLog h tmpDir spec.preserving t = log at *
  generalize (create h tmpDir spec.preserving t).result = result at *
  cases hcourse with
  | stopped hc => exact (htaken _ hc).elim
  | created hc hw => exact (htaken _ hc).elim
  | refused hr =>
    refine ⟨hs.eq_of_quietLog hl hr.quiet, ?_⟩
    cases hr with
    | unfit hunfit => cases hplan'.symm.trans hunfit
    | @unclassified p' f log hp' hnone hcalls =>
      obtain rfl : p = p' := Except.ok.inj (hplan'.symm.trans hp')
      rw [← hname] at hkind hnone
      obtain ⟨rfl, hdropped⟩ := releaseDropped_of_unclassified hkind hnone
      exact ⟨fun _ => rfl, fun hkept => absurd hdropped hkept⟩
    | unanswered hfailed hcalls hnone =>
      obtain ⟨e, he, hfailed⟩ := hfailed
      obtain ⟨call, -, hcall⟩ := List.mem_map.1 (hcalls.subset (List.mem_map_of_mem he))
      rw [hanswered e he call hcall.symm] at hfailed
      cases hfailed
    | @collided p' kind' f listing log hp' hkind' hlisting hcollision hcalls =>
      obtain rfl : p = p' := Except.ok.inj (hplan'.symm.trans hp')
      constructor
      · rintro ⟨hstated, hi, before, after, -, hafter, -, hold⟩
        rw [hname] at hi
        exact absurd hkind' (not_classifies_of_tooOld hstated hi hafter hold)
      · intro _
        change Placement.collisions false (nameOrEmpty spec) listing = _ at hcollision
        rw [Placement.collisions_false] at hcollision
        cases hfind : (identities listing).find? (VolumeId.isNamed (nameOrEmpty spec)) with
        | none =>
          rw [hfind] at hcollision
          cases hcollision
        | some id =>
          rw [hfind] at hcollision
          obtain ⟨x, hx, rfl⟩ := List.mem_map.1 (List.mem_of_find?_eq_some hfind)
          have hx : x ∈ entries t := (hlisting.listsAll hs hl).1 x hx
          obtain rfl := Except.error.inj hcollision
          exact ⟨x.volumeId, ⟨x, hx, rfl⟩, List.find?_some hfind, rfl⟩

/-- **A name that is taken.** Looking a listing through without overwriting fails on the first identity that can be
read and has the name, as it is written, and finds nothing otherwise; with overwriting it finds all of them in their
order. Where a file must not overwrite and its name is taken in the first listing, creating it fails on the first
file of the name, with nothing asked for but the release and the listing. A file that is created is warned about
with all that the check has found in the first listing, and then with its datastore at most. On a host that behaves
as a store, to create a file again without overwriting, and with no call that fails, changes nothing and fails: on a
file of the name, unless it is a disk image without a stated kind and the host has told a release that can import the
first time and one that cannot the second time; then the name suggests no kind. -/
theorem collision_guard (h : Host Reconciling σ) (tmpDir : String) :
    (∀ node datastore fileName s (listing : List Listed) t,
      h.answerInTime (Call.backend (.listFiles node datastore)) s = (some (.ok listing), t) →
        (Placement.checkCollision node datastore fileName false).runInTime h s =
          (some (match (identities listing).find? (VolumeId.isNamed fileName) with
            | some id => .error (.alreadyExists id)
            | none => .ok []), t) ∧
        ∃ found, (Placement.checkCollision node datastore fileName true).runInTime h s = (some (.ok found), t) ∧
          found.map VolumeId.format = (identities listing).filter (VolumeId.isNamed fileName)) ∧
    (∀ spec s listing id, spec.overwrite = false →
      (createLog h tmpDir spec s).findSome? Entry.listing? = some listing →
      (identities listing).find? (VolumeId.isNamed (nameOrEmpty spec)) = some id →
        (create h tmpDir spec s).result = .error (.alreadyExists id) ∧
          (createLog h tmpDir spec s).map Entry.call = (looks spec).map Call.backend) ∧
    (∀ spec s o, (create h tmpDir spec s).result = .ok o →
      ∃ (listing : List Listed) (found : List VolumeId) (kind : ContentKind) (extra : List String),
      (createLog h tmpDir spec s).findSome? Entry.listing? = some listing ∧
      found.map VolumeId.format =
        (if spec.overwrite then (identities listing).filter (VolumeId.isNamed (nameOrEmpty spec)) else []) ∧
      o.warnings = found.map Placement.overwriteWarning ++ extra ∧
      (extra = [] ∨ ∃ supported, extra = [Placement.unsupportedWarning spec.datastoreId kind supported])) ∧
    ∀ entries paths, ActsAsStore h entries paths → ∀ spec s o t, spec.datastoreId ≠ "" →
      ':' ∉ spec.datastoreId.toList → (create h tmpDir spec s).result = .ok o → (create h tmpDir spec s).host = t →
      (∀ e ∈ createLog h tmpDir spec.preserving t, ∀ call, e.call = .backend call → e.succeeded = true) →
        entries (create h tmpDir spec.preserving t).host = entries t ∧
        (ReleaseDropped h spec (h.setLimit spec.timeout s) (h.setLimit spec.timeout t) →
          (create h tmpDir spec.preserving t).result = .error (.undeterminedContentKind (nameOrEmpty spec))) ∧
        (¬ ReleaseDropped h spec (h.setLimit spec.timeout s) (h.setLimit spec.timeout t) →
          ∃ id, Holds (entries t) id ∧ VolumeId.isNamed (nameOrEmpty spec) id = true ∧
            (create h tmpDir spec.preserving t).result = .error (.alreadyExists id)) := by
  refine ⟨?_, ?_, ?_, ?_⟩
  · intro node datastore fileName s listing t ht
    refine ⟨?_, Placement.namesakes fileName listing, ?_, Placement.format_namesakes fileName listing⟩
    · have hrun := Placement.runInTime_checkCollision fileName listing h node datastore false ht
      rw [Placement.collisions_false] at hrun
      exact hrun
    · rw [Placement.runInTime_checkCollision fileName listing h node datastore true ht, Placement.collisions_true]
  · intro spec s listing id hoverwrite hlisting hid
    exact create_refused hoverwrite hlisting hid
  · intro spec s o ho
    obtain ⟨listing, found, hlisting, hfound, kind, extra, hwarnings, hextra⟩ := warnings_of_created ho
    refine ⟨listing, found, kind, extra, hlisting, hfound, hwarnings, ?_⟩
    rcases hextra with hextra | ⟨supported, -, hextra⟩
    · exact Or.inl hextra
    · exact Or.inr ⟨supported, hextra⟩
  · intro entries paths hs spec s o t hdatastore hcolon ho ht hanswered
    exact create_again hs hdatastore hcolon ho ht hanswered

/-- A text is created, and its name is taken then: with overwriting it is found and warned about, and without, creating
fails the second time and leaves the shelf as it is. -/
theorem collision_guard_snippet :
    ∃ t, (create (Shelf.host "local" (.ok ())) "tmp" Shelf.snippet .empty).host = t ∧
      (∃ found, (Placement.checkCollision "node" "local" "notes.yaml" true).runInTime (Shelf.host "local" (.ok ())) t =
          (some (.ok found), t) ∧ found.map VolumeId.format = ["local:snippets/notes.yaml"]) ∧
      (∃ (o : Outcome State) (found : List VolumeId) (extra : List String),
        (create (Shelf.host "local" (.ok ())) "tmp" Shelf.snippet t).result = .ok o ∧
        found.map VolumeId.format = ["local:snippets/notes.yaml"] ∧
        o.warnings = found.map Placement.overwriteWarning ++ extra) ∧
      (create (Shelf.host "local" (.ok ())) "tmp" Shelf.snippet.preserving t).result =
        .error (.alreadyExists "local:snippets/notes.yaml") ∧
      (createLog (Shelf.host "local" (.ok ())) "tmp" Shelf.snippet.preserving t).map Entry.call =
        [.backend .release, .backend (.listFiles "node" "local")] ∧
      {x | x ∈ (create (Shelf.host "local" (.ok ())) "tmp" Shelf.snippet.preserving t).host.entries} =
        {x | x ∈ t.entries} := by
  obtain ⟨hcheck, hrefused, hwarnings, hagain⟩ := collision_guard (Shelf.host "local" (.ok ())) "tmp"
  obtain ⟨t, ht⟩ : ∃ t, (create (Shelf.host "local" (.ok ())) "tmp" Shelf.snippet .empty).host = t := ⟨_, rfl⟩
  obtain ⟨o, ho⟩ : ∃ o, (create (Shelf.host "local" (.ok ())) "tmp" Shelf.snippet .empty).result = .ok o := ⟨_, rfl⟩
  obtain ⟨o', ho'⟩ : ∃ o, (create (Shelf.host "local" (.ok ())) "tmp" Shelf.snippet t).result = .ok o := ht ▸ ⟨_, rfl⟩
  have hnamed : (identities [⟨"local:snippets/notes.yaml", "snippets"⟩]).filter (VolumeId.isNamed "notes.yaml") =
      ["local:snippets/notes.yaml"] := by decide
  have hlisting : (createLog (Shelf.host "local" (.ok ())) "tmp" Shelf.snippet t).findSome? Entry.listing? =
      some [⟨"local:snippets/notes.yaml", "snippets"⟩] := ht ▸ rfl
  have hall : (createLog (Shelf.host "local" (.ok ())) "tmp" Shelf.snippet.preserving t).all Entry.succeeded = true :=
    ht ▸ rfl
  refine ⟨t, ht, ?_, ?_, ?_⟩
  · obtain ⟨-, found, hrun, hfound⟩ := hcheck "node" "local" "notes.yaml" t
      [⟨"local:snippets/notes.yaml", "snippets"⟩] t (ht ▸ rfl)
    exact ⟨found, hrun, hfound.trans hnamed⟩
  · obtain ⟨listing, found, -, extra, hlisting', hfound, ho, -⟩ := hwarnings Shelf.snippet t o' ho'
    obtain rfl := Option.some.inj (hlisting.symm.trans hlisting')
    exact ⟨o', found, extra, ho', hfound.trans hnamed, ho⟩
  · have hfirst := hrefused Shelf.snippet.preserving t [⟨"local:snippets/notes.yaml", "snippets"⟩]
      "local:snippets/notes.yaml" rfl (ht ▸ rfl) (by decide)
    have hstore := hagain _ _ (Shelf.actsAsStore "local") Shelf.snippet .empty o t (by decide) (by decide) ho ht
      fun e he call _ => List.all_eq_true.1 hall e he
    exact ⟨hfirst.1, hfirst.2, hstore.1⟩

/-! ## A release that is dropped -/

/-- What a host tells of its release does not matter to what it stores. -/
theorem ActsAsStore.telling {h : Host Reconciling σ} {entries : σ → Set Listed} {paths : String → Option String}
    (hs : ActsAsStore h entries paths) (told : σ → Except Fault Release) :
    ActsAsStore (h.telling told) entries paths where
  conforms e hg := by
    obtain ⟨c, reply, before, after⟩ := e
    by_cases hc : c = .backend .release
    · subst hc
      have hkeep : entries after = entries before := by
        rcases hg with hg | hg
        · have hafter : after = (h.answerInTime (Call.backend .release) before).2 := congrArg Entry.after hg
          rw [hafter]
          exact (hs.conforms _ (Entry.genuine_askedInTime h (Call.backend .release) before)).eq_of_quiet ⟨rfl, rfl⟩
        · have hafter : after = (h.answer (Call.backend .release) before).2 := congrArg Entry.after hg
          rw [hafter]
          exact (hs.conforms _ (Entry.genuine_asked h (Call.backend .release) before)).eq_of_quiet ⟨rfl, rfl⟩
      exact hkeep
    · refine hs.conforms ⟨c, reply, before, after⟩ ?_
      unfold Entry.Genuine Entry.asked Entry.askedInTime at hg ⊢
      rwa [telling_answer hc, telling_answerInTime hc] at hg
  distinct := hs.distinct
  act := hs.act
  setLimit := hs.setLimit

/-- A shelf that tells an older release once there is something on it. -/
def Shelf.dropping : Host Reconciling Shelf :=
  (Shelf.host "local" (.ok ())).telling fun s => if s.entries.isEmpty then .ok ⟨8, 4, 1⟩ else .ok ⟨8, 3, 2⟩

/-- The second time a disk image has no kind where the release has been dropped: creating it fails, but not on the
file of its name. -/
theorem collision_guard_dropped :
    ActsAsStore Shelf.dropping (fun s => {x | x ∈ s.entries}) (Shelf.paths "local") ∧
      ∃ o t, (create Shelf.dropping "tmp" Shelf.disk .empty).result = .ok o ∧
        (create Shelf.dropping "tmp" Shelf.disk .empty).host = t ∧
        (∀ e ∈ createLog Shelf.dropping "tmp" Shelf.disk.preserving t, ∀ call, e.call = .backend call →
          e.succeeded = true) ∧
        (create Shelf.dropping "tmp" Shelf.disk.preserving t).result = .error (.undeterminedContentKind "disk.raw") ∧
        ¬ ∃ id, (create Shelf.dropping "tmp" Shelf.disk.preserving t).result = .error (.alreadyExists id) := by
  have hall : (createLog Shelf.dropping "tmp" Shelf.disk.preserving
      (create Shelf.dropping "tmp" Shelf.disk .empty).host).all Entry.succeeded = true := rfl
  have hundetermined : (create Shelf.dropping "tmp" Shelf.disk.preserving
      (create Shelf.dropping "tmp" Shelf.disk .empty).host).result = .error (.undeterminedContentKind "disk.raw") := rfl
  refine ⟨(Shelf.actsAsStore "local").telling _, _, _, rfl, rfl, ?_, hundetermined, ?_⟩
  · exact fun e he _ _ => List.all_eq_true.1 hall e he
  · rintro ⟨id, hid⟩
    rw [hundetermined] at hid
    cases hid

end FilePlacement
