import FilePlacement.Proofs.CollisionGuard

/-!
# What is said to be overwritten

A file that may overwrite is created where files of its name are listed, and all of these are said to be overwritten:
there is a warning and an event for each, in the order of the listing (`said_of_created`). What its upload replaces
is one identity, and every other entry stays as it is (`UploadsThenLooks.eq_put`).

The two agree on the file of the same kind and datastore (`format_eq_iff_of_namesake`), which is said to be
overwritten just if it has been listed (`mem_namesakes_iff_listed`). Any other file of the name is said to be
overwritten as well, and is stored as before (`kept_of_namesake`): a backup that shares its name with a snippet is
recorded as overwritten by it and has not been touched.
-/

namespace FilePlacement

open Reconciler Entries

variable {σ : Type} {h : Host Reconciling σ} {entries : σ → Set Listed} {paths : String → Option String}
  {tmpDir : String} {spec : Spec} {s : σ} {o : Outcome State} {listing : List Listed} {v w : VolumeId}

/-! ## What an upload replaces -/

/-- A file that is there has been uploaded, and nothing behind its upload has changed anything. -/
theorem uploads_of_created (ho : (create h tmpDir spec s).result = .ok o) :
    ∃ v, v.format = o.value.id ∧ UploadsThenLooks spec v (createLog h tmpDir spec s) := by
  obtain ⟨undo, hlog, hcourse⟩ := create_course h tmpDir spec s
  rw [ho] at hcourse
  rw [hlog]
  generalize attemptLog h tmpDir spec s = log at hcourse ⊢
  cases hcourse with
  | @created o v log back hid hu hback => exact ⟨v, hid.symm, log, back, List.append_nil _, hu, hback⟩

namespace UploadsThenLooks

variable {log : List (Entry Reconciling σ)}

theorem isTarget (hu : UploadsThenLooks spec v log) : IsTarget spec v := by
  obtain ⟨first, back, rfl, hu, -⟩ := hu
  exact hu.isTarget

/-- All that such a log puts into a store is its upload. -/
theorem eq_put (hs : ActsAsStore h entries paths) (hu : UploadsThenLooks spec v log) {t : σ}
    (hl : Linked h entries s log t) : entries t = put (entries s) v := by
  obtain ⟨first, back, rfl, hu, hback⟩ := hu
  obtain ⟨m, hfirst, hrest⟩ := linked_append.1 hl
  rw [hs.eq_of_quietLog hrest hback, hs.eq_of_uploads hfirst hu]
  rfl

end UploadsThenLooks

/-! ## What is said -/

/-- All listed files of the name are said to be overwritten, by the warnings and by the events. -/
theorem said_of_created (hoverwrite : spec.overwrite = true) (ho : (create h tmpDir spec s).result = .ok o) :
    ∃ listing, ListedFirst spec listing (createLog h tmpDir spec s) ∧
      Warned spec (Placement.namesakes (nameOrEmpty spec) listing) o.warnings ∧
      ∃ way, (create h tmpDir spec s).events =
        (Placement.namesakes (nameOrEmpty spec) listing).map (fun w => .overwritten spec.nodeName w.format) ++
          [.uploaded spec.nodeName o.value.id way] := by
  obtain ⟨found, ⟨listing, hlisting, hfound⟩, hwarned⟩ := checked_of_created ho
  rw [hoverwrite, Placement.collisions_true] at hfound
  obtain rfl := Except.ok.inj hfound
  refine ⟨listing, hlisting, hwarned, ?_⟩
  obtain ⟨hevents, htells⟩ := create_events h tmpDir spec s
  rw [hevents, overwrites, firstListing, hlisting.findSome?_eq, ho]
  rw [ho] at htells
  generalize completed spec.datastoreId (createLog h tmpDir spec s) = volumes at htells ⊢
  generalize told spec.datastoreId (createLog h tmpDir spec s) = events at htells ⊢
  cases htells with
  | @created o v way hid => exact ⟨way, by rw [hid]; exact List.append_nil _⟩

/-- A file of the name has been listed under the identity that it is said by. -/
theorem listed_of_namesake {fileName : String} (hw : w ∈ Placement.namesakes fileName listing) :
    w.fileName = fileName ∧ w.Readable ∧ ∃ x ∈ listing, x.volumeId = w.format := by
  obtain ⟨hname, x, hx, hparse⟩ := (Placement.mem_namesakes fileName listing).1 hw
  obtain ⟨hformat, hreadable⟩ := VolumeId.parse_eq_ok_iff.1 hparse
  exact ⟨hname, hreadable, x, hx, hformat.symm⟩

section
variable (hdatastore : spec.datastoreId ≠ "") (hcolon : ':' ∉ spec.datastoreId.toList) (hv : IsTarget spec v)
include hdatastore hcolon hv

/-- What is uploaded is said to be overwritten just if it has been listed. -/
theorem mem_namesakes_iff_listed :
    v ∈ Placement.namesakes (nameOrEmpty spec) listing ↔ v.format ∈ identities listing := by
  have hparse := VolumeId.parse_format_iff.2 (hv.readable hdatastore hcolon)
  obtain ⟨-, p, kind, hplan, hname, -⟩ := hv
  rw [Placement.mem_namesakes, nameOrEmpty_of_plan hplan, identities, List.mem_map]
  constructor
  · rintro ⟨-, x, hx, hx'⟩
    exact ⟨x, hx, (VolumeId.parse_eq_ok_iff.1 hx').1.symm⟩
  · rintro ⟨x, hx, hx'⟩
    exact ⟨hname, x, hx, hx' ▸ hparse⟩

/-- A file of the name is the uploaded one just if it has its datastore and its kind. -/
theorem format_eq_iff_of_namesake (hw : w ∈ Placement.namesakes (nameOrEmpty spec) listing) :
    w.format = v.format ↔ w.datastore = spec.datastoreId ∧ w.contentType = v.contentType := by
  obtain ⟨hname, hreadable, -⟩ := listed_of_namesake hw
  have hreadable' := hv.readable hdatastore hcolon
  obtain ⟨hv, p, kind, hplan, hname', -⟩ := hv
  rw [nameOrEmpty_of_plan hplan, ← hname'] at hname
  constructor
  · intro hformat
    obtain rfl := VolumeId.eq_of_format_eq hformat hreadable.colon_not_mem hreadable'.colon_not_mem
      hreadable.slash_not_mem hreadable'.slash_not_mem
    exact ⟨hv, rfl⟩
  · rintro ⟨hd, hk⟩
    rw [VolumeId.format, VolumeId.format, hd, hk, hname, hv]

end

/-- A file that is said to be overwritten and is not the uploaded one was in the store, and stays in it as it was. -/
theorem kept_of_namesake (hs : ActsAsStore h entries paths)
    (hlisting : ListedFirst spec listing (createLog h tmpDir spec s))
    (hu : UploadsThenLooks spec v (createLog h tmpDir spec s)) {fileName : String}
    (hw : w ∈ Placement.namesakes fileName listing) (hne : w.format ≠ v.format) :
    Holds (entries s) w.format ∧
      ∀ x, x.volumeId = w.format → (x ∈ entries (create h tmpDir spec s).host ↔ x ∈ entries s) := by
  obtain ⟨-, -, x, hx, hid⟩ := listed_of_namesake hw
  have hl := create_linked hs.act hs.setLimit tmpDir spec s
  refine ⟨⟨x, (hlisting.listsAll hs hl).1 x hx, hid⟩, fun y hy => ?_⟩
  rw [hu.eq_put hs hl]
  exact mem_put_of_ne (hy ▸ hne)

/-- **What is said to be overwritten.** Where a file that may overwrite has been created, those that are said to be
overwritten, by the warnings and by the events, are all files of the first listing that can be read and have its
name; and it is uploaded under the identity of the record, and nothing else is. If the datastore has a name that can
be told apart in an identity, the upload has been said to overwrite its own identity just if that was listed; and of
the files that are said to be overwritten, it has replaced just those of its own datastore and kind. A host that
behaves as a store has every other one of them as before. -/
theorem overwriting_said (h : Host Reconciling σ) (tmpDir : String) (spec : Spec) (s : σ) (o : Outcome State)
    (hoverwrite : spec.overwrite = true) (ho : (create h tmpDir spec s).result = .ok o) :
    ∃ (listing : List Listed) (found : List VolumeId) (v : VolumeId),
      (createLog h tmpDir spec s).findSome? Entry.listing? = some listing ∧
      completed spec.datastoreId (createLog h tmpDir spec s) = [v] ∧ v.format = o.value.id ∧
      found.map VolumeId.format = (identities listing).filter (VolumeId.isNamed (nameOrEmpty spec)) ∧
      (∃ kind extra, o.warnings = found.map Placement.overwriteWarning ++ extra ∧
        UploadWarnings spec.datastoreId kind extra) ∧
      (∃ way, (create h tmpDir spec s).events =
        found.map (fun w => .overwritten spec.nodeName w.format) ++ [.uploaded spec.nodeName o.value.id way]) ∧
      (spec.datastoreId ≠ "" → ':' ∉ spec.datastoreId.toList →
        (v ∈ found ↔ o.value.id ∈ identities listing) ∧
        ∀ w ∈ found, w.format = o.value.id ↔ w.datastore = spec.datastoreId ∧ w.contentType = v.contentType) ∧
      ∀ entries paths, ActsAsStore h entries paths → ∀ w ∈ found, w.format ≠ o.value.id →
        Holds (entries s) w.format ∧
        ∀ x, x.volumeId = w.format → (x ∈ entries (create h tmpDir spec s).host ↔ x ∈ entries s) := by
  obtain ⟨listing, hlisting, hwarned, hevents⟩ := said_of_created hoverwrite ho
  obtain ⟨v, hid, hu⟩ := uploads_of_created ho
  rw [← hid] at hevents ⊢
  refine ⟨listing, Placement.namesakes (nameOrEmpty spec) listing, v, hlisting.findSome?_eq, hu.completed_eq, rfl,
    Placement.format_namesakes _ _, hwarned, hevents, ?_, ?_⟩
  · intro hdatastore hcolon
    exact ⟨mem_namesakes_iff_listed hdatastore hcolon hu.isTarget, fun w hw =>
      format_eq_iff_of_namesake hdatastore hcolon hu.isTarget hw⟩
  · intro entries paths hs w hw hne
    exact kept_of_namesake hs hlisting hu hw hne

/-- A text is created twice. The second time it is said to be overwritten, and it is what has been uploaded. -/
theorem overwriting_said_again :
    ∃ t o v, (create (Shelf.host "local" (.ok ())) "tmp" Shelf.snippet .empty).host = t ∧
      (create (Shelf.host "local" (.ok ())) "tmp" Shelf.snippet t).result = .ok o ∧
      completed "local" (createLog (Shelf.host "local" (.ok ())) "tmp" Shelf.snippet t) = [v] ∧
      Placement.overwriteWarning v ∈ o.warnings ∧
      .overwritten "node" v.format ∈ (create (Shelf.host "local" (.ok ())) "tmp" Shelf.snippet t).events := by
  obtain ⟨o, ho⟩ : ∃ o, (create (Shelf.host "local" (.ok ())) "tmp" Shelf.snippet
      (create (Shelf.host "local" (.ok ())) "tmp" Shelf.snippet .empty).host).result = .ok o := ⟨_, rfl⟩
  obtain ⟨listing, found, v, hlisting, hcompleted, hid, hfound, ⟨kind, extra, hwarnings, hextra⟩, ⟨way, hevents⟩, hown,
    hkept⟩ := overwriting_said (Shelf.host "local" (.ok ())) "tmp" Shelf.snippet _ o rfl ho
  have hlisted : o.value.id ∈ identities listing := by
    obtain rfl := Option.some.inj hlisting
    obtain rfl := Except.ok.inj ho
    exact List.mem_singleton.2 rfl
  have hv := (hown (by decide) (by decide)).1.2 hlisted
  refine ⟨_, o, v, rfl, ho, hcompleted, ?_, ?_⟩
  · rw [hwarnings]
    exact List.mem_append_left extra (List.mem_map_of_mem hv)
  · rw [hevents]
    exact List.mem_append_left _ (List.mem_map.2 ⟨v, hv, rfl⟩)

/-- A backup of the same name as the snippet. -/
def Shelf.savedCopy : Spec := { Shelf.snippet with contentType := some "backup" }

/-- A backup is created, and then a snippet of its name. The backup is said to be overwritten, by a warning and by an
event; but nothing has been uploaded beside the snippet, and the backup is still there as it was. -/
theorem backup_said_overwritten :
    ∃ t o, (create (Shelf.host "local" (.ok ())) "tmp" Shelf.savedCopy .empty).host = t ∧
      (create (Shelf.host "local" (.ok ())) "tmp" Shelf.snippet t).result = .ok o ∧
      completed "local" (createLog (Shelf.host "local" (.ok ())) "tmp" Shelf.snippet t) =
        [⟨"local", "snippets", "notes.yaml"⟩] ∧
      Placement.overwriteWarning ⟨"local", "backup", "notes.yaml"⟩ ∈ o.warnings ∧
      .overwritten "node" "local:backup/notes.yaml" ∈
        (create (Shelf.host "local" (.ok ())) "tmp" Shelf.snippet t).events ∧
      "local:backup/notes.yaml" ≠ o.value.id ∧
      ⟨"local:backup/notes.yaml", "backup"⟩ ∈ t.entries ∧
      ⟨"local:backup/notes.yaml", "backup"⟩ ∈
        (create (Shelf.host "local" (.ok ())) "tmp" Shelf.snippet t).host.entries := by
  refine ⟨_, _, rfl, rfl, rfl, List.mem_cons_self, List.mem_cons_self, ?_, List.mem_cons_self, ?_⟩
  · change "local:backup/notes.yaml" ≠ "local:snippets/notes.yaml"
    decide
  · exact List.mem_cons_of_mem _ List.mem_cons_self

end FilePlacement
