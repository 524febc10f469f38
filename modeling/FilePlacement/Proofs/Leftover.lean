import FilePlacement.Proofs.Course
import FilePlacement.Proofs.Shelf
import Mathlib.Data.Set.Insert

/-!
# What a failed creation leaves behind

An upload that has succeeded is taken back when creating fails. One that has stored its file and
fails all the same, or is cut off, is not: nobody asks for its deletion. A volume that was not there
is left behind in this case and in no other (`leftover_iff`), so that a failed creation can leave
something behind (`leftover_possible`).
-/

namespace FilePlacement

open Reconciler

variable {σ : Type}

/-- A host keeps volumes under their identities: an upload can change what is stored under its own
identity only, whatever it is answered, a deletion takes away what it names, and nothing else changes
anything. A streamed upload belongs to the datastore `streamed`. -/
structure KeepsVolumes (h : Host Reconciling σ) (streamed : String) (stored : σ → Set String) : Prop where
  quiet : ∀ e : Entry Reconciling σ, e.Genuine h → e.call.Quiet → stored e.after = stored e.before
  upload : ∀ (e : Entry Reconciling σ) (v : VolumeId), e.Genuine h → e.call.volume? streamed = some v →
    ∀ id, id ≠ v.format → (id ∈ stored e.after ↔ id ∈ stored e.before)
  deletion : ∀ node datastore id s,
    stored (h.answer (Call.backend (.deleteFile node datastore id)) s).2 = stored s \ {id}
  act : ∀ d s, stored (h.act d s) = stored s
  setLimit : ∀ l s, stored (h.setLimit l s) = stored s

section
variable {h : Host Reconciling σ} {stored : σ → Set String} {spec : Spec} {v : VolumeId} {success : Bool} {s t : σ}
  {log : List (Entry Reconciling σ)} {id : String}

theorem KeepsVolumes.quietLog (hk : KeepsVolumes h spec.datastoreId stored) (hl : Linked h stored s log t)
    (hq : QuietLog log) : stored t = stored s := hl.keeps fun e he hg => hk.quiet e hg (hq e he)

/-- What an upload at the end of a log stores, its only one. -/
theorem KeepsVolumes.uploads (hk : KeepsVolumes h spec.datastoreId stored) (hl : Linked h stored s log t)
    (hu : Uploads spec v success log) :
    (∀ e ∈ log, ∀ w, e.call.volume? spec.datastoreId = some w → stored t = stored e.after) ∧
      ∀ id, id ≠ v.format → (id ∈ stored t ↔ id ∈ stored s) := by
  obtain ⟨pre, e, rfl, hpre, -, hv, -⟩ := hu
  obtain ⟨m, hfirst, hbefore, hg, hafter⟩ := linked_append.1 hl
  refine ⟨fun e' he' w hw => ?_, fun id hid => ?_⟩
  · rcases List.mem_append.1 he' with he' | he'
    · exact absurd hw (hpre.volume?_ne he')
    · rw [List.mem_singleton.1 he']
      exact hafter.symm
  · rw [← hk.quietLog hfirst hpre, hbefore, ← hk.upload e v hg hv id hid]
    exact Eq.to_iff (congrArg (id ∈ ·) hafter.symm)

end

/-- Creating fails and leaves a volume behind that was not there: just if an upload of it, of a volume
that the desired state stands for, has stored it and has not succeeded. -/
theorem leftover_iff {h : Host Reconciling σ} {spec : Spec} {stored : σ → Set String}
    (hk : KeepsVolumes h spec.datastoreId stored) {tmpDir : String} {s : σ} {f : Fault}
    (hf : (create h tmpDir spec s).result = .error f) {id : String} (hid : id ∉ stored s) :
    id ∈ stored (create h tmpDir spec s).host ↔
      ∃ e ∈ createLog h tmpDir spec s, ∃ v, e.call.volume? spec.datastoreId = some v ∧ IsTarget spec v ∧
        v.format = id ∧ e.succeeded = false ∧ id ∈ stored e.after := by
  have hl := create_linked hk.act hk.setLimit tmpDir spec s
  obtain ⟨undo, hlog, hcourse⟩ := create_course h tmpDir spec s
  rw [hf] at hcourse
  rw [hlog] at hl ⊢
  generalize attemptLog h tmpDir spec s = log at *
  cases hcourse with
  | unplaced hn =>
    rw [List.append_nil] at hl ⊢
    rcases hn with hq | ⟨v, hu⟩
    · rw [hk.quietLog hl hq]
      refine iff_of_false hid ?_
      rintro ⟨e, he, v, hv, -⟩
      exact hq.volume?_ne he hv
    · obtain ⟨hafter, hother⟩ := hk.uploads hl hu
      constructor
      · intro hin
        obtain ⟨e, he, hv, hs, -⟩ := hu.unique
        have hv' : v.format = id := by
          by_contra hne
          exact hid ((hother id (Ne.symm hne)).1 hin)
        exact ⟨e, he, v, hv, hu.isTarget, hv', hs, hafter e he v hv ▸ hin⟩
      · rintro ⟨e, he, w, hw, -, -, -, hin⟩
        rw [hafter e he w hw]
        exact hin
  | @undone _ v log back m hu hback =>
    -- The deletion takes the volume away, and no upload but the successful one is in the log.
    refine iff_of_false ?_ ?_
    · obtain ⟨m', hfirst, hm, hg, hlast⟩ := linked_append.1 hl
      obtain ⟨u, hlog, hreading⟩ := linked_append.1 hfirst
      have hfinal : stored (create h tmpDir spec s).host = stored m \ {v.format} :=
        hlast.symm.trans (hk.deletion spec.nodeName spec.datastoreId v.format m)
      rw [hfinal]
      rintro ⟨hin, hne⟩
      refine hid (((hk.uploads hlog hu).2 id hne).1 ?_)
      rw [← hk.quietLog hreading hback, hm]
      exact hin
    · rintro ⟨e, he, w, hw, -, -, hs, -⟩
      rcases List.mem_append.1 he with he | he
      · rcases List.mem_append.1 he with he | he
        · obtain ⟨e', -, -, hs', honly⟩ := hu.unique
          rw [honly e he w hw, hs'] at hs
          cases hs
        · exact hback.volume?_ne he hw
      · rw [List.mem_singleton.1 he] at hw
        cases hw

/-! ## On a shelf -/

namespace Shelf

/-- The identities on a shelf. -/
def ids (s : Shelf) : Set String := {id | ∃ x ∈ s.entries, x.volumeId = id}

theorem mem_ids_put {s : Shelf} {e : Listed} {id : String} (hid : id ≠ e.volumeId) :
    id ∈ (s.put e).ids ↔ id ∈ s.ids := by
  constructor
  · rintro ⟨x, hx, rfl⟩
    rcases List.mem_cons.1 hx with rfl | hx
    · exact absurd rfl hid
    · exact ⟨x, (List.mem_filter.1 hx).1, rfl⟩
  · rintro ⟨x, hx, rfl⟩
    exact ⟨x, List.mem_cons_of_mem e (List.mem_filter.2 ⟨hx, by simpa using hid⟩), rfl⟩

theorem ids_remove (s : Shelf) (id : String) : (s.remove id).ids = s.ids \ {id} := by
  ext x
  constructor
  · rintro ⟨e, he, rfl⟩
    obtain ⟨he, hne⟩ := List.mem_filter.1 he
    exact ⟨⟨e, he, rfl⟩, by simpa using hne⟩
  · rintro ⟨⟨e, he, rfl⟩, hne⟩
    exact ⟨e, List.mem_filter.2 ⟨he, by simpa using hne⟩, rfl⟩

theorem not_mem_ids {s : Shelf} {id : String} (hn : s.holds id = false) : id ∉ s.ids := by
  rintro ⟨x, hx, rfl⟩
  have := List.any_eq_false.1 hn x hx
  simp at this

theorem keepsVolumes (datastore : String) (verdict : Except Fault Unit) :
    KeepsVolumes (host datastore verdict) datastore ids where
  quiet e hg hq := by
    cases hc : e.call with
    | here call => exact congrArg (fun l => {id | ∃ x ∈ l, x.volumeId = id}) (entries_of_genuine hg hc)
    | backend call =>
      rw [after_of_genuine hg hc]
      rw [hc] at hq
      cases call with
      | apiUpload => cases hq.1
      | streamUpload => cases hq.1
      | deleteFile => cases hq.2
      | _ => rfl
  upload e v hg hv id hid := by
    unfold Call.volume? at hv
    split at hv
    · rename_i heq
      cases hv
      rw [after_of_genuine hg heq]
      exact mem_ids_put hid
    · rename_i heq
      cases hv
      rw [after_of_genuine hg heq]
      exact mem_ids_put hid
    · cases hv
  deletion _ _ id s := (congrArg ids (s.delete_snd id)).trans (s.ids_remove id)
  act d s := rfl
  setLimit l s := rfl

end Shelf

/-- A client program that has stored the file and ends unsuccessfully. -/
def clientFailure : Fault := .uploadFailed (.client "node" "chmod: not permitted")

theorem leftover_iff_snippet :
    (create (Shelf.host "local" (.error clientFailure)) "tmp" Shelf.snippet .empty).result = .error clientFailure ∧
      "local:snippets/notes.yaml" ∉ Shelf.empty.ids ∧
      ∃ e ∈ createLog (Shelf.host "local" (.error clientFailure)) "tmp" Shelf.snippet .empty, ∃ v,
        e.call.volume? Shelf.snippet.datastoreId = some v ∧ IsTarget Shelf.snippet v ∧
          v.format = "local:snippets/notes.yaml" ∧ e.succeeded = false ∧
          "local:snippets/notes.yaml" ∈ e.after.ids := by
  have hnew : "local:snippets/notes.yaml" ∉ Shelf.empty.ids := Shelf.not_mem_ids rfl
  exact ⟨rfl, hnew, (leftover_iff (Shelf.keepsVolumes "local" (.error clientFailure)) rfl hnew).1
    ⟨⟨"local:snippets/notes.yaml", "snippets"⟩, List.mem_singleton.2 rfl, rfl⟩⟩

/-- It is not so that a failed creation leaves nothing behind wherever deletions are honoured. -/
theorem leftover_possible :
    ¬ ∀ (σ : Type) (h : Host Reconciling σ) (stored : σ → Set String) (tmpDir : String) (spec : Spec) (s : σ)
      (v : VolumeId), KeepsVolumes h spec.datastoreId stored → IsTarget spec v → v.format ∉ stored s →
      (∃ f, (create h tmpDir spec s).result = .error f) → v.format ∉ stored (create h tmpDir spec s).host := by
  intro hall
  refine hall Shelf (Shelf.host "local" (.error clientFailure)) Shelf.ids "tmp" Shelf.snippet .empty
    ⟨"local", "snippets", "notes.yaml"⟩ (Shelf.keepsVolumes "local" (.error clientFailure))
    ⟨rfl, ⟨.raw ⟨"text", "notes.yaml", 0⟩, some ⟨0o600, by decide⟩, "notes.yaml"⟩, .snippets, ?_, rfl, ⟨false, rfl⟩,
      rfl⟩
    (Shelf.not_mem_ids rfl) ⟨clientFailure, rfl⟩ ?_
  · rfl
  · exact ⟨⟨"local:snippets/notes.yaml", "snippets"⟩, List.mem_singleton.2 rfl, rfl⟩

end FilePlacement
