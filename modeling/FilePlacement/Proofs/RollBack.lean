import FilePlacement.Proofs.Course

/-!
# Rolling back

What an attempt to create a file has uploaded is deleted again if the attempt does not succeed.
Whatever a host answers, and wherever it lets the limit be reached, there is no deletion but this
one (`roll_back_exact`).
-/

namespace FilePlacement

open Reconciler

variable {σ : Type}

namespace Uploads

variable {spec : Spec} {v : VolumeId} {success : Bool} {log : List (Entry Reconciling σ)}

theorem deletions_eq (hu : Uploads spec v success log) : deletions log = [] := by
  obtain ⟨pre, e, rfl, hpre, -, hv, -⟩ := hu
  rw [deletions_append, deletions_of_quiet hpre]
  simp [deletions, Call.isDeletion_of_volume? hv]

theorem completed_eq (hu : Uploads spec v success log) :
    completed spec.datastoreId log = if success then [v] else [] := by
  obtain ⟨pre, e, rfl, hpre, -, hv, rfl, -⟩ := hu
  rw [completed_append, completed_of_quiet hpre]
  cases hs : e.succeeded <;> simp [completed, Entry.completed?, hs, hv]

end Uploads

theorem NotUploaded.deletions_eq {spec : Spec} {log : List (Entry Reconciling σ)} (hn : NotUploaded spec log) :
    deletions log = [] := hn.elim deletions_of_quiet fun ⟨_, hu⟩ => hu.deletions_eq

theorem NotUploaded.completed_eq {spec : Spec} {log : List (Entry Reconciling σ)} (hn : NotUploaded spec log) :
    completed spec.datastoreId log = [] := hn.elim completed_of_quiet fun ⟨_, hu⟩ => by simpa using hu.completed_eq

/-- The result of creating is that of the attempt, whatever a deletion is answered. The attempt deletes
nothing and completes one upload at most, of a volume that the desired state stands for. Behind the
attempt nothing is asked for if it succeeds; if it fails or is cut off, a single deletion of what it has
uploaded, and none if its upload has not succeeded. -/
theorem roll_back_exact (h : Host Reconciling σ) (tmpDir : String) (spec : Spec) (s : σ) :
    (create h tmpDir spec s).result =
        withinLimit spec ((attempt tmpDir spec).runInTime h (h.setLimit spec.timeout s)).1 ∧
      (∀ answer, (create { h with answer := answer } tmpDir spec s).result = (create h tmpDir spec s).result) ∧
      deletions (attemptLog h tmpDir spec s) = [] ∧
      (completed spec.datastoreId (attemptLog h tmpDir spec s)).length ≤ 1 ∧
      (∀ v ∈ completed spec.datastoreId (attemptLog h tmpDir spec s), IsTarget spec v) ∧
      ∃ undo, createLog h tmpDir spec s = attemptLog h tmpDir spec s ++ undo ∧
        undo.map Entry.call = match (create h tmpDir spec s).result with
          | .ok _ => []
          | .error _ => (completed spec.datastoreId (attemptLog h tmpDir spec s)).map (deletion spec) := by
  obtain ⟨undo, hlog, hcourse⟩ := create_course h tmpDir spec s
  refine ⟨create_result h tmpDir spec s, fun answer => ?_, ?_⟩
  · rw [create_result, create_result, Program.runInTime_with_answer]
  rw [hlog]
  generalize attemptLog h tmpDir spec s = log at hcourse
  generalize (create h tmpDir spec s).result = result at hcourse
  cases hcourse with
  | unplaced hn =>
    rw [hn.deletions_eq, hn.completed_eq]
    exact ⟨rfl, Nat.zero_le 1, by simp, [], rfl, rfl⟩
  | @created o v log back hid hu hback =>
    rw [deletions_append, completed_append, hu.deletions_eq, hu.completed_eq, deletions_of_quiet hback,
      completed_of_quiet hback]
    exact ⟨rfl, Nat.le_refl 1, by simpa using hu.isTarget, [], rfl, rfl⟩
  | @undone f v log back m hu hback =>
    rw [deletions_append, completed_append, hu.deletions_eq, hu.completed_eq, deletions_of_quiet hback,
      completed_of_quiet hback]
    exact ⟨rfl, Nat.le_refl 1, by simpa using hu.isTarget, _, rfl, rfl⟩

end FilePlacement
