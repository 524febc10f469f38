import FilePlacement.Proofs.Log
import FilePlacement.Proofs.Refresh

/-!
# Refreshing settles

While the listing and the source stay as they are, a record that has been refreshed can change in one thing
only: it may say that the source has changed, and the next refresh takes this back if the source is known
(`Sight.refresh_again`). So a record that has just been created is read as it is, and every record settles by
the second read (`refreshing_settles`).
-/

namespace FilePlacement

open Reconciler

variable {σ : Type}

/-- Something is known of the source. -/
def Sight.isKnown (spec : Spec) (sight : Sight) : Bool :=
  match sight.observed spec with
  | .ok (some o) => o.isKnown
  | _ => false

/-- The record that a sight makes of its own record: a source that is known has not changed since. -/
def Sight.settled (spec : Spec) (sight : Sight) (state : State) : State :=
  if sight.isKnown spec then { state with sourceChanged := false } else state

section
variable {spec : Spec} {sight : Sight} {state next : State}

theorem Sight.settled_settled : sight.settled spec (sight.settled spec state) = sight.settled spec state := by
  unfold Sight.settled
  split <;> rfl

theorem Sight.settled_of_unchanged (hc : state.sourceChanged = false) : sight.settled spec state = state := by
  unfold Sight.settled
  split
  · rw [← hc]
  · rfl

/-- Taking an observation over from a record that has it already. -/
theorem withObserved_again (entry : Listed) (v : VolumeId) (o : Option Observation) :
    withObserved (refreshed spec (withObserved (refreshed spec state entry v) o) entry v) o =
      if o.any Observation.isKnown then { withObserved (refreshed spec state entry v) o with sourceChanged := false }
      else withObserved (refreshed spec state entry v) o := by
  cases o with
  | none => rfl
  | some o =>
    simp only [withObserved, withObservation, refreshed, Option.any_some]
    split
    · simp [Observation.not_hasChanged_self]
    · rfl

/-- Refreshing again while nothing changes. -/
theorem Sight.refresh_again (hn : sight.refresh spec state = .ok (some next)) :
    sight.refresh spec next = .ok (some (sight.settled spec next)) := by
  obtain ⟨listing, entry, v, o, hlisting, hfind, hv, ho, rfl⟩ := Sight.refresh_eq_some_iff.1 hn
  have hid := id_withObserved spec state entry v o
  refine Sight.refresh_eq_some_iff.2 ⟨listing, entry, v, o, hlisting, hid ▸ hfind, hid ▸ hv, ho, ?_⟩
  rw [withObserved_again, Sight.settled, Sight.isKnown, ho]
  cases o <;> rfl

/-- The first record of an upload has nothing of its source, so that no refresh finds it changed. -/
theorem Sight.refresh_first {p : Placed} (hn : sight.refresh spec (p.state spec) = .ok (some next)) :
    next.sourceChanged = false := by
  obtain ⟨listing, entry, v, o, -, -, -, -, rfl⟩ := Sight.refresh_eq_some_iff.1 hn
  cases o <;> rfl

end

/-! ## On a host -/

section
variable {h : Host Reconciling σ} {spec : Spec} {tmpDir : String} {s t u : σ} {sight : Sight} {p : Placed}
  {state next : State}

/-- The host when creating begins to read back. -/
def placedAt (h : Host Reconciling σ) (tmpDir : String) (spec : Spec) (s : σ) : σ :=
  ((place tmpDir spec).runInTime h (h.setLimit spec.timeout s)).2

theorem refresh_of_readBack (hr : (readBack spec p).runInTime h t = (some (.ok state), u)) :
    (refresh spec (p.state spec)).runInTime h t = (some (.ok (some state)), u) := by
  obtain ⟨found, w, hrefresh, hr⟩ := Task.of_runInTime_bind hr
  cases found with
  | none => exact nomatch hr
  | some next =>
    cases hr
    exact hrefresh

/-- A successful creation has placed its file and gives the refreshed first record of the upload. -/
theorem placed_of_created {o : Outcome State} (ho : (create h tmpDir spec s).result = .ok o) :
    ∃ (p : Placed) (u : σ),
      (place tmpDir spec).runInTime h (h.setLimit spec.timeout s) = (some (.ok p), placedAt h tmpDir spec s) ∧
      (refresh spec (p.state spec)).runInTime h (placedAt h tmpDir spec s) = (some (.ok (some o.value)), u) := by
  have hstages := create_stages h tmpDir spec s
  revert ho
  generalize create h tmpDir spec s = finished at hstages
  intro ho
  cases hstages with
  | unplaced _ _ => exact nomatch ho
  | undone _ _ _ =>
    rw [rollBack_result] at ho
    exact nomatch ho
  | @created p t state u hplace hback =>
    have ht : placedAt h tmpDir spec s = t := congrArg Prod.snd hplace
    refine ⟨p, u, ?_, ?_⟩
    · rw [ht, hplace]
    · rw [ht, ← Except.ok.inj ho]
      exact refresh_of_readBack hback

theorem exists_refresh_of_created {o : Outcome State} (ho : (create h tmpDir spec s).result = .ok o) :
    ∃ (p : Placed) (u : σ),
      (refresh spec (p.state spec)).runInTime h (placedAt h tmpDir spec s) = (some (.ok (some o.value)), u) := by
  obtain ⟨p, u, -, hrefresh⟩ := placed_of_created ho
  exact ⟨p, u, hrefresh⟩

/-- Reads of a record that is settled change nothing any more. -/
theorem reads_settled (hn : sight.refresh spec state = .ok (some state)) {later : List σ}
    (hl : ∀ s ∈ later, Shows h.patient spec s sight) :
    reads h spec state later = some (List.replicate later.length state) := by
  induction later with
  | nil => rfl
  | cons s rest ih =>
    rw [reads_cons (hl s List.mem_cons_self) hn, ih fun t ht => hl t (List.mem_cons_of_mem _ ht)]
    rfl

/-- Where the listing and the source stay as they are, refreshing settles: a record that has just been created
is read as it is, and any other record no later than by the second read. -/
theorem refreshing_settles (h : Host Reconciling σ) (tmpDir : String) (spec : Spec) :
    (∀ s o, (create h tmpDir spec s).result = .ok o →
      o.value.sourceChanged = false ∧ (∃ sight, Shows h spec (placedAt h tmpDir spec s) sight) ∧
        ∀ sight t, Shows h spec (placedAt h tmpDir spec s) sight → Shows h.patient spec t sight →
          (read h spec o.value t).result = .ok ⟨some o.value, []⟩) ∧
    ∀ sight state s next warnings, Shows h.patient spec s sight →
      (read h spec state s).result = .ok ⟨some next, warnings⟩ →
        ∃ settled, (sight.isKnown spec = true → settled = { next with sourceChanged := false }) ∧
          (sight.isKnown spec = false → settled = next) ∧
          ∀ later, (∀ t ∈ later, Shows h.patient spec t sight) →
            reads h spec next later = some (List.replicate later.length settled) := by
  constructor
  · intro s o ho
    obtain ⟨p, u, hback⟩ := exists_refresh_of_created ho
    have hfirst : ∀ sight, Shows h spec (placedAt h tmpDir spec s) sight →
        sight.refresh spec (p.state spec) = .ok (some o.value) := by
      intro sight hs
      obtain ⟨u', hu'⟩ := runInTime_refresh hs (p.state spec)
      exact Option.some.inj (congrArg Prod.fst (hu'.symm.trans hback))
    obtain ⟨sight₀, hs₀⟩ := exists_shows hback
    have hunchanged : o.value.sourceChanged = false := Sight.refresh_first (hfirst sight₀ hs₀)
    refine ⟨hunchanged, ⟨sight₀, hs₀⟩, fun sight t hs ht => ?_⟩
    rw [read_eq ht, Sight.refresh_again (hfirst sight hs), Sight.settled_of_unchanged hunchanged]
    rfl
  · intro sight state s next warnings hs hread
    have hn : sight.refresh spec state = .ok (some next) := by
      rw [read_eq hs] at hread
      cases hr : sight.refresh spec state with
      | error f =>
        rw [hr] at hread
        exact nomatch hread
      | ok found =>
        rw [hr] at hread
        exact congrArg Except.ok (congrArg Outcome.value (Except.ok.inj hread))
    have hagain := Sight.refresh_again hn
    have hsettled := Sight.refresh_again hagain
    rw [Sight.settled_settled] at hsettled
    refine ⟨sight.settled spec next, fun hk => if_pos hk, fun hk => if_neg (ne_true_of_eq_false hk), ?_⟩
    intro later hl
    cases later with
    | nil => rfl
    | cons t rest =>
      rw [reads_cons (hl t List.mem_cons_self) hagain,
        reads_settled hsettled fun t ht => hl t (List.mem_cons_of_mem _ ht)]
      rfl

end

/-- `notes.iso` is uploaded and read as it was recorded; a record that knows of another source settles. -/
theorem refreshing_settles_notes :
    (∃ o, (create Memory.host "tmp" Memory.notes (.besides [] (some "text".toUTF8))).result = .ok o ∧
      o.value.sourceChanged = false ∧
      (read Memory.host Memory.notes o.value (.besides [Memory.listedNotes] (some "text".toUTF8))).result =
        .ok ⟨some o.value, []⟩) ∧
    ∃ next settled,
      (read Memory.host Memory.notes { State.blank with id := "local:iso/notes.iso", source := ⟨"earlier", 1, "tag"⟩ }
        (.besides [Memory.listedNotes] (some "text".toUTF8))).result = .ok ⟨some next, []⟩ ∧
      next.sourceChanged = true ∧ settled = { next with sourceChanged := false } ∧
      reads Memory.host Memory.notes next
        (List.replicate 3 (.besides [Memory.listedNotes] (some "text".toUTF8))) = some [settled, settled, settled] := by
  have hshows := Memory.shows_notes [Memory.listedNotes] (some "text".toUTF8)
  have hsettles := refreshing_settles Memory.host "tmp" Memory.notes
  constructor
  · have hok : ∃ o, (create Memory.host "tmp" Memory.notes (.besides [] (some "text".toUTF8))).result = .ok o :=
      ⟨_, rfl⟩
    obtain ⟨o, ho⟩ := hok
    obtain ⟨hunchanged, -, hread⟩ := hsettles.1 _ o ho
    have hplaced : Shows Memory.host Memory.notes
        (placedAt Memory.host "tmp" Memory.notes (.besides [] (some "text".toUTF8)))
        ⟨.ok [Memory.listedNotes], .ok (Memory.observedNotes (some "text".toUTF8))⟩ := by
      refine ⟨_, rfl, fun f hf => ?_⟩
      obtain rfl := Option.some.inj hf
      exact ⟨_, rfl⟩
    exact ⟨o, ho, hunchanged, hread _ _ hplaced hshows⟩
  · have hok : ∃ next, (read Memory.host Memory.notes
        { State.blank with id := "local:iso/notes.iso", source := ⟨"earlier", 1, "tag"⟩ }
        (.besides [Memory.listedNotes] (some "text".toUTF8))).result = .ok ⟨some next, []⟩ ∧
        next.sourceChanged = true :=
      ⟨_, rfl, by decide +kernel⟩
    obtain ⟨next, hnext, hchanged⟩ := hok
    obtain ⟨settled, hs, -, hreads⟩ := hsettles.2 _ _ _ next [] hshows hnext
    exact ⟨next, settled, hnext, hchanged, hs (by decide +kernel),
      hreads _ fun t ht => (List.eq_of_mem_replicate ht) ▸ hshows⟩

end FilePlacement
