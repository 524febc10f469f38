import FilePlacement.Proofs.Refresh
import Mathlib.Data.List.Forall2

/-!
# Drift over a run of reads

Reads follow each other, each with the record of the one before it, while the file is listed and its source
is observed without a fault. The record of the source is then the last thing known of it, and a change is
reported just where an observation differs from a complete record: none is missed, none is invented
(`drift_exact`).
-/

namespace FilePlacement

open Reconciler

variable {σ : Type}

/-- The last observation of which something is known. -/
def lastKnown (base : Observation) (os : List Observation) : Observation :=
  ((os.filter Observation.isKnown).getLast?).getD base

theorem lastKnown_nil (base : Observation) : lastKnown base [] = base := rfl

theorem lastKnown_cons (base o : Observation) (os : List Observation) :
    lastKnown base (o :: os) = lastKnown (if o.isKnown then o else base) os := by
  unfold lastKnown
  by_cases ho : o.isKnown = true
  · rw [List.filter_cons_of_pos ho, if_pos ho, List.getLast?_cons, Option.getD_some]
  · rw [List.filter_cons_of_neg ho, if_neg ho]

/-- Volumes are listed, one with this identity among them, and the source is observed as `o`. -/
def Observes (h : Host Reconciling σ) (spec : Spec) (id : String) (s : σ) (o : Observation) : Prop :=
  ∃ listing, Shows h.patient spec s ⟨.ok listing, .ok o⟩ ∧ ∃ entry ∈ listing, entry.volumeId = id

/-- What the records of a run of reads that begins at `state` say of their sources, read by read, where the
source has been observed as `os`. -/
structure Tracks (state : State) (records : List State) (os : List Observation) : Prop where
  recorded : ∀ (i : Nat) r, records[i]? = some r → r.source = lastKnown state.source (os.take (i + 1))
  reported : ∀ (i : Nat) (before r : State) o,
    (state :: records)[i]? = some before → records[i]? = some r → os[i]? = some o →
    (r.sourceChanged = true ↔ before.source.isComplete = true ∧ before.source ≠ o)
  /-- The first observation that differs from a complete record is reported, and nothing before it. -/
  first : state.source.isComplete = true → (∃ o ∈ os, o ≠ state.source) →
    ∃ (i : Nat) (o : Observation) (r : State), os[i]? = some o ∧ o ≠ state.source ∧
      records[i]? = some r ∧ r.sourceChanged = true ∧
      ∀ j < i, os[j]? = some state.source ∧ ∃ r : State, records[j]? = some r ∧ r.sourceChanged = false

section
variable {h : Host Reconciling σ} {spec : Spec} {state next : State} {records : List State} {s : σ}
  {surroundings : List σ} {o : Observation} {os : List Observation}

theorem hasChanged_iff (previous current : Observation) :
    previous.hasChanged current = true ↔ previous.isComplete = true ∧ previous ≠ current := by
  simp [Observation.hasChanged]

theorem tracks_nil (state : State) : Tracks state [] [] where
  recorded := nofun
  reported := nofun
  first _ hd := by obtain ⟨_, hd, -⟩ := hd; cases hd

theorem Tracks.cons (hsource : next.source = if o.isKnown then o else state.source)
    (hchanged : next.sourceChanged = state.source.hasChanged o) (ht : Tracks next records os) :
    Tracks state (next :: records) (o :: os) where
  recorded i r hr := by
    rw [List.take_succ_cons, lastKnown_cons, ← hsource]
    cases i with
    | zero =>
      obtain rfl := Option.some.inj hr
      rw [List.take_zero, lastKnown_nil]
    | succ i => exact ht.recorded i r hr
  reported i before r x hb hr hx := by
    cases i with
    | zero =>
      obtain rfl := Option.some.inj hb
      obtain rfl := Option.some.inj hr
      obtain rfl := Option.some.inj hx
      rw [hchanged, hasChanged_iff]
    | succ i => exact ht.reported i before r x hb hr hx
  first hc hd := by
    by_cases ho : o = state.source
    · -- What has been observed is what was recorded, so that the record stays complete.
      have hsame : next.source = state.source := by rw [hsource, ho, ite_self]
      have hquiet : next.sourceChanged = false := by rw [hchanged, ho, Observation.not_hasChanged_self]
      obtain ⟨x, hx, hne⟩ := hd
      have hx : x ∈ os := (List.mem_cons.1 hx).resolve_left fun h => hne (h.trans ho)
      obtain ⟨i, x, r, hi, hne, hr, hrc, hbefore⟩ := ht.first (hsame ▸ hc) ⟨x, hx, hsame ▸ hne⟩
      refine ⟨i + 1, x, r, hi, hsame ▸ hne, hr, hrc, fun j hj => ?_⟩
      cases j with
      | zero => exact ⟨congrArg some ho, next, rfl, hquiet⟩
      | succ j => exact hsame ▸ hbefore j (Nat.lt_of_succ_lt_succ hj)
    · exact ⟨0, o, next, rfl, ho, rfl, hchanged.trans ((hasChanged_iff _ _).2 ⟨hc, Ne.symm ho⟩), nofun⟩

/-- One read of a file that is listed. -/
theorem exists_refresh_of_observes {v : VolumeId} (hv : VolumeId.parse state.id = .ok v)
    (ho : Observes h spec state.id s o) :
    ∃ sight next, Shows h.patient spec s sight ∧ sight.refresh spec state = .ok (some next) ∧ next.id = state.id ∧
      (spec.sourceFile = none → next.source = state.source ∧ next.sourceChanged = false) ∧
      (∀ file, spec.sourceFile = some file → next.source = (if o.isKnown then o else state.source) ∧
        next.sourceChanged = state.source.hasChanged o) := by
  obtain ⟨listing, hs, entry, hentry, hid⟩ := ho
  obtain ⟨found, hfind⟩ : ∃ found, listing.find? (fun entry => entry.volumeId = state.id) = some found :=
    Option.isSome_iff_exists.1 (List.find?_isSome.2 ⟨entry, hentry, decide_eq_true hid⟩)
  let seen : Option Observation := spec.sourceFile.map fun _ => o
  have hseen : Sight.observed spec ⟨.ok listing, .ok o⟩ = .ok seen := by
    unfold Sight.observed
    cases hf : spec.sourceFile <;> simp only [seen, hf] <;> rfl
  refine ⟨_, _, hs, Sight.refresh_eq_some_iff.2 ⟨listing, found, v, seen, rfl, hfind, hv, hseen, rfl⟩,
    id_withObserved spec state found v seen, fun hf => ?_, fun file hf => ?_⟩ <;>
    simp only [seen, hf] <;> exact ⟨rfl, rfl⟩

/-- Reading a listed file over and over succeeds, and the records track the observations of a source file,
and say nothing of any other source. -/
theorem drift_exact (state : State) {v : VolumeId} (hv : VolumeId.parse state.id = .ok v)
    (hos : List.Forall₂ (Observes h spec state.id) surroundings os) :
    ∃ records, reads h spec state surroundings = some records ∧ records.length = os.length ∧
      (∀ file, spec.sourceFile = some file → Tracks state records os) ∧
      (spec.sourceFile = none → ∀ r ∈ records, r.sourceChanged = false ∧ r.source = state.source) := by
  generalize hid : state.id = id at hos hv
  induction hos generalizing state with
  | nil => exact ⟨[], rfl, rfl, fun _ _ => tracks_nil state, fun _ => nofun⟩
  | cons ho hos ih =>
    obtain ⟨sight, next, hs, hn, hnext, hraw, hfile⟩ := exists_refresh_of_observes (hid ▸ hv) (hid ▸ ho)
    obtain ⟨records, hreads, hlength, htracks, hquiet⟩ := ih next (hnext.trans hid)
    refine ⟨next :: records, ?_, congrArg (· + 1) hlength, fun file hf => ?_, fun hf r hr => ?_⟩
    · rw [reads_cons hs hn, hreads]
      rfl
    · exact (htracks file hf).cons (hfile file hf).1 (hfile file hf).2
    · obtain ⟨hsource, hchanged⟩ := hraw hf
      rcases List.mem_cons.1 hr with rfl | hr
      · exact ⟨hchanged, hsource⟩
      · exact hsource ▸ hquiet hf r hr

end

namespace Memory

/-- `notes.iso` as it is found by three reads: as it was recorded, gone, and there again and longer. -/
def versions : List (Option ByteArray) := [some "text".toUTF8, none, some "longer".toUTF8]

/-- The record of `notes.iso`. -/
def recordedNotes : State :=
  { State.blank with id := listedNotes.volumeId, source := observedNotes (some "text".toUTF8) }

end Memory

/-- A source that goes and comes back is compared with what was known of it before. -/
theorem drift_exact_notes :
    VolumeId.parse Memory.recordedNotes.id = .ok ⟨"local", "iso", "notes.iso"⟩ ∧
    List.Forall₂ (Observes Memory.host Memory.notes Memory.recordedNotes.id)
      (Memory.versions.map (Memory.besides [Memory.listedNotes])) (Memory.versions.map Memory.observedNotes) ∧
    ∃ records,
      reads Memory.host Memory.notes Memory.recordedNotes (Memory.versions.map (Memory.besides [Memory.listedNotes])) =
        some records ∧
      Tracks Memory.recordedNotes records (Memory.versions.map Memory.observedNotes) ∧
      records.map State.sourceChanged = [false, true, true] := by
  have hparse : VolumeId.parse Memory.recordedNotes.id = .ok ⟨"local", "iso", "notes.iso"⟩ := rfl
  have hobserves (notes : Option ByteArray) :
      Observes Memory.host Memory.notes Memory.recordedNotes.id (.besides [Memory.listedNotes] notes)
        (Memory.observedNotes notes) :=
    ⟨_, Memory.shows_notes [Memory.listedNotes] notes, _, List.mem_singleton_self _, rfl⟩
  have hall : List.Forall₂ (Observes Memory.host Memory.notes Memory.recordedNotes.id)
      (Memory.versions.map (Memory.besides [Memory.listedNotes])) (Memory.versions.map Memory.observedNotes) :=
    List.forall₂_map_left_iff.2 (List.forall₂_map_right_iff.2 (List.forall₂_same.2 fun notes _ => hobserves notes))
  have hchanged : (reads Memory.host Memory.notes Memory.recordedNotes
      (Memory.versions.map (Memory.besides [Memory.listedNotes]))).map (·.map State.sourceChanged) =
        some [false, true, true] := by
    decide +kernel
  obtain ⟨records, hreads, -, htracks, -⟩ := drift_exact Memory.recordedNotes hparse hall
  rw [hreads] at hchanged
  exact ⟨hparse, hall, records, hreads, htracks _ rfl, Option.some.inj hchanged⟩

end FilePlacement
