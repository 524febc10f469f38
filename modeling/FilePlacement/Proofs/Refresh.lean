import FilePlacement.Memory
import FilePlacement.Proofs.Program
import FilePlacement.Reconcile

/-!
# Refreshing as a function of what is seen

Refreshing a record looks at two things: the listing of the datastore, and the source if it is a file.
`Sight` holds both, and `Sight.refresh` is the record that they lead to. Where a sight is what a host shows,
refreshing on the host gives that record (`runInTime_refresh`, `read_eq`).
-/

namespace FilePlacement

open Reconciler

variable {σ : Type}

/-- What is seen of a file: the listing of its datastore, and its source. -/
structure Sight where
  listing : Except Fault (List Listed)
  source : Except Fault Observation

/-- What there is to take over from the source. Nothing else than a file is looked at. -/
def Sight.observed (spec : Spec) (sight : Sight) : Except Fault (Option Observation) :=
  match spec.sourceFile with
  | none => .ok none
  | some _ => sight.source.map some

def withObserved (state : State) : Option Observation → State
  | none => state
  | some o => withObservation state o

theorem id_withObserved (spec : Spec) (state : State) (entry : Listed) (v : VolumeId) (o : Option Observation) :
    (withObserved (refreshed spec state entry v) o).id = state.id := by cases o <;> rfl

/-- The record that a sight makes of a record; none if the file is not listed. -/
def Sight.refresh (spec : Spec) (sight : Sight) (state : State) : Except Fault (Option State) := do
  let listing ← sight.listing
  match listing.find? fun entry => entry.volumeId = state.id with
  | none => return none
  | some entry =>
    let v ← VolumeId.parse entry.volumeId
    return some (withObserved (refreshed spec state entry v) (← sight.observed spec))

/-- Within its limit, the host shows this from the state `s` on. Of the source only a file is looked at. -/
def Shows (h : Host Reconciling σ) (spec : Spec) (s : σ) (sight : Sight) : Prop :=
  ∃ t, h.answerInTime (Call.backend (.listFiles spec.nodeName spec.datastoreId)) s = (some sight.listing, t) ∧
    ∀ f, spec.sourceFile = some f → ∃ u, (Drift.observe f).runInTime h t = (some sight.source, u)

variable {h : Host Reconciling σ} {spec : Spec} {s : σ} {sight : Sight}

theorem runInTime_listFiles (h : Host Reconciling σ) (node datastore : String) (s : σ) :
    Program.runInTime h (Reconciling.listFiles node datastore) s =
      h.answerInTime (Call.backend (.listFiles node datastore)) s :=
  Program.runInTime_request h (Call.backend (.listFiles node datastore)) s

/-- Refreshing gives the record that what is shown leads to. -/
theorem runInTime_refresh (hs : Shows h spec s sight) (state : State) :
    ∃ u, (refresh spec state).runInTime h s = (some (sight.refresh spec state), u) := by
  obtain ⟨t, hlisting, hsource⟩ := hs
  rw [← runInTime_listFiles] at hlisting
  unfold refresh
  obtain ⟨_ | listing, source⟩ := sight
  · exact ⟨t, Task.runInTime_bind_error hlisting _⟩
  rw [Task.runInTime_bind_ok hlisting]
  unfold Sight.refresh Sight.observed
  simp only [bind, Except.bind]
  cases listing.find? fun entry => entry.volumeId = state.id with
  | none => exact ⟨t, rfl⟩
  | some entry =>
    dsimp only
    cases VolumeId.parse entry.volumeId with
    | error f => exact ⟨t, rfl⟩
    | ok v =>
      cases hf : spec.sourceFile with
      | none => exact ⟨t, rfl⟩
      | some file =>
        obtain ⟨u, hu⟩ := hsource file hf
        cases source with
        | error f => exact ⟨u, Task.runInTime_bind_error hu _⟩
        | ok o => exact ⟨u, Task.runInTime_bind_ok hu _⟩

/-- What a successful refresh has seen. -/
theorem exists_shows {state next : State} {u : σ}
    (hr : (refresh spec state).runInTime h s = (some (.ok (some next)), u)) : ∃ sight, Shows h spec s sight := by
  obtain ⟨listing, t, hlisting, hr⟩ := Task.of_runInTime_bind hr
  rw [runInTime_listFiles] at hlisting
  cases hf : spec.sourceFile with
  | none => exact ⟨⟨.ok listing, .ok .unknown⟩, t, hlisting, fun _ hf' => nomatch hf.symm.trans hf'⟩
  | some file =>
    cases hfind : listing.find? fun entry => entry.volumeId = state.id with
    | none =>
      rw [hfind] at hr
      exact nomatch hr
    | some entry =>
      rw [hfind] at hr
      obtain ⟨v, t', hparse, hr⟩ := Task.of_runInTime_bind hr
      rw [hf] at hr
      obtain ⟨o, w, ho, -⟩ := Task.of_runInTime_bind hr
      obtain rfl : t = t' := congrArg Prod.snd ((Task.runInTime_ofExcept h _ t).symm.trans hparse)
      refine ⟨⟨.ok listing, .ok o⟩, t, hlisting, fun file' hf' => ⟨w, ?_⟩⟩
      obtain rfl := Option.some.inj (hf.symm.trans hf')
      exact ho

/-- Reading gives the record that what is shown leads to. -/
theorem read_eq (hs : Shows h.patient spec s sight) (state : State) :
    (read h spec state s).result = (sight.refresh spec state).map fun next => ⟨next, []⟩ := by
  obtain ⟨u, hu⟩ := runInTime_refresh hs state
  rw [Program.runInTime_patient] at hu
  have hrun : (Program.run h (refresh spec state) s).1 = sight.refresh spec state :=
    Option.some.inj (congrArg Prod.fst hu)
  unfold Reconciler.read
  rcases hr : Program.run h (refresh spec state) s with ⟨_ | next, t⟩ <;> rw [hr] at hrun <;> rw [← hrun] <;> rfl

/-- A refresh finds the entry with the identity of the record, and makes the next record of it. -/
theorem Sight.refresh_eq_some_iff {state next : State} :
    sight.refresh spec state = .ok (some next) ↔
      ∃ listing entry v o, sight.listing = .ok listing ∧
        listing.find? (fun entry => entry.volumeId = state.id) = some entry ∧ VolumeId.parse state.id = .ok v ∧
        sight.observed spec = .ok o ∧ next = withObserved (refreshed spec state entry v) o := by
  constructor
  · intro hn
    obtain ⟨listing, hlisting, hn⟩ := bind_eq_ok.1 hn
    cases hfind : listing.find? fun entry => entry.volumeId = state.id with
    | none =>
      rw [hfind] at hn
      exact nomatch hn
    | some entry =>
      rw [hfind] at hn
      obtain ⟨v, hv, hn⟩ := bind_eq_ok.1 hn
      obtain ⟨o, ho, hn⟩ := bind_eq_ok.1 hn
      have hid : entry.volumeId = state.id := of_decide_eq_true (List.find?_some hfind :)
      exact ⟨listing, entry, v, o, hlisting, hfind, hid ▸ hv, ho, (Option.some.inj (Except.ok.inj hn)).symm⟩
  · rintro ⟨listing, entry, v, o, hlisting, hfind, hv, ho, rfl⟩
    have hid : entry.volumeId = state.id := of_decide_eq_true (List.find?_some hfind :)
    refine bind_eq_ok.2 ⟨listing, hlisting, ?_⟩
    rw [hfind]
    exact bind_eq_ok.2 ⟨v, hid.symm ▸ hv, bind_eq_ok.2 ⟨o, ho, rfl⟩⟩

/-! ## One refresh after another -/

/-- The records that reads make of a record, each of the one before it, each in surroundings of its own.
Nothing if a read fails or finds the file gone. -/
def reads (h : Host Reconciling σ) (spec : Spec) : State → List σ → Option (List State)
  | _, [] => some []
  | state, s :: rest =>
    match (read h spec state s).result with
    | .ok ⟨some next, _⟩ => (reads h spec next rest).map (next :: ·)
    | _ => none

theorem reads_cons (hs : Shows h.patient spec s sight) {state next : State}
    (hn : sight.refresh spec state = .ok (some next)) (later : List σ) :
    reads h spec state (s :: later) = (reads h spec next later).map (next :: ·) := by
  have hread := read_eq hs state
  rw [hn] at hread
  rw [reads, hread]
  rfl

/-! ## On a store in memory -/

namespace Memory

/-- A store that lists these entries, on a machine whose working directory holds `notes.iso`, if at all,
with these bytes. -/
def besides (entries : List Listed) (notes : Option ByteArray) : Memory :=
  ⟨.ofTree (notes.elim .empty fun bytes =>
      FileTree.empty.put ["work", "notes.iso"] (.file ⟨bytes, ⟨1700000000, 0⟩, 0o644⟩)),
    ⟨"local", .ok .minimum, none, [], entries⟩, [], []⟩

/-- `notes.iso` is to be uploaded. -/
def notes : Spec := ⟨"node", "local", none, some ⟨"notes.iso", none, none, false, none⟩, none, none, true, 60⟩

/-- How `notes.iso` is listed once it has been uploaded. -/
def listedNotes : Listed := ⟨"local:iso/notes.iso", "iso"⟩

/-- How `notes.iso` is observed. -/
def observedNotes : Option ByteArray → Observation
  | some bytes => Drift.ofStat ⟨bytes.size, ⟨1700000000, 0⟩⟩
  | none => .unknown

theorem shows_notes (entries : List Listed) (bytes : Option ByteArray) :
    Shows host.patient notes (besides entries bytes) ⟨.ok entries, .ok (observedNotes bytes)⟩ := by
  refine ⟨_, rfl, fun f hf => ?_⟩
  obtain rfl := Option.some.inj hf
  cases bytes <;> exact ⟨_, rfl⟩

end Memory

end FilePlacement
