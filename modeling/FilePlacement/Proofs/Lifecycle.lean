import FilePlacement.Proofs.Entries
import FilePlacement.Proofs.RollBack
import FilePlacement.Proofs.Shelf

/-!
# The life of the files in a store

Creating, reading, updating and deleting on a host that behaves as a store, seen as a machine on sets
of entries. `Step` says what one operation can make of the entries and what its result tells of them;
`operation_step` proves it of each operation, in each state and for each way in which calls fail. So
every run of operations is a run of the machine (`lifecycle`), and an entry that no operation of the
run is about stays as it is.
-/

namespace FilePlacement

open Reconciler Entries

variable {σ : Type}

inductive Operation where
  | create (spec : Spec)
  | read (spec : Spec) (state : State)
  | update (spec : Spec) (state : State)
  | delete (spec : Spec) (state : State)

namespace Operation

/-- Does an operation. Only creating, reading and updating give a record. -/
def run (h : Host Reconciling σ) (tmpDir : String) : Operation → σ → Finished σ (Option State)
  | .create spec, s =>
    let f := Reconciler.create h tmpDir spec s
    ⟨f.result.map (Outcome.map some), f.events, f.host⟩
  | .read spec state, s => Reconciler.read h spec state s
  | .update spec state, s => ⟨(Reconciler.update spec state).map (Outcome.map some), [], s⟩
  | .delete spec state, s =>
    let f := Reconciler.delete h spec state s
    ⟨f.result.map (Outcome.map fun _ => none), f.events, f.host⟩

/-- The identities that an operation is about. -/
def Touches : Operation → String → Prop
  | .create spec, id => ∃ v, IsTarget spec v ∧ v.format = id
  | .delete _ state, id => state.id = id
  | .read .., _ | .update .., _ => False

end Operation

/-! ## The machine -/

/-- One operation in the state `s` with the entries `c`: its result and the entries after it. -/
inductive Step (h : Host Reconciling σ) (tmpDir : String) (s : σ) (c : Set Listed) :
    Operation → Except Fault (Outcome (Option State)) → Set Listed → Prop
  /-- The file is there, under the identity of the record. -/
  | created {spec : Spec} {o : Outcome State} {v : VolumeId} (htarget : IsTarget spec v) (hid : o.value.id = v.format)
      (hheld : Holds (put c v) o.value.id) : Step h tmpDir s c (.create spec) (.ok (o.map some)) (put c v)
  /-- No upload has succeeded: nothing has changed. -/
  | unplaced {spec : Spec} {f : Fault} (hlog : completed spec.datastoreId (createLog h tmpDir spec s) = []) :
      Step h tmpDir s c (.create spec) (.error f) c
  /-- The upload has been taken back. -/
  | undone {spec : Spec} {f : Fault} {v : VolumeId} {e : Entry Reconciling σ} (htarget : IsTarget spec v)
      (hlog : completed spec.datastoreId (createLog h tmpDir spec s) = [v]) (he : e ∈ createLog h tmpDir spec s)
      (hcall : e.call = deletion spec v) (hdone : e.succeeded = true) :
      Step h tmpDir s c (.create spec) (.error f) (remove c v.format)
  /-- The upload could not be taken back. -/
  | remaining {spec : Spec} {f : Fault} {v : VolumeId} {e : Entry Reconciling σ} (htarget : IsTarget spec v)
      (hlog : completed spec.datastoreId (createLog h tmpDir spec s) = [v]) (he : e ∈ createLog h tmpDir spec s)
      (hcall : e.call = deletion spec v) (hdone : e.succeeded = false) :
      Step h tmpDir s c (.create spec) (.error f) (put c v)
  | found {spec : Spec} {state next : State} {warnings : List String} (hid : next.id = state.id)
      (hheld : Holds c state.id) : Step h tmpDir s c (.read spec state) (.ok ⟨some next, warnings⟩) c
  /-- A listing need not have the entries of other datastores. -/
  | missing {spec : Spec} {state : State} {warnings : List String}
      (hheld : BelongsTo spec.datastoreId state.id → ¬ Holds c state.id) :
      Step h tmpDir s c (.read spec state) (.ok ⟨none, warnings⟩) c
  | unread {spec state f} : Step h tmpDir s c (.read spec state) (.error f) c
  | updated {spec : Spec} {state : State} {result : Except Fault (Outcome (Option State))}
      (hresult : ∀ o, result = .ok o → o.value = some state) : Step h tmpDir s c (.update spec state) result c
  /-- The file is gone, whether it was there or not. -/
  | deleted {spec : Spec} {state : State} {o : Outcome (Option State)}
      (hgone : ¬ Holds (remove c state.id) state.id) :
      Step h tmpDir s c (.delete spec state) (.ok o) (remove c state.id)
  | undeleted {spec state f} : Step h tmpDir s c (.delete spec state) (.error f) c

/-- What an operation is not about stays as it is. -/
theorem Step.frame {h : Host Reconciling σ} {tmpDir : String} {s : σ} {c c' : Set Listed} {op : Operation}
    {result : Except Fault (Outcome (Option State))} (hstep : Step h tmpDir s c op result c') {x : Listed}
    (hx : ¬ op.Touches x.volumeId) : x ∈ c' ↔ x ∈ c := by
  cases hstep with
  | created htarget hid => exact mem_put_of_ne fun hv => hx ⟨_, htarget, hv.symm⟩
  | undone htarget => exact ⟨fun hc => hc.1, fun hc => ⟨hc, fun hv => hx ⟨_, htarget, hv.symm⟩⟩⟩
  | remaining htarget => exact mem_put_of_ne fun hv => hx ⟨_, htarget, hv.symm⟩
  | deleted => exact ⟨fun hc => hc.1, fun hc => ⟨hc, fun hv => hx hv.symm⟩⟩
  | _ => exact Iff.rfl

section
variable {h : Host Reconciling σ} {entries : σ → Set Listed} {paths : String → Option String}

/-! ## One operation -/

theorem create_step (hs : ActsAsStore h entries paths) (tmpDir : String) (spec : Spec) (s : σ) :
    Step h tmpDir s (entries s) (.create spec) ((create h tmpDir spec s).result.map (Outcome.map some))
      (entries (create h tmpDir spec s).host) := by
  have hl := create_linked hs.act hs.setLimit tmpDir spec s
  obtain ⟨undo, hlog, hcourse⟩ := create_course h tmpDir spec s
  rw [hlog] at hl
  generalize attemptLog h tmpDir spec s = log at *
  generalize (create h tmpDir spec s).result = result at *
  generalize (create h tmpDir spec s).host = t at *
  cases hcourse with
  | unplaced hn =>
    rw [List.append_nil] at hl hlog
    have hkeep : entries t = entries s := by
      rcases hn with hq | ⟨v, hu⟩
      · exact hs.eq_of_quietLog hl hq
      · exact hs.eq_of_uploads hl hu
    rw [hkeep]
    exact .unplaced (hlog ▸ hn.completed_eq)
  | @created o v log back hid hu hback =>
    obtain ⟨m, hfirst, hrest⟩ := linked_append.1 (List.append_nil _ ▸ hl)
    rw [hs.eq_of_quietLog hrest hback, hs.eq_of_uploads hfirst hu]
    exact .created hu.isTarget hid (hid ▸ holds_put (entries s) v)
  | @undone f v log back m hu hback =>
    obtain ⟨m', hbefore, hm, hg, hlast⟩ := linked_append.1 hl
    obtain ⟨m'', hfirst, hrest⟩ := linked_append.1 hbefore
    have hput : entries m = put (entries s) v :=
      calc entries m = entries m' := hm.symm
        _ = entries m'' := hs.eq_of_quietLog hrest hback
        _ = put (entries s) v := hs.eq_of_uploads hfirst hu
    have hc := hs.conforms _ hg
    have hcompleted : completed spec.datastoreId (createLog h tmpDir spec s) = [v] := by
      rw [hlog, completed_append, completed_append, hu.completed_eq, completed_of_quiet hback]
      exact congrArg (v :: ·) (completed_eq_nil fun e he => by rw [List.mem_singleton.1 he]; rfl)
    have hmem : Entry.asked h (deletion spec v) m ∈ createLog h tmpDir spec s := by simp [hlog]
    cases hdone : (Entry.asked h (deletion spec v) m : Entry Reconciling σ).succeeded with
    | true =>
      have hremove : entries t = remove (entries s) v.format := by
        rw [← remove_put, ← hput]
        exact hlast.symm.trans (hc.eq_remove hdone)
      rw [hremove]
      exact .undone hu.isTarget hcompleted hmem rfl hdone
    | false =>
      rw [← hlast, hc.eq_of_not_succeeded hdone]
      exact hput ▸ .remaining hu.isTarget hcompleted hmem rfl hdone

theorem answer_of_patient {c : Call} {s t : σ} {reply : c.Reply}
    (ht : h.patient.answerInTime c s = (some reply, t)) : h.answer c s = (reply, t) := by
  obtain ⟨hr, rfl⟩ := Prod.mk.inj ht
  exact Prod.ext (Option.some.inj hr) rfl

/-- Refreshing looks a record up in the listing and changes nothing. -/
theorem wp_refresh (hs : ActsAsStore h entries paths) (spec : Spec) (state : State) (s : σ) :
    (refresh spec state).wp h.patient
      (fun r t => entries t = entries s ∧ match r with
        | some _ => Holds (entries s) state.id
        | none => BelongsTo spec.datastoreId state.id → ¬ Holds (entries s) state.id)
      (fun _ t => entries t = entries s) (fun t => entries t = entries s) s := by
  unfold refresh
  refine Task.wp_bind.2 ((Reconciling.wp_call (.listFiles spec.nodeName spec.datastoreId)).2
    ⟨fun listing t ht => ?_, fun f t ht => ?_, fun t ht => ?_⟩)
  · obtain ⟨hkeep, hsub, hall⟩ := hs.conforms_answer (answer_of_patient ht)
    split
    · rename_i hnone
      refine ⟨hkeep, fun hds ⟨x, hx, hid⟩ => ?_⟩
      have hx := hall x hx (hid ▸ hds)
      exact List.find?_eq_none.1 hnone x hx (by simpa using hid)
    · rename_i entry hsome
      have hheld : Holds (entries s) state.id :=
        ⟨entry, hsub entry (List.mem_of_find?_eq_some hsome), by simpa using List.find?_some hsome⟩
      refine Task.wp_bind.2 (Task.wp_ofExcept.2 ⟨fun v _ => ?_, fun f _ => hkeep⟩)
      dsimp only
      split
      · exact ⟨hkeep, hheld⟩
      · rename_i file _
        have hobserve := Task.wp_of_asksOnly (h := h.patient) (s := t) (fun u => entries u = entries s)
          (fun c u hc hu => (hs.eq_of_quiet_answer hc.quiet u).trans hu) (fun d u hu => (hs.act d u).trans hu)
          (asksOnly_observe file) hkeep
        exact Task.wp_bind.2 (Task.wp_mono hobserve (fun _ u hu => ⟨hu, hheld⟩) (fun _ _ hu => hu) fun _ hu => hu)
  · exact (hs.conforms_answer (answer_of_patient ht)).eq_of_not_succeeded rfl
  · cases ht

theorem read_step (hs : ActsAsStore h entries paths) (tmpDir : String) (spec : Spec) (state : State) (s : σ) :
    Step h tmpDir s (entries s) (.read spec state) (read h spec state s).result
      (entries (read h spec state s).host) := by
  have hrun := Program.runInTime_patient h (refresh spec state) s
  have hwp := Task.wp_ends (ends_refresh spec state) (wp_refresh hs spec state s)
  unfold Reconciler.read
  rcases hend : Program.run h (refresh spec state) s with ⟨f | next, t⟩
  · rw [hend] at hrun
    have hkeep := Task.of_runInTime_error hwp hrun
    dsimp only
    rw [hkeep]
    exact .unread
  · rw [hend] at hrun
    obtain ⟨hid, hkeep, hheld⟩ := Task.of_runInTime_ok hwp hrun
    dsimp only
    rw [hkeep]
    cases next with
    | some next => exact .found (hid next rfl) hheld
    | none => exact .missing hheld

theorem delete_step (hs : ActsAsStore h entries paths) (tmpDir : String) (spec : Spec) (state : State) (s : σ) :
    Step h tmpDir s (entries s) (.delete spec state) ((delete h spec state s).result.map (Outcome.map fun _ => none))
      (entries (delete h spec state s).host) := by
  unfold Reconciler.delete
  rcases hanswer : h.answer (Call.backend (.deleteFile spec.nodeName spec.datastoreId state.id)) s with ⟨f | u, t⟩
  · have hc := hs.conforms_answer hanswer
    have hkeep := hc.eq_of_not_succeeded rfl
    cases f with
    | notFound what =>
      have hgone := hc.eq_remove_of_notFound
      dsimp only
      rw [hgone]
      exact .deleted (not_holds_remove (entries s) state.id)
    | _ =>
      dsimp only
      rw [hkeep]
      exact .undeleted
  · have hgone := (hs.conforms_answer hanswer).eq_remove rfl
    dsimp only
    rw [hgone]
    exact .deleted (not_holds_remove (entries s) state.id)

theorem operation_step (hs : ActsAsStore h entries paths) (tmpDir : String) (op : Operation) (s : σ) :
    Step h tmpDir s (entries s) op (op.run h tmpDir s).result (entries (op.run h tmpDir s).host) := by
  cases op with
  | create spec => exact create_step hs tmpDir spec s
  | read spec state => exact read_step hs tmpDir spec state s
  | update spec state =>
    refine .updated fun o ho => ?_
    change (Reconciler.update spec state).map (Outcome.map some) = .ok o at ho
    cases hupdate : Reconciler.update spec state with
    | error f =>
      rw [hupdate] at ho
      cases ho
    | ok outcome =>
      rw [hupdate] at ho
      obtain ⟨mode, -, houtcome⟩ := bind_eq_ok.1 hupdate
      cases houtcome
      cases ho
      rfl
  | delete spec state => exact delete_step hs tmpDir spec state s

/-! ## Runs -/

/-- The state after operations one after the other. -/
def runAll (h : Host Reconciling σ) (tmpDir : String) (ops : List Operation) (s : σ) : σ :=
  ops.foldl (fun s op => (op.run h tmpDir s).host) s

/-- Operations that lead from one state to another, each of them a step of the machine. -/
inductive Runs (h : Host Reconciling σ) (tmpDir : String) (entries : σ → Set Listed) :
    σ → List Operation → σ → Prop
  | nil (s : σ) : Runs h tmpDir entries s [] s
  | cons {s t : σ} {op : Operation} {ops : List Operation}
      (hstep : Step h tmpDir s (entries s) op (op.run h tmpDir s).result (entries (op.run h tmpDir s).host))
      (hrest : Runs h tmpDir entries (op.run h tmpDir s).host ops t) : Runs h tmpDir entries s (op :: ops) t

theorem Runs.frame {tmpDir : String} {s t : σ} {ops : List Operation} (hr : Runs h tmpDir entries s ops t)
    {x : Listed} (hx : ∀ op ∈ ops, ¬ op.Touches x.volumeId) : x ∈ entries t ↔ x ∈ entries s := by
  induction hr with
  | nil s => exact Iff.rfl
  | @cons s t op ops hstep hrest ih =>
    have htail := ih fun op' hop => hx op' (List.mem_cons_of_mem op hop)
    exact htail.trans (hstep.frame (hx op List.mem_cons_self))

theorem runs_runAll (hs : ActsAsStore h entries paths) (tmpDir : String) (ops : List Operation) (s : σ) :
    Runs h tmpDir entries s ops (runAll h tmpDir ops s) := by
  induction ops generalizing s with
  | nil => exact .nil s
  | cons op ops ih => exact .cons (operation_step hs tmpDir op s) (ih _)

/-- On a host that behaves as a store, whatever fails and whenever the limit is reached, each operation
of a run is a step of the machine, and what none of them is about is the same after the run. -/
theorem lifecycle (hs : ActsAsStore h entries paths) (tmpDir : String) (ops : List Operation) (s : σ) :
    Runs h tmpDir entries s ops (runAll h tmpDir ops s) ∧
      ∀ x : Listed, (∀ op ∈ ops, ¬ op.Touches x.volumeId) →
        (x ∈ entries (runAll h tmpDir ops s) ↔ x ∈ entries s) := by
  have hruns := runs_runAll hs tmpDir ops s
  exact ⟨hruns, fun x hx => hruns.frame hx⟩

end

/-! ## On a shelf -/

namespace Shelf

theorem entries_put (s : Shelf) (v : VolumeId) :
    {x | x ∈ (s.put ⟨v.format, v.contentType⟩).entries} = Entries.put {x | x ∈ s.entries} v := by
  ext x
  simp [put, Entries.put]

theorem entries_remove (s : Shelf) (id : String) :
    {x | x ∈ (s.remove id).entries} = Entries.remove {x | x ∈ s.entries} id := by
  ext x
  simp [remove, Entries.remove]

theorem holds_iff (s : Shelf) (id : String) : s.holds id = true ↔ Holds {x | x ∈ s.entries} id := by
  simp [holds, Holds]

/-- Where a shelf for a datastore has its files. -/
def paths (datastore name : String) : Option String := if name = datastore then some root else none

theorem eq_of_paths {datastore name path : String} (hp : paths datastore name = some path) : name = datastore := by
  unfold paths at hp
  split at hp
  · assumption
  · cases hp

theorem conforms_perform (datastore : String) (s : Shelf) (call : BackendCall) :
    Conforms (paths datastore) {x | x ∈ s.entries} {x | x ∈ (s.perform datastore (.ok ()) call).2.entries}
      (.backend call) (some (s.perform datastore (.ok ()) call).1) := by
  cases call with
  | listFiles node name => exact ⟨rfl, fun x hx => hx, fun x hx _ => hx⟩
  | datastore name => exact ⟨rfl, rfl⟩
  | release => exact rfl
  | apiUpload node name u => exact s.entries_put ⟨name, u.contentType, u.fileName⟩
  | streamUpload node path u =>
    intro name hname
    rw [eq_of_paths hname]
    exact s.entries_put ⟨datastore, u.kindName, u.fileName⟩
  | deleteFile node name id =>
    change Conforms (paths datastore) _ {x | x ∈ (s.delete id).2.entries} (.backend (.deleteFile node name id))
      (some (s.delete id).1)
    unfold delete
    split
    · rename_i hholds
      exact ⟨(s.holds_iff id).1 hholds, s.entries_remove id⟩
    · rename_i hholds
      exact ⟨fun hc => hholds ((s.holds_iff id).2 hc), rfl⟩

theorem actsAsStore (datastore : String) :
    ActsAsStore (host datastore (.ok ())) (fun s => {x | x ∈ s.entries}) (paths datastore) where
  conforms e hg := by
    obtain ⟨c, reply, s, t⟩ := e
    cases c with
    | backend call => rcases hg with hg | hg <;> rw [hg] <;> exact conforms_perform datastore s call
    | here call => exact congrArg (fun l : List Listed => {x | x ∈ l}) (entries_of_genuine hg rfl)
  distinct a b path ha hb := (eq_of_paths ha).trans (eq_of_paths hb).symm
  act d s := rfl
  setLimit l s := rfl

end Shelf

/-- A file comes and goes. -/
theorem lifecycle_snippet :
    Runs (Shelf.host "local" (.ok ())) "tmp" (fun s => {x | x ∈ s.entries}) .empty
        [.create Shelf.snippet, .read Shelf.snippet Shelf.recorded, .delete Shelf.snippet Shelf.recorded]
        (runAll (Shelf.host "local" (.ok ())) "tmp"
          [.create Shelf.snippet, .read Shelf.snippet Shelf.recorded, .delete Shelf.snippet Shelf.recorded] .empty) ∧
      (runAll (Shelf.host "local" (.ok ())) "tmp" [.create Shelf.snippet] .empty).entries =
        [⟨"local:snippets/notes.yaml", "snippets"⟩] :=
  ⟨(lifecycle (Shelf.actsAsStore "local") "tmp" _ .empty).1, rfl⟩

end FilePlacement
