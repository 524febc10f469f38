import FilePlacement.Proofs.Course
import Mathlib.Data.Set.Insert

/-!
# Stores as sets of entries

What it means for a host to behave as a store (`ActsAsStore`): a listing tells the entries, an upload
that succeeds puts one entry, a deletion takes one away or finds that it is not there, and whatever
else is asked, and whatever fails or is cut off, changes nothing. Which calls fail, and when the limit
is reached, is left open.
-/

namespace FilePlacement

/-! ## Sets of entries -/

namespace Entries

def Holds (c : Set Listed) (id : String) : Prop := ∃ x ∈ c, x.volumeId = id

/-- The entries with one more, in the place of the one with its identity. -/
def put (c : Set Listed) (v : VolumeId) : Set Listed :=
  {x | x = ⟨v.format, v.contentType⟩ ∨ x ∈ c ∧ x.volumeId ≠ v.format}

def remove (c : Set Listed) (id : String) : Set Listed := {x | x ∈ c ∧ x.volumeId ≠ id}

theorem holds_put (c : Set Listed) (v : VolumeId) : Holds (put c v) v.format := ⟨_, Or.inl rfl, rfl⟩

theorem not_holds_remove (c : Set Listed) (id : String) : ¬ Holds (remove c id) id :=
  fun ⟨_, hx, hid⟩ => hx.2 hid

theorem holds_remove_of_ne {c : Set Listed} {id x : String} (hx : x ≠ id) : Holds (remove c id) x ↔ Holds c x := by
  constructor
  · rintro ⟨y, hy, rfl⟩
    exact ⟨y, hy.1, rfl⟩
  · rintro ⟨y, hy, rfl⟩
    exact ⟨y, ⟨hy, hx⟩, rfl⟩

theorem mem_put_of_ne {c : Set Listed} {v : VolumeId} {x : Listed} (hx : x.volumeId ≠ v.format) :
    x ∈ put c v ↔ x ∈ c := by
  refine ⟨?_, fun hc => Or.inr ⟨hc, hx⟩⟩
  rintro (rfl | hc)
  · exact absurd rfl hx
  · exact hc.1

theorem holds_put_of_ne {c : Set Listed} {v : VolumeId} {x : String} (hx : x ≠ v.format) :
    Holds (put c v) x ↔ Holds c x := by
  constructor
  · rintro ⟨y, hy, rfl⟩
    exact ⟨y, (mem_put_of_ne hx).1 hy, rfl⟩
  · rintro ⟨y, hy, rfl⟩
    exact ⟨y, (mem_put_of_ne hx).2 hy, rfl⟩

theorem remove_put (c : Set Listed) (v : VolumeId) : remove (put c v) v.format = remove c v.format := by
  ext x
  exact ⟨fun hx => ⟨(mem_put_of_ne hx.2).1 hx.1, hx.2⟩, fun hx => ⟨(mem_put_of_ne hx.2).2 hx.1, hx.2⟩⟩

theorem remove_of_not_holds {c : Set Listed} {id : String} (hc : ¬ Holds c id) : remove c id = c := by
  ext x
  exact ⟨fun hx => hx.1, fun hx => ⟨hx, fun hid => hc ⟨x, hx, hid⟩⟩⟩

/-- The identity is one of a datastore. -/
def BelongsTo (datastore id : String) : Prop := ∃ rest, id = datastore ++ ":" ++ rest

/-- A listing has all entries of a datastore, maybe others. -/
def ListsAll (c : Set Listed) (datastore : String) (listing : List Listed) : Prop :=
  (∀ x ∈ listing, x ∈ c) ∧ ∀ x ∈ c, BelongsTo datastore x.volumeId → x ∈ listing

end Entries

open Entries

/-! ## Stores -/

/-- What a call may answer, and what it makes of the entries. Where a datastore has its files is told by
`paths`. -/
def Conforms (paths : String → Option String) (before after : Set Listed) : (c : Call) → Option c.Reply → Prop
  | .backend (.listFiles _ datastore), some (.ok listing) => after = before ∧ ListsAll before datastore listing
  | .backend (.datastore name), some (.ok d) => after = before ∧ Datastore.path d = paths name
  | .backend (.apiUpload _ datastore u), some (.ok _) => after = put before ⟨datastore, u.contentType, u.fileName⟩
  | .backend (.streamUpload _ path u), some (.ok _) =>
    ∀ datastore, paths datastore = some path → after = put before ⟨datastore, u.kindName, u.fileName⟩
  | .backend (.deleteFile _ _ id), some (.ok _) => Holds before id ∧ after = remove before id
  | .backend (.deleteFile _ _ id), some (.error (.notFound _)) => ¬ Holds before id ∧ after = before
  | _, _ => after = before

variable {σ : Type}

/-- A host that behaves as a store whenever it is asked. -/
structure ActsAsStore (h : Host Reconciling σ) (entries : σ → Set Listed) (paths : String → Option String) : Prop where
  conforms : ∀ e : Entry Reconciling σ, e.Genuine h →
    Conforms paths (entries e.before) (entries e.after) e.call e.answer
  /-- No two datastores have their files in one place. -/
  distinct : ∀ a b path, paths a = some path → paths b = some path → a = b
  act : ∀ d s, entries (h.act d s) = entries s
  setLimit : ∀ l s, entries (h.setLimit l s) = entries s

namespace Conforms

variable {paths : String → Option String} {before after : Set Listed} {c : Call} {reply : Option c.Reply}

/-- Quiet requests change nothing. -/
theorem eq_of_quiet (hc : Conforms paths before after c reply) (hq : c.Quiet) : after = before := by
  unfold Conforms at hc
  split at hc
  · exact hc.1
  · exact hc.1
  · cases hq.1
  · cases hq.1
  · cases hq.2
  · cases hq.2
  · exact hc

/-- What does not succeed changes nothing. -/
theorem eq_of_not_succeeded (hc : Conforms paths before after c reply) (hf : c.succeeded reply = false) :
    after = before := by
  unfold Conforms at hc
  split at hc
  · exact hc.1
  · exact hc.1
  · cases hf
  · cases hf
  · cases hf
  · exact hc.2
  · exact hc

/-- A datastore has its files where the backend says. -/
theorem path_of_reports (hc : Conforms paths before after c reply) {datastore path : String}
    (hr : c.Reports datastore path reply) : paths datastore = some path := by
  unfold Call.Reports at hr
  split at hr
  · obtain ⟨rfl, hd⟩ := hr
    exact hc.2.symm.trans hd
  · exact hr.elim

/-- An upload that succeeds puts its volume. -/
theorem eq_put (hc : Conforms paths before after c reply) {datastore : String} {v : VolumeId}
    (hv : c.volume? datastore = some v) (hok : c.succeeded reply = true)
    (haddr : ∀ node path u, c = .backend (.streamUpload node path u) → paths datastore = some path) :
    after = put before v := by
  unfold Call.succeeded at hok
  split at hok
  · rename_i call _
    cases call with
    | apiUpload node name u =>
      cases hv
      exact hc
    | streamUpload node path u =>
      cases hv
      exact hc datastore (haddr node path u rfl)
    | _ => cases hv
  · cases hok

theorem eq_remove {node datastore id : String} {reply : Option (Except Fault Unit)}
    (hc : Conforms paths before after (.backend (.deleteFile node datastore id)) reply)
    (hok : Call.succeeded (.backend (.deleteFile node datastore id)) reply = true) : after = remove before id := by
  match reply, hc, hok with
  | some (.ok _), hc, _ => exact hc.2

/-- A deletion that finds nothing has nothing to take away. -/
theorem eq_remove_of_notFound {node datastore id what : String}
    (hc : Conforms paths before after (.backend (.deleteFile node datastore id)) (some (.error (.notFound what)))) :
    after = remove before id := hc.2.trans (remove_of_not_holds hc.1).symm

end Conforms

namespace ActsAsStore

variable {h : Host Reconciling σ} {entries : σ → Set Listed} {paths : String → Option String} {s t : σ}
  {log : List (Entry Reconciling σ)}

theorem conforms_answer (hs : ActsAsStore h entries paths) {c : Call} {s t : σ} {reply : c.Reply}
    (hr : h.answer c s = (reply, t)) : Conforms paths (entries s) (entries t) c (some reply) := by
  have hc := hs.conforms _ (Entry.genuine_asked h c s)
  obtain ⟨rfl, rfl⟩ := Prod.mk.inj hr
  exact hc

theorem eq_of_quiet_answer (hs : ActsAsStore h entries paths) {c : Call} (hq : c.Quiet) (s : σ) :
    entries (h.answer c s).2 = entries s := (hs.conforms_answer (c := c) rfl).eq_of_quiet hq

theorem eq_of_quietLog (hs : ActsAsStore h entries paths) (hl : Linked h entries s log t) (hq : QuietLog log) :
    entries t = entries s := hl.keeps fun e he hg => (hs.conforms e hg).eq_of_quiet (hq e he)

/-- An upload at the end of a log puts its volume if it succeeds, and changes nothing otherwise. -/
theorem eq_of_uploads (hs : ActsAsStore h entries paths) (hl : Linked h entries s log t) {spec : Spec}
    {v : VolumeId} {success : Bool} (hu : Uploads spec v success log) :
    entries t = if success then put (entries s) v else entries s := by
  obtain ⟨pre, e, rfl, hpre, -, hv, hsuccess, haddr⟩ := hu
  obtain ⟨m, hfirst, hbefore, hg, hafter⟩ := linked_append.1 hl
  have hc := hs.conforms e hg
  rw [← hs.eq_of_quietLog hfirst hpre, hbefore]
  refine hafter.symm.trans ?_
  cases success with
  | true =>
    refine hc.eq_put hv hsuccess fun node path u hcall => ?_
    obtain ⟨e', he', hr⟩ := haddr node path u hcall
    exact (hs.conforms e' (hfirst.genuine e' he')).path_of_reports hr
  | false => exact hc.eq_of_not_succeeded hsuccess

end ActsAsStore

end FilePlacement
