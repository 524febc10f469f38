import FilePlacement.Proofs.Course
import FilePlacement.World

/-!
# A shelf

The smallest backend that keeps what it is given: one datastore as a list of entries, beside a world
that answers what is asked locally. No call takes time. Every upload is put on the shelf, and then gets
the verdict that the shelf was made with: with another verdict than success it is a backend that stores
a file and fails all the same.
-/

namespace FilePlacement

structure Shelf where
  entries : List Listed
  world : World

namespace Shelf

def empty : Shelf := ⟨[], .ofTree .empty⟩

/-- Where the shelf has its files on a node. -/
def root : String := "/shelf"

/-- Puts an entry in the place of the one with its identity. -/
def put (s : Shelf) (e : Listed) : Shelf :=
  { s with entries := e :: s.entries.filter fun x => x.volumeId != e.volumeId }

def remove (s : Shelf) (id : String) : Shelf :=
  { s with entries := s.entries.filter fun x => x.volumeId != id }

def holds (s : Shelf) (id : String) : Bool := s.entries.any fun x => x.volumeId == id

/-- Takes an entry off that has to be there. -/
def delete (s : Shelf) (id : String) : Except Fault Unit × Shelf :=
  if s.holds id then (.ok (), s.remove id) else (.error (.notFound id), s)

theorem delete_snd (s : Shelf) (id : String) : (s.delete id).2 = s.remove id := by
  unfold delete
  split
  · rfl
  · rename_i hno
    have hall : s.entries.filter (fun x => x.volumeId != id) = s.entries := by
      refine List.filter_eq_self.2 fun x hx => ?_
      simp only [holds, List.any_eq_true, not_exists, not_and] at hno
      simpa using hno x hx
    exact congrArg (Shelf.mk · s.world) hall.symm

/-- What the backend of the datastore does. -/
def perform (datastore : String) (verdict : Except Fault Unit) (s : Shelf) :
    (call : BackendCall) → Except Fault call.Result × Shelf
  | .listFiles .. => (.ok s.entries, s)
  | .datastore name => (.ok ⟨name, if name = datastore then some root else none, []⟩, s)
  | .release => (.ok .minimum, s)
  | .apiUpload _ name u => (verdict, s.put ⟨VolumeId.format ⟨name, u.contentType, u.fileName⟩, u.contentType⟩)
  | .streamUpload _ _ u => (verdict, s.put ⟨VolumeId.format ⟨datastore, u.kindName, u.fileName⟩, u.kindName⟩)
  | .deleteFile _ _ id => s.delete id

def backend (datastore : String) (verdict : Except Fault Unit) : Host Storage Shelf where
  answer call s := s.perform datastore verdict call
  answerInTime call s := (some (s.perform datastore verdict call).1, (s.perform datastore verdict call).2)
  act d _ := nomatch d
  setLimit _ s := s

/-- A shelf for a datastore. -/
def host (datastore : String) (verdict : Except Fault Unit) : Host Reconciling Shelf :=
  Host.join (backend datastore verdict) (World.surroundings.zoom Shelf.world fun s w => { s with world := w })

/-- A text that is to be streamed into the directory of snippets. -/
def snippet : Spec := ⟨"node", "local", none, none, some ⟨"text", "notes.yaml", 0⟩, some "0600", true, 60⟩

/-- The record of that text. -/
def recorded : State := { State.blank with id := "local:snippets/notes.yaml" }

variable {datastore : String} {verdict : Except Fault Unit} {e : Entry Reconciling Shelf}

theorem after_of_genuine (hg : e.Genuine (host datastore verdict)) {call : BackendCall} (hc : e.call = .backend call) :
    e.after = (e.before.perform datastore verdict call).2 := by
  obtain ⟨c, reply, s, t⟩ := e
  obtain rfl : c = .backend call := hc
  rcases hg with hg | hg <;> exact congrArg Entry.after hg

/-- Nothing local puts anything on the shelf or takes it off. -/
theorem entries_of_genuine (hg : e.Genuine (host datastore verdict)) {call : LocalCall} (hc : e.call = .here call) :
    e.after.entries = e.before.entries := by
  obtain ⟨c, reply, s, t⟩ := e
  obtain rfl : c = .here call := hc
  rcases hg with hg | hg <;> exact (congrArg (fun e => e.after.entries) hg).trans rfl

end Shelf

end FilePlacement
