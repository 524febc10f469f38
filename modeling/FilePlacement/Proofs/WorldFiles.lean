import FilePlacement.Memory
import FilePlacement.Proofs.LocalFiles

/-!
# The files of a world

A walk goes through directories only. So whatever is put where no directory is, the walk that leads
there still does, and what has been written is what is read (`contents_put`). The files of a machine
with a store in memory are therefore kept as creating relies on (`Memory.keepsFiles`).
-/

namespace FilePlacement

namespace FileTree

/-- A walk leads to the same place where there are the same directories, or more. -/
theorem walk_mono {t t' : FileTree} (hd : ∀ l, t.node? l = some .directory → t'.node? l = some .directory)
    {names : List (List Char)} {here loc : Location} (hw : t.walk here names = .ok loc) :
    t'.walk here names = .ok loc := by
  induction names generalizing here with
  | nil => exact hw
  | cons c r ih =>
    unfold walk at hw ⊢
    split at hw
    · cases hw
    · cases hw
    · rename_i hn
      rw [hd here hn]
      dsimp only
      split at hw
      · rename_i hdot
        rw [if_pos hdot]
        exact ih hw
      · rename_i hdot
        rw [if_neg hdot]
        split at hw
        · rename_i hup
          rw [if_pos hup]
          exact ih hw
        · rename_i hup
          rw [if_neg hup]
          split at hw
          · cases hw
          · rename_i hlong
            rw [if_neg hlong]
            exact ih hw

/-- What is put where no directory is does not get into the way of a walk. -/
theorem locate_put {t : FileTree} {path : String} {loc : Location} {n : FileNode} (hroot : loc ≠ [])
    (hloc : t.node? loc ≠ some .directory) (hl : t.locate path = .ok loc) : (t.put loc n).locate path = .ok loc := by
  have hd : ∀ l, t.node? l = some .directory → (t.put loc n).node? l = some .directory := by
    intro l hdir
    have hne : l ≠ loc := fun heq => hloc (heq ▸ hdir)
    rw [node?_put t loc n l hroot, if_neg hne]
    exact hdir
  obtain ⟨entrance, he, hw⟩ := bind_eq_ok.1 hl
  exact bind_eq_ok.2 ⟨entrance, he, walk_mono hd hw⟩

theorem contents_of_file {t : FileTree} {path : String} {loc : Location} {data : FileData}
    (hl : t.locate path = .ok loc) (hn : t.node? loc = some (.file data)) : t.contents path = .ok data.bytes := by
  unfold contents openFile find
  simp [hl, hn, bind, Except.bind, Except.map, pure, Except.pure]

/-- What is put under a path name is read under it. -/
theorem contents_put {t : FileTree} {path : String} {loc : Location} (data : FileData)
    (hloc : t.node? loc ≠ some .directory) (hl : t.locate path = .ok loc) :
    (t.put loc (.file data)).contents path = .ok data.bytes := by
  have hroot : loc ≠ [] := by
    rintro rfl
    exact hloc rfl
  have hn : (t.put loc (.file data)).node? loc = some (.file data) := by
    rw [node?_put t loc _ loc hroot, if_pos rfl]
  exact contents_of_file (locate_put hroot hloc hl) hn

theorem contents_append {t t' : FileTree} {path : String} {bytes old : ByteArray} (ha : t.append path bytes = .ok t')
    (hold : t.contents path = .ok old) : t'.contents path = .ok (old ++ bytes) := by
  obtain ⟨loc, hl, ha⟩ := bind_eq_ok.1 ha
  split at ha
  · cases ha
  · rename_i data hn
    cases ha
    cases hold.symm.trans (contents_of_file hl hn)
    exact contents_put _ (by rw [hn]; rintro ⟨⟩) hl
  · cases ha

theorem contents_create {t t' : FileTree} {path : String} (hc : t.create path = .ok t') :
    t'.contents path = .ok .empty := by
  obtain ⟨entrance, -, hc⟩ := bind_eq_ok.1 hc
  split at hc
  · cases hc
  · obtain ⟨loc, hl, hc⟩ := bind_eq_ok.1 hc
    split at hc
    · cases hc
    · rename_i data hn
      cases hc
      exact contents_put _ (by rw [hn]; rintro ⟨⟩) hl
    · rename_i hn
      cases hc
      exact contents_put _ (by rw [hn]; rintro ⟨⟩) hl

end FileTree

namespace World

theorem contents_makeTemporary {w : World} {dir stem path : String} (hm : (w.makeTemporary dir stem).1 = .ok path) :
    (w.makeTemporary dir stem).2.tree.contents path = .ok .empty := by
  unfold makeTemporary at hm ⊢
  cases hc : w.tree.create (FileTree.pathIn dir (temporaryName stem w.names)) with
  | error e =>
    simp only [hc] at hm
    cases hm
  | ok tree =>
    simp only [hc] at hm
    cases hm
    simpa only [hc] using FileTree.contents_create hc

theorem contents_append {w : World} {path : String} {bytes old : ByteArray} (ha : (w.append path bytes).1 = .ok ())
    (hold : w.tree.contents path = .ok old) : (w.append path bytes).2.tree.contents path = .ok (old ++ bytes) := by
  unfold append at ha ⊢
  cases hc : w.tree.append path bytes with
  | error e =>
    simp only [hc] at ha
    cases ha
  | ok tree => simpa only [hc] using FileTree.contents_append hc hold

/-- A local request is answered as files that nobody else writes to ask for. -/
theorem conforms_answerLocal (w : World) (call : LocalCall) :
    FilesConform w.tree.contents (w.answerLocal call).2.tree.contents (.here call) (some (w.answerLocal call).1) := by
  cases call with
  | exchange request => exact rfl
  | makeDirectories path => trivial
  | makeTemporary dir stem =>
    change FilesConform w.tree.contents (w.makeTemporary dir stem).2.tree.contents (.here (.makeTemporary dir stem))
      (some (w.makeTemporary dir stem).1)
    cases hm : (w.makeTemporary dir stem).1 with
    | error e => trivial
    | ok path => exact contents_makeTemporary hm
  | append path bytes =>
    change FilesConform w.tree.contents (w.append path bytes).2.tree.contents (.here (.append path bytes))
      (some (w.append path bytes).1)
    cases ha : (w.append path bytes).1 with
    | error e => trivial
    | ok u => exact fun old hold => contents_append ha hold
  | contents path => exact ⟨rfl, rfl⟩
  | stat path => exact rfl

/-- So is one that nobody waits for. -/
theorem conforms_abandon (w : World) (call : LocalCall) :
    FilesConform w.tree.contents (w.abandon call).tree.contents (.here call) none := by
  cases call <;> trivial

end World

/-! ## The store in memory -/

namespace Memory

/-- What reading a path name gives on the machine of a store. -/
def contents (m : Memory) : Files := m.world.tree.contents

theorem perform_world (m : Memory) (d : Disturbance) (call : BackendCall) : (m.perform d call).2.world = m.world := by
  have hreceive : ∀ u : Upload, (m.receive d u).2.world = m.world := by
    intro u
    unfold receive
    split
    · rfl
    · dsimp only
      split <;> rfl
  cases call with
  | apiUpload node name u => exact hreceive u
  | streamUpload node path u => exact hreceive u
  | deleteFile node name id =>
    dsimp only [perform]
    split <;> rfl
  | _ => rfl

theorem settle_world (m : Memory) (d : Disturbance) (call : BackendCall) : (m.settle d call).2.world = m.world := by
  unfold settle
  split
  · rfl
  · exact m.perform_world d call

/-- The backend has no hand in the local files. -/
theorem answer_contents (m : Memory) (call : BackendCall) : (backend.answer call m).2.contents = m.contents :=
  congrArg (fun w => w.tree.contents) (settle_world _ _ call)

theorem answerInTime_contents (m : Memory) (call : BackendCall) :
    (backend.answerInTime call m).2.contents = m.contents := by
  dsimp only [backend]
  split
  · exact congrArg (fun w => w.tree.contents) (settle_world _ _ call)
  · split
    · exact congrArg (fun w => w.tree.contents) (settle_world _ _ call)
    · rfl

theorem conforms_answer (m : Memory) (call : LocalCall) :
    FilesConform m.contents (host.answer (.here call) m).2.contents (.here call)
      (some (host.answer (.here call) m).1) := m.world.conforms_answerLocal call

theorem conforms_answerInTime (m : Memory) (call : LocalCall) :
    FilesConform m.contents (host.answerInTime (.here call) m).2.contents (.here call)
      (host.answerInTime (.here call) m).1 := by
  cases hover : m.world.time.isOver with
  | false =>
    have hanswer : host.answerInTime (.here call) m =
        (some (host.answer (.here call) m).1, (host.answer (.here call) m).2) := by
      simp only [host, Host.join, Host.zoom, World.surroundings, hover]
      rfl
    rw [hanswer]
    exact m.conforms_answer call
  | true =>
    have hcut : host.answerInTime (.here call) m = (none, { m with world := m.world.abandon call }) := by
      simp only [host, Host.join, Host.zoom, World.surroundings, hover]
      rfl
    rw [hcut]
    exact m.world.conforms_abandon call

/-- A store in memory keeps local files as creating relies on. -/
theorem keepsFiles : KeepsFiles host contents where
  conforms e hg := by
    obtain ⟨c, reply, m, n⟩ := e
    cases c with
    | backend call =>
      have hkeep : n.contents = m.contents := by
        rcases hg with hg | hg
        · exact (congrArg (fun e => e.after.contents) hg).trans (m.answerInTime_contents call)
        · exact (congrArg (fun e => e.after.contents) hg).trans (m.answer_contents call)
      cases call <;> exact hkeep
    | here call =>
      rcases hg with hg | hg <;> rw [hg]
      · exact m.conforms_answerInTime call
      · exact m.conforms_answer call
  setLimit l m := rfl

end Memory

end FilePlacement
