import FilePlacement.Files.Tree
import FilePlacement.Proofs.WorldFiles

/-!
# What changes in a file tree

The regular files of a tree by their locations (`file?`), and what an operation can change of them
(`Changes`): directories only come, and a file changes only where the path name that the operation is given
leads to. Where a path name leads to, if it leads anywhere, can be told without the tree (`goal`,
`locate_eq_goal`), so that a new file lies in the directory that it was made in (`goal_pathIn`).
-/

namespace FilePlacement

namespace FileTree

/-- The regular file at a location. -/
def file? (t : FileTree) (loc : Location) : Option FileData :=
  match t.node? loc with
  | some (.file data) => some data
  | _ => none

theorem file?_of_directory {t : FileTree} {loc : Location} (hd : t.node? loc = some .directory) :
    t.file? loc = none := by
  unfold file?
  rw [hd]

theorem file?_congr {t t' : FileTree} {loc : Location} (hn : t'.node? loc = t.node? loc) : t'.file? loc = t.file? loc := by
  unfold file?
  rw [hn]

/-! ## Where path names lead to -/

/-- Where a component leads to from a location. -/
def turn (here : Location) (c : List Char) : Location :=
  if c = [] ∨ c = ['.'] then here else if c = ['.', '.'] then here.dropLast else here ++ [String.ofList c]

theorem turn_nil (here : Location) : turn here [] = here := by simp [turn]

/-- The location that a path name stands for, whatever there is. -/
def goal (t : FileTree) (path : String) : Location :=
  (Text.pieces '/' path.toList).foldl turn (if path.toList.head? = some '/' then [] else t.workingDirectory)

theorem walk_eq {t : FileTree} {here loc : Location} {names : List (List Char)} (hw : t.walk here names = .ok loc) :
    loc = names.foldl turn here := by
  induction names generalizing here with
  | nil => exact (Except.ok.inj hw).symm
  | cons c r ih =>
    unfold walk at hw
    rw [List.foldl_cons, turn]
    split at hw
    · cases hw
    · cases hw
    · split at hw
      · rename_i hdot
        rw [if_pos hdot]
        exact ih hw
      · rename_i hdot
        rw [if_neg hdot]
        split at hw
        · rename_i hup
          rw [if_pos hup]
          exact ih hw
        · rename_i hup
          rw [if_neg hup]
          split at hw
          · cases hw
          · exact ih hw

theorem foldl_start (t : FileTree) (path : List Char) :
    (t.start path).2.foldl turn (t.start path).1 =
      (Text.pieces '/' path).foldl turn (if path.head? = some '/' then [] else t.workingDirectory) := by
  unfold start
  split
  · simp [Text.pieces, turn_nil]
  · rename_i hno
    rw [if_neg]
    intro hhead
    obtain ⟨rest, hrest⟩ := List.head?_eq_some_iff.1 hhead
    exact hno rest hrest

theorem locate_eq_goal {t : FileTree} {path : String} {loc : Location} (hl : t.locate path = .ok loc) :
    loc = t.goal path := by
  obtain ⟨entrance, he, hw⟩ := bind_eq_ok.1 hl
  unfold enter at he
  dsimp only at he
  split at he
  · cases he
  · split at he
    · cases he
    · split at he
      · cases he
      · have hstart := foldl_start t path.toList
        rw [Except.ok.inj he] at hstart
        exact (walk_eq hw).trans hstart

/-- A name that something in a directory can have. -/
structure IsName (name : String) : Prop where
  ne_nil : name.toList ≠ []
  ne_dot : name.toList ≠ ['.']
  ne_dots : name.toList ≠ ['.', '.']
  slash : '/' ∉ name.toList

theorem IsName.of_length {name : String} (hl : 2 < name.toList.length) (hs : '/' ∉ name.toList) : IsName name := by
  refine ⟨?_, ?_, ?_, hs⟩ <;> intro heq <;> rw [heq] at hl <;> simp at hl

theorem IsName.turn_eq {name : String} (hn : IsName name) (here : Location) :
    turn here name.toList = here ++ [name] := by
  unfold turn
  rw [if_neg (not_or.2 ⟨hn.ne_nil, hn.ne_dot⟩), if_neg hn.ne_dots, String.ofList_toList]

theorem goal_pathIn (t : FileTree) (dir : String) {name : String} (hn : IsName name) :
    t.goal (pathIn dir name) = t.goal dir ++ [name] := by
  have hhead : name.toList.head? ≠ some '/' := fun h => hn.slash (List.mem_of_mem_head? h)
  have hname : Text.pieces '/' name.toList = [name.toList] := Text.pieces_of_not_mem hn.slash
  unfold pathIn
  by_cases hempty : dir = ""
  · subst hempty
    simp [goal, hhead, hname, hn.turn_eq, turn_nil, Text.pieces]
  have hdir : dir.toList ≠ [] := fun h => hempty (String.toList_eq_nil_iff.1 h)
  rw [if_neg (by simp [hempty, hhead])]
  split
  · -- The slash at the end of the directory's name becomes the one in front of the new name.
    rename_i hlast
    obtain ⟨front, hfront⟩ := List.getLast?_eq_some_iff.1 (eq_of_beq hlast)
    have hsame : (front ++ '/' :: name.toList).head? = (front ++ ['/']).head? := by cases front <;> rfl
    simp only [goal, String.toList_append, hfront, List.append_assoc, List.singleton_append, Text.pieces_append, hname,
      List.foldl_append, hsame, List.foldl_cons, List.foldl_nil, hn.turn_eq, turn_nil, Text.pieces]
  · have hsame : (dir.toList ++ '/' :: name.toList).head? = dir.toList.head? := by
      cases hd : dir.toList with
      | nil => exact absurd hd hdir
      | cons c r => rfl
    simp [goal, Text.pieces_append, hname, hn.turn_eq, hsame]

/-! ## Changes -/

/-- No directory gets lost, and of the regular files only those at some locations change. -/
structure Changes (before after : FileTree) (at? : Location → Prop) : Prop where
  workingDirectory : after.workingDirectory = before.workingDirectory
  directories : ∀ loc, before.node? loc = some .directory → after.node? loc = some .directory
  files : ∀ loc, ¬ at? loc → after.file? loc = before.file? loc

variable {t t' t'' : FileTree} {at? at?' : Location → Prop} {path : String} {loc : Location}

theorem Changes.refl (t : FileTree) : Changes t t at? := ⟨rfl, fun _ hd => hd, fun _ _ => rfl⟩

theorem Changes.trans (h : Changes t t' at?) (h' : Changes t' t'' at?) : Changes t t'' at? where
  workingDirectory := h'.workingDirectory.trans h.workingDirectory
  directories loc hd := h'.directories loc (h.directories loc hd)
  files loc hl := (h'.files loc hl).trans (h.files loc hl)

theorem Changes.mono (h : Changes t t' at?) (ha : ∀ loc, at? loc → at?' loc) : Changes t t' at?' :=
  ⟨h.workingDirectory, h.directories, fun loc hl => h.files loc fun hat => hl (ha loc hat)⟩

theorem Changes.goal (h : Changes t t' at?) (path : String) : t'.goal path = t.goal path := by
  unfold FileTree.goal
  rw [h.workingDirectory]

/-- A path name that leads anywhere leads there still. -/
theorem Changes.locate (h : Changes t t' at?) (hl : t.locate path = .ok loc) : t'.locate path = .ok loc := by
  have henter : t'.enter path = t.enter path := by
    unfold enter start
    rw [h.workingDirectory]
  obtain ⟨entrance, he, hw⟩ := bind_eq_ok.1 hl
  exact bind_eq_ok.2 ⟨entrance, henter.trans he, walk_mono h.directories hw⟩

theorem ne_root (hn : t.node? loc ≠ some .directory) : loc ≠ [] := by
  rintro rfl
  exact hn rfl

/-- What is put where no directory is changes the file there at most. -/
theorem changes_put (hn : t.node? loc ≠ some .directory) (n : FileNode) : Changes t (t.put loc n) (· = loc) where
  workingDirectory := rfl
  directories l hd := by
    have hne : l ≠ loc := fun heq => hn (heq ▸ hd)
    rw [node?_put t loc n l (ne_root hn), if_neg hne]
    exact hd
  files l hl := file?_congr (by rw [node?_put t loc n l (ne_root hn), if_neg hl])

theorem changes_remove (hn : t.node? loc ≠ some .directory) : Changes t (t.remove loc) (· = loc) where
  workingDirectory := rfl
  directories l hd := by
    have hne : l ≠ loc := fun heq => hn (heq ▸ hd)
    rw [node?_remove t loc l (ne_root hn), if_neg hne]
    exact hd
  files l hl := file?_congr (by rw [node?_remove t loc l (ne_root hn), if_neg hl])

/-- A directory is made where nothing is. -/
theorem changes_put_directory (hn : t.node? loc = none) : Changes t (t.put loc .directory) fun _ => False where
  workingDirectory := rfl
  directories := (changes_put (by rw [hn]; rintro ⟨⟩) .directory).directories
  files l _ := by
    have hroot : loc ≠ [] := ne_root (by rw [hn]; rintro ⟨⟩)
    by_cases hl : l = loc
    · subst hl
      rw [file?_of_directory (by rw [node?_put t l _ l hroot, if_pos rfl])]
      unfold file?
      rw [hn]
    · exact file?_congr (by rw [node?_put t loc _ l hroot, if_neg hl])

/-! ## Operations -/

theorem changes_makeDirectory (hm : t.makeDirectory path = .ok t') : Changes t t' fun _ => False := by
  obtain ⟨entrance, -, hm⟩ := bind_eq_ok.1 hm
  split at hm
  · cases hm
  · split at hm
    · cases hm
    · dsimp only at hm
      split at hm
      · cases hm
      · rename_i hn
        cases hm
        exact changes_put_directory hn

theorem changes_makeChain (t : FileTree) (paths : List String) : Changes t (t.makeChain paths).1 fun _ => False := by
  induction paths generalizing t with
  | nil => exact .refl t
  | cons path above ih =>
    have habove := ih t
    unfold makeChain
    split
    · rename_i hm
      exact changes_makeDirectory hm
    · split
      · rename_i hrest
        rw [hrest] at habove
        exact habove
      · rename_i u hrest
        have hu : Changes t u fun _ => False := by rw [hrest] at habove; exact habove
        split
        · rename_i hm
          exact hu.trans (changes_makeDirectory hm)
        · exact hu
    · exact .refl t

theorem changes_makeDirectories (t : FileTree) (path : String) :
    Changes t (t.makeDirectories path).1 fun _ => False := by
  unfold makeDirectories
  split
  · exact .refl t
  · exact changes_makeChain t _

/-- A new file lies where its path name leads to. -/
theorem changes_create (hc : t.create path = .ok t') :
    t'.locate path = .ok (t.goal path) ∧ Changes t t' (· = t.goal path) := by
  obtain ⟨entrance, -, hc⟩ := bind_eq_ok.1 hc
  split at hc
  · cases hc
  · obtain ⟨loc, hl, hc⟩ := bind_eq_ok.1 hc
    obtain rfl := locate_eq_goal hl
    split at hc
    · cases hc
    · rename_i data hn
      cases hc
      have hput := changes_put (n := .file { data with bytes := .empty, changed := t.now })
        (show t.node? (t.goal path) ≠ some .directory by rw [hn]; rintro ⟨⟩)
      exact ⟨hput.locate hl, hput⟩
    · rename_i hn
      cases hc
      have hput := changes_put (show t.node? (t.goal path) ≠ some .directory by rw [hn]; rintro ⟨⟩)
        (.file ⟨.empty, t.now, defaultMode⟩)
      exact ⟨hput.locate hl, hput⟩

theorem changes_append {bytes : ByteArray} (ha : t.append path bytes = .ok t') :
    Changes t t' (t.locate path = .ok ·) := by
  obtain ⟨loc, hl, ha⟩ := bind_eq_ok.1 ha
  split at ha
  · cases ha
  · rename_i data hn
    cases ha
    exact (changes_put (by rw [hn]; rintro ⟨⟩) _).mono fun l heq => heq ▸ hl
  · cases ha

theorem changes_unlink (hu : t.unlink path = .ok t') : Changes t t' (t.locate path = .ok ·) := by
  obtain ⟨loc, hl, hu⟩ := bind_eq_ok.1 hu
  split at hu
  · cases hu
  · rename_i data hn
    cases hu
    exact (changes_remove (by rw [hn]; rintro ⟨⟩)).mono fun l heq => heq ▸ hl
  · cases hu

/-- Where the path name leads to, there is no file afterwards, and if nothing could be removed, there was none. -/
theorem file?_unlink (hl : t.locate path = .ok loc) :
    (match t.unlink path with | .ok t' => t' | .error _ => t).file? loc = none := by
  cases hn : t.node? loc with
  | none =>
    have hunlink : t.unlink path = .error .notFound := by simp [unlink, hl, hn, bind, Except.bind]
    rw [hunlink]
    simp only [file?, hn]
  | some n =>
    cases n with
    | directory =>
      have hunlink : t.unlink path = .error .isADirectory := by simp [unlink, hl, hn, bind, Except.bind]
      rw [hunlink]
      exact file?_of_directory hn
    | file data =>
      have hunlink : t.unlink path = .ok (t.remove loc) := by
        simp [unlink, hl, hn, bind, Except.bind, pure, Except.pure]
      have hremove := node?_remove t loc loc (ne_root (by rw [hn]; rintro ⟨⟩))
      rw [if_pos rfl] at hremove
      rw [hunlink]
      simp only [file?, hremove]

end FileTree

end FilePlacement
