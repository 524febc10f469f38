import FilePlacement.Text.Pieces

/-!
# Path names

The components of a path name and what its last component says. Empty components and `.` denote
nothing, so trailing slashes and a trailing `/.` do not count.
-/

namespace FilePlacement.PathName

/-- The components that denote something, in order. -/
def components (path : List Char) : List (List Char) :=
  (Text.pieces '/' path).filter fun c => !(c.isEmpty || c == ['.'])

/-- The last component, unless it leads out of a directory. -/
def fileName? (path : List Char) : Option (List Char) :=
  match (components path).getLast? with
  | some name => if name = ['.', '.'] then none else some name
  | none => none

theorem fileName?_ne_nil {path name : List Char} (h : fileName? path = some name) : name ≠ [] := by
  unfold fileName? at h
  split at h
  next n hn =>
    split at h
    · simp at h
    · have := List.mem_of_getLast? hn
      simp [components] at this
      simp at h
      subst h
      intro hnil
      simp [hnil] at this
  next => simp at h

/-- Whether the component at the end of others denotes something; `.` does so in front of all others. -/
def isDenoting (front : List (List Char)) (last : List Char) : Bool := !last.isEmpty && (last ≠ ['.'] || front.isEmpty)

/-- Path names for the directories above something, the nearest one first, without the root and the
empty path name. -/
def parents (path : List Char) : List (List Char) :=
  let parts := Text.pieces '/' path
  let own := (List.range parts.length).reverse.find? fun i => isDenoting (parts.take i) (parts.getD i [])
  (List.range (own.getD 0)).reverse.filterMap fun i =>
    if isDenoting (parts.take i) (parts.getD i []) then some (Text.join ['/'] (parts.take (i + 1))) else none

/-- What stands after the last point of the file name; a point in front of all else begins no
extension. -/
def extension? (path : List Char) : Option (List Char) :=
  match fileName? path with
  | none => none
  | some name =>
    match Text.cutLast '.' name with
    | some (stem, ext) => if stem.isEmpty then none else some ext
    | none => none

/-- A path name that ends in a point and an extension has that extension, unless the point is in front of all
else. -/
theorem extension?_of_suffix {path ext : List Char} (hs : '.' :: ext <:+ path) (hne : ext ≠ []) (hpoint : '.' ∉ ext)
    (hslash : '/' ∉ ext) : extension? path = some ext ∨ extension? path = none := by
  obtain ⟨front, rfl⟩ := hs
  have hnoslash : '/' ∉ '.' :: ext := by simp [hslash]
  obtain ⟨dirs, stem, -, hpieces⟩ := Text.pieces_append_of_not_mem front hnoslash
  have hlonger : ∀ s : List Char, s ++ '.' :: ext ≠ ['.'] := by
    intro s
    cases s <;> simp [hne]
  have hlast : (components (front ++ '.' :: ext)).getLast? = some (stem ++ '.' :: ext) := by
    simp [components, hpieces, List.filter_append, hlonger]
  have hinside : stem ++ '.' :: ext ≠ ['.', '.'] := by
    cases stem with
    | nil =>
      rintro ⟨⟩
      exact hpoint List.mem_cons_self
    | cons c s => exact fun hparent => hlonger s (List.cons.inj hparent).2
  unfold extension? fileName?
  rw [hlast]
  simp only [hinside, if_false, Text.cutLast_append stem hpoint]
  cases stem.isEmpty <;> simp

end FilePlacement.PathName
