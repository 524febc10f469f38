import FilePlacement.Proofs.CallSequence
import FilePlacement.Proofs.RemoteScript
import FilePlacement.Proofs.RequestUrls

/-!
# The names that sources give

Where no name is set, the path of a source gives one, a local path by its final component
(`PathName.fileName?_eq_some_iff`), a URL by the last segment of its normal form (`Url.exists_last_of_parse`). In that
form dots are resolved, under a web scheme both separators are cut at, and what is not a visible character of ASCII
is escaped. So the last segment is one component, or it is empty because the path ends in a slash
(`Url.ends_in_slash_iff`). `source_names_single` carries this over to streams and identities.
-/

namespace FilePlacement

/-! ## Local paths -/

namespace PathName

/-- A component that leads to something in a directory. -/
structure IsNormal (name : List Char) : Prop where
  ne_nil : name ≠ []
  slash_not_mem : '/' ∉ name
  ne_here : name ≠ ['.']
  ne_above : name ≠ ['.', '.']

/-- What does not count at the end of a path name: slashes, and points between them. -/
inductive IsTrailing : List Char → Prop
  | nil : IsTrailing []
  | slash {r : List Char} (hr : IsTrailing r) : IsTrailing ('/' :: r)
  | here {r : List Char} (hr : IsTrailing r) : IsTrailing ('/' :: '.' :: r)

/-- The last component of a path name that counts is a normal one. -/
def IsFinal (path name : List Char) : Prop :=
  IsNormal name ∧ ∃ front tail, path = front ++ name ++ tail ∧ (front = [] ∨ ∃ directory, front = directory ++ ['/']) ∧
    IsTrailing tail

theorem components_append (s t : List Char) : components (s ++ '/' :: t) = components s ++ components t := by
  unfold components
  rw [Text.pieces_append, List.filter_append]

/-- A component that denotes something. -/
theorem components_of_denoting {c : List Char} (hne : c ≠ []) (hhere : c ≠ ['.']) (hslash : '/' ∉ c) :
    components c = [c] := by
  simp [components, Text.pieces_of_not_mem hslash, hne, hhere]

theorem IsNormal.components_eq {name : List Char} (hn : IsNormal name) : components name = [name] :=
  components_of_denoting hn.ne_nil hn.ne_here hn.slash_not_mem

theorem IsTrailing.components_append {tail : List Char} (ht : IsTrailing tail) (s : List Char) :
    components (s ++ tail) = components s := by
  induction ht generalizing s with
  | nil => rw [List.append_nil]
  | slash hr ih =>
    have hnone := ih []
    rw [List.nil_append] at hnone
    rw [PathName.components_append, hnone]
    exact List.append_nil _
  | here hr ih =>
    have hnone := ih ['.']
    rw [List.singleton_append] at hnone
    rw [PathName.components_append, hnone]
    exact List.append_nil _

theorem IsTrailing.concat {tail last : List Char} (ht : IsTrailing tail) (hlast : last = [] ∨ last = ['.']) :
    IsTrailing (tail ++ '/' :: last) := by
  induction ht with
  | nil =>
    rcases hlast with rfl | rfl
    · exact .slash .nil
    · exact .here .nil
  | slash _ ih => exact .slash ih
  | here _ ih => exact .here ih

/-- The text behind the last slash. -/
theorem eq_append_of_slash_mem {path : List Char} (h : '/' ∈ path) :
    ∃ directory last, path = directory ++ '/' :: last ∧ '/' ∉ last := by
  obtain ⟨last, directory, heq, hlast⟩ := List.eq_append_cons_of_mem (List.mem_reverse.2 h)
  refine ⟨directory.reverse, last.reverse, ?_, fun hmem => hlast (List.mem_reverse.1 hmem)⟩
  have hreverse := congrArg List.reverse heq
  simpa using hreverse

/-- A path name is cut behind the last component that denotes something, if there is one. -/
theorem exists_last (path : List Char) :
    components path = [] ∨ ∃ front last tail, path = front ++ last ++ tail ∧
      (front = [] ∨ ∃ directory, front = directory ++ ['/']) ∧ IsTrailing tail ∧ '/' ∉ last ∧
      components path = components front ++ [last] := by
  by_cases hslash : '/' ∈ path
  · obtain ⟨directory, last, hpath, hlast⟩ := eq_append_of_slash_mem hslash
    have hshorter : directory.length < path.length := by simp [hpath]
    rw [hpath]
    by_cases hnone : last = [] ∨ last = ['.']
    · have hsame : components (directory ++ '/' :: last) = components directory :=
        (IsTrailing.nil.concat hnone).components_append directory
      rw [hsame]
      refine (exists_last directory).imp_right ?_
      rintro ⟨front, name, tail, hdirectory, hfront, htail, hname, hcomponents⟩
      refine ⟨front, name, tail ++ '/' :: last, ?_, hfront, htail.concat hnone, hname, hcomponents⟩
      rw [hdirectory, List.append_assoc _ tail]
    · rw [not_or] at hnone
      refine .inr ⟨directory ++ ['/'], last, [], by simp, .inr ⟨directory, rfl⟩, .nil, hlast, ?_⟩
      rw [components_append, components_of_denoting hnone.1 hnone.2 hlast,
        (IsTrailing.slash .nil).components_append]
  · by_cases hnone : path = [] ∨ path = ['.']
    · left
      rcases hnone with rfl | rfl <;> rfl
    · rw [not_or] at hnone
      exact .inr ⟨[], path, [], by simp, .inl rfl, .nil, hslash, components_of_denoting hnone.1 hnone.2 hslash⟩
termination_by path.length
decreasing_by exact hshorter

/-- The file name is the final normal component. -/
theorem fileName?_eq_some_iff {path name : List Char} : fileName? path = some name ↔ IsFinal path name := by
  constructor
  · intro h
    have hne := fileName?_ne_nil h
    unfold fileName? at h
    rcases exists_last path with hnone | ⟨front, last, tail, rfl, hfront, htail, hslash, hcomponents⟩
    · rw [hnone] at h
      cases h
    · have hlast : last ∈ components (front ++ last ++ tail) := by
        rw [hcomponents]
        exact List.mem_append_right _ (List.mem_singleton.2 rfl)
      rw [hcomponents, List.getLast?_concat] at h
      dsimp only at h
      split at h
      · cases h
      · rename_i habove
        obtain rfl := Option.some.inj h
        refine ⟨⟨hne, hslash, ?_, habove⟩, front, tail, rfl, hfront, htail⟩
        rintro rfl
        simp [components] at hlast
  · rintro ⟨hn, front, tail, rfl, hfront, htail⟩
    have hcomponents : components (front ++ name ++ tail) = components front ++ [name] := by
      rw [htail.components_append, ← hn.components_eq]
      rcases hfront with rfl | ⟨directory, rfl⟩
      · rfl
      · rw [← List.append_cons, components_append, (IsTrailing.slash .nil).components_append]
    unfold fileName?
    rw [hcomponents, List.getLast?_concat]
    exact if_neg hn.ne_above

end PathName

/-! ## URLs -/

namespace Url

/-! ### URLs of the web -/

/-- What a text begins with stays there if all of it counts. -/
theorem significant_append {s : String} {front r : List Char} (hs : s.toList = front ++ r) (hne : front ≠ [])
    (hcounts : front.all (fun c => !isMargin c) = true) : ∃ back, significant s = front ++ back := by
  have hfront : ∀ c ∈ front, isMargin c = false := by simpa using hcounts
  have hbegin : (front ++ r).dropWhile isMargin = front ++ r := by
    obtain ⟨c, t, rfl⟩ := List.exists_cons_of_ne_nil hne
    exact List.dropWhile_cons_of_neg (by simp [hfront c List.mem_cons_self])
  obtain ⟨margin, hcut, hmargin⟩ := Text.dropTrailing_append isMargin (front ++ r)
  have hend : ∃ back, Text.dropTrailing isMargin (front ++ r) = front ++ back := by
    rcases List.append_eq_append_iff.1 hcut with ⟨back, hback, -⟩ | ⟨more, hmore, hrest⟩
    · exact ⟨back, hback⟩
    · -- Of the front, nothing belongs to the margin.
      have hnone : more = [] := List.eq_nil_iff_forall_not_mem.2 fun c hc => by
        have hcounts := hfront c (hmore ▸ List.mem_append_right _ hc)
        rw [hmargin c (hrest ▸ List.mem_append_left _ hc)] at hcounts
        cases hcounts
      rw [hnone, List.append_nil] at hmore
      exact ⟨[], by rw [List.append_nil]; exact hmore.symm⟩
  obtain ⟨back, hback⟩ := hend
  refine ⟨back.filter fun c => !isSkipped c, ?_⟩
  have hkept : front.filter (fun c => !isSkipped c) = front :=
    List.filter_eq_self.2 fun c hc => by rw [isSkipped_eq_false (hfront c hc)]; rfl
  change (Text.dropTrailing isMargin (s.toList.dropWhile isMargin)).filter (fun c => !isSkipped c) = _
  rw [hs, hbegin, hback, List.filter_append, hkept]

/-- What is read of the URL of a web server is under a web scheme. -/
theorem web_of_isWebUrl {s : String} {u : Url} (hs : isWebUrl s = true) (h : parse s = .ok u) :
    ∃ p, schemeClass u.scheme = .web p := by
  rcases Bool.or_eq_true _ _ ▸ hs with hs | hs <;>
  · obtain ⟨r, hr⟩ := List.isPrefixOf_iff_prefix.1 hs
    obtain ⟨back, hback⟩ := significant_append hr.symm (by decide) (by decide)
    unfold parse at h
    rw [hback] at h
    obtain ⟨f, -, rfl⟩ := scheme_of_readAuthority h
    exact ⟨_, rfl⟩

/-! ### Characters of segments -/

/-- All characters are visible ones of ASCII, and none of them is taken for a separator under a web scheme. -/
def IsVisible (segment : List Char) : Prop := ∀ c ∈ segment, 0x20 < c.toNat ∧ c.toNat < 0x7F ∧ c ≠ '\\'

theorem lt_toNat_of_kept {c : Char} (hc : inPathSet c = false) : 0x20 < c.toNat := by
  simp only [inPathSet, inFragmentSet, isControl, Bool.or_eq_false_iff, decide_eq_false_iff_not] at hc
  obtain ⟨⟨⟨⟨⟨⟨⟨⟨⟨⟨hcontrol, -⟩, hblank⟩, -⟩, -⟩, -⟩, -⟩, -⟩, -⟩, -⟩, -⟩ := hc
  have hne : c.toNat ≠ 0x20 := fun h => hblank (Char.ext (UInt32.toNat_inj.1 h))
  omega

theorem isVisible_percentEncode {cs : List Char} (hcs : '\\' ∉ cs) : IsVisible (percentEncode inPathSet cs) := by
  intro c hc
  rcases mem_percentEncode hc with hescape | ⟨hmem, hkept, hascii⟩
  · have hall : escapeChars.all (fun c => 0x20 < c.toNat && c.toNat < 0x7F && c != '\\') = true := by decide
    simpa [and_assoc] using List.all_eq_true.1 hall c hescape
  · exact ⟨lt_toNat_of_kept hkept, hascii, fun h => hcs (h ▸ hmem)⟩

/-- Under a web scheme, both separators are cut at. -/
theorem backslash_not_mem_rawSegments {p : Nat} {cs piece : List Char} (h : piece ∈ rawSegments (.web p) cs) :
    '\\' ∉ piece := by
  intro hmem
  obtain ⟨c, -, hc⟩ := List.mem_map.1 (Text.mem_of_mem_pieces h hmem)
  split at hc
  · cases hc
  · rename_i hsep
    rw [hc] at hsep
    exact hsep rfl

/-! ### The last segment -/

/-- At the end of a path, dots leave an empty segment, and any other segment stays as it is. -/
theorem exists_addSegment_last (done : List (List Char)) (segment : List Char) :
    ∃ front last, addSegment done segment false = front ++ [last] ∧ (last = [] ∨ last = segment) ∧ last ≠ ['.'] ∧
      last ≠ ['.', '.'] := by
  unfold addSegment
  by_cases hdouble : isDoubleDot segment = true
  · rw [if_pos hdouble]
    exact ⟨leave done, [], rfl, .inl rfl, (List.cons_ne_nil _ _).symm, (List.cons_ne_nil _ _).symm⟩
  · rw [if_neg hdouble]
    by_cases hsingle : isSingleDot segment = true
    · rw [if_pos hsingle]
      exact ⟨done, [], rfl, .inl rfl, (List.cons_ne_nil _ _).symm, (List.cons_ne_nil _ _).symm⟩
    · rw [if_neg hsingle]
      refine ⟨done, segment, rfl, .inr rfl, ?_, ?_⟩
      · rintro rfl
        exact hsingle rfl
      · rintro rfl
        exact hdouble rfl

/-- The last segment of a path. -/
structure IsLast (segment : String) : Prop where
  neat : IsNeat segment.toList
  visible : IsVisible segment.toList
  ne_here : segment ≠ "."
  ne_above : segment ≠ ".."

theorem exists_readPath_last (p : Nat) (cs : List Char) :
    ∃ front last, readPath (.web p) cs = .segments (front ++ [last]) ∧ IsLast last := by
  have hread : ∀ r, ∃ front last, readSegments (.web p) [] r = .segments (front ++ [last]) ∧ IsLast last := by
    intro r
    obtain ⟨raw, piece, hraw⟩ : ∃ raw piece, rawSegments (.web p) r = raw ++ [piece] :=
      ⟨_, _, (List.dropLast_concat_getLast (rawSegments_ne_nil (.web p) r)).symm⟩
    have hpiece : piece ∈ rawSegments (.web p) r := hraw ▸ List.mem_append_right _ (List.mem_singleton.2 rfl)
    obtain ⟨front, last, hadd, hlast, hhere, habove⟩ :=
      exists_addSegment_last ((raw.map (percentEncode inPathSet)).foldl (fun done s => addSegment done s true) [])
        (percentEncode inPathSet piece)
    refine ⟨front.map String.ofList, String.ofList last, ?_, ?_, ?_, ?_, ?_⟩
    · unfold readSegments
      rw [hraw, List.map_append, List.map_cons, List.map_nil, addSegments_concat, hadd, List.map_append]
      rfl
    · rw [String.toList_ofList]
      rcases hlast with rfl | rfl
      · exact fun c hc => absurd hc List.not_mem_nil
      · exact isNeat_percentEncode (Text.not_mem_of_mem_pieces hpiece)
    · rw [String.toList_ofList]
      rcases hlast with rfl | rfl
      · exact fun c hc => absurd hc List.not_mem_nil
      · exact isVisible_percentEncode (backslash_not_mem_rawSegments hpiece)
    · exact fun h => hhere (String.ofList_inj.1 h)
    · exact fun h => habove (String.ofList_inj.1 h)
  unfold readPath
  split
  · exact ⟨[], "", rfl, fun c hc => absurd hc (by simp), fun c hc => absurd hc (by simp), by decide, by decide⟩
  · split
    · exact hread _
    · exact hread _

/-- The URL of a web server has a last segment, which stands behind the last slash of its path. -/
theorem exists_last_of_parse {s : String} {u : Url} (hs : isWebUrl s = true) (h : parse s = .ok u) :
    ∃ dir last, u.lastSegment? = some last ∧ u.path.text = dir ++ "/" ++ last ∧ IsLast last := by
  obtain ⟨p, hp⟩ := web_of_isWebUrl hs h
  obtain ⟨rest, f, -, -, hu⟩ := front_of_parse h hp
  obtain ⟨front, last, hpath, hlast⟩ := exists_readPath_last p f.pathText
  have hsegments : u.path = .segments (front ++ [last]) := by
    rw [hu]
    unfold Front.url
    rw [hp]
    exact hpath
  have hsegment : u.lastSegment? = some last := by
    unfold lastSegment?
    rw [hsegments]
    exact List.getLast?_concat
  obtain ⟨dir, htext⟩ := exists_text_of_lastSegment? hsegment
  exact ⟨dir, last, hsegment, htext, hlast⟩

/-- A path ends in a slash just where its last segment is empty. -/
theorem ends_in_slash_iff {path dir last : String} (hpath : path = dir ++ "/" ++ last) (hlast : IsLast last) :
    (∃ dir, path = dir ++ "/") ↔ last = "" := by
  constructor
  · rintro ⟨dir', hslash⟩
    by_contra hne
    have hchars : last.toList ≠ [] := fun h => hne (String.toList_eq_nil_iff.1 h)
    have hends := congrArg (fun path => path.toList.getLast?) (hpath.symm.trans hslash)
    simp only [String.toList_append, List.getLast?_append_of_ne_nil _ hchars] at hends
    have hmem : '/' ∈ last.toList := List.mem_of_getLast? (hends.trans List.getLast?_concat)
    exact (hlast.neat '/' hmem).1 rfl
  · rintro rfl
    exact ⟨dir, by rw [hpath, String.append_empty]⟩

theorem IsLast.isNormal {segment : String} (hs : IsLast segment) (hne : segment ≠ "") :
    PathName.IsNormal segment.toList where
  ne_nil h := hne (String.toList_eq_nil_iff.1 h)
  slash_not_mem h := (hs.neat '/' h).1 rfl
  ne_here h := hs.ne_here (String.toList_inj.1 h)
  ne_above h := hs.ne_above (String.toList_inj.1 h)

end Url

/-! ## Names of sources -/

namespace SourceFile

/-- The path leads to something of this name: the last segment of the path of a URL, the final component of a local
path. -/
structure LeadsTo (f : SourceFile) (name : String) : Prop where
  normal : PathName.IsNormal name.toList
  segment : f.isUrl = true → ∃ u dir, Url.parse f.path = .ok u ∧ u.lastSegment? = some name ∧
    u.path.text = dir ++ "/" ++ name ∧ Url.IsNeat name.toList ∧ Url.IsVisible name.toList
  component : f.isUrl = false → PathName.IsFinal f.path.toList name.toList

/-- The path leads to nothing that has a name: a URL that is none or whose path ends in a slash, a local path
without a final component. -/
structure IsNameless (f : SourceFile) : Prop where
  url : f.isUrl = true → (∀ u, Url.parse f.path ≠ .ok u) ∨ ∃ u dir, Url.parse f.path = .ok u ∧ u.path.text = dir ++ "/"
  component : f.isUrl = false → ¬ ∃ name, PathName.IsFinal f.path.toList name

variable {f : SourceFile}

theorem ownName?_of_parse {u : Url} (hweb : f.isUrl = true) (h : Url.parse f.path = .ok u) :
    f.ownName? = stated u.lastSegment? := by
  unfold ownName?
  rw [if_pos hweb, h]

theorem ownName?_of_error {e : Url.Invalid} (hweb : f.isUrl = true) (h : Url.parse f.path = .error e) :
    f.ownName? = none := by
  unfold ownName?
  rw [if_pos hweb, h]

theorem ownName?_of_local (hlocal : f.isUrl = false) :
    f.ownName? = (PathName.fileName? f.path.toList).map String.ofList := by
  unfold ownName?
  rw [hlocal]
  rfl

theorem leadsTo_of_ownName? {name : String} (h : f.ownName? = some name) : f.LeadsTo name := by
  cases hweb : f.isUrl with
  | true =>
    cases hparse : Url.parse f.path with
    | error e =>
      rw [ownName?_of_error hweb hparse] at h
      cases h
    | ok u =>
      obtain ⟨dir, last, hsegment, htext, hlast⟩ := Url.exists_last_of_parse hweb hparse
      rw [ownName?_of_parse hweb hparse, hsegment] at h
      have hne := stated_ne_empty h
      obtain rfl := Option.some.inj (eq_some_of_stated h)
      exact ⟨hlast.isNormal hne, fun _ => ⟨u, dir, hparse, hsegment, htext, hlast.neat, hlast.visible⟩,
        by simp [hweb]⟩
  | false =>
    rw [ownName?_of_local hweb] at h
    obtain ⟨cs, hcs, rfl⟩ := Option.map_eq_some_iff.1 h
    have hfinal := PathName.fileName?_eq_some_iff.1 hcs
    rw [← String.toList_ofList (l := cs)] at hfinal
    exact ⟨hfinal.1, by simp [hweb], fun _ => hfinal⟩

theorem ownName?_eq_none_iff : f.ownName? = none ↔ f.IsNameless := by
  cases hweb : f.isUrl with
  | true =>
    have hsplit : f.IsNameless ↔
        (∀ u, Url.parse f.path ≠ .ok u) ∨ ∃ u dir, Url.parse f.path = .ok u ∧ u.path.text = dir ++ "/" :=
      ⟨fun hn => hn.url hweb, fun hn => ⟨fun _ => hn, by simp [hweb]⟩⟩
    rw [hsplit]
    cases hparse : Url.parse f.path with
    | error e => exact iff_of_true (ownName?_of_error hweb hparse) (.inl fun u hu => by cases hu)
    | ok u =>
      obtain ⟨dir, last, hsegment, htext, hlast⟩ := Url.exists_last_of_parse hweb hparse
      have hempty : stated (some last) = none ↔ last = "" := by simp [stated]
      rw [ownName?_of_parse hweb hparse, hsegment, hempty, ← Url.ends_in_slash_iff htext hlast]
      constructor
      · rintro ⟨dir', hslash⟩
        exact .inr ⟨u, dir', rfl, hslash⟩
      · rintro (hno | ⟨v, dir', hv, hslash⟩)
        · exact absurd rfl (hno u)
        · obtain rfl := Except.ok.inj hv
          exact ⟨dir', hslash⟩
  | false =>
    have hsplit : f.IsNameless ↔ ¬ ∃ name, PathName.IsFinal f.path.toList name :=
      ⟨fun hn => hn.component hweb, fun hn => ⟨by simp [hweb], fun _ => hn⟩⟩
    rw [hsplit, ownName?_of_local hweb, Option.map_eq_none_iff, Option.eq_none_iff_forall_ne_some, not_exists]
    exact forall_congr' fun name => not_congr PathName.fileName?_eq_some_iff

theorem fileName_eq (hname : stated f.fileName = none) : (Source.file f).fileName =
    match f.ownName? with
    | some name => .ok name
    | none => .error (.unresolvableFileName f.path) := by
  unfold Source.fileName
  dsimp only
  rewrite [hname]
  rfl

end SourceFile

/-! ## Destinations -/

namespace PathName

theorem isTrailing_replicate (n : Nat) : IsTrailing (List.replicate n '/') := by
  induction n with
  | zero => exact .nil
  | succ n ih => exact .slash ih

theorem isNormal_directory (kind : ContentKind) : IsNormal kind.directory.toList := by
  cases kind <;> exact ⟨by decide, by decide, by decide, by decide⟩

end PathName

namespace Cluster.StreamConfig

/-- A file with a normal name lies in the directory of its kind, which lies in the directory of the datastore. -/
theorem components_destinationOf (path : String) {u : Upload} {kind : ContentKind}
    (hkind : u.contentType = kind.directory) (hname : PathName.IsNormal u.fileName.toList) :
    PathName.components (destinationOf path u).toList =
      PathName.components path.toList ++ [kind.directory.toList, u.fileName.toList] := by
  obtain ⟨n, hpath⟩ := withoutSlashes_append path
  have htext : (destinationOf path u).toList =
      (withoutSlashes path).toList ++ '/' :: (kind.directory.toList ++ '/' :: u.fileName.toList) := by
    simp [destinationOf, directoryOf, hkind]
  rw [htext, hpath, PathName.components_append, PathName.components_append,
    (PathName.isTrailing_replicate n).components_append, (PathName.isNormal_directory kind).components_eq,
    hname.components_eq]
  rfl

end Cluster.StreamConfig

namespace Reconciler

variable {σ : Type} {h : Host Reconciling σ} {tmpDir : String} {spec : Spec} {s : σ}

theorem stream_not_mem_looks {path node : String} {u : Upload} : .streamUpload node path u ∉ looks spec := by
  unfold looks releases
  split <;> simp

/-- A stream is told the directory of the file's kind and the file's name. -/
theorem stream_of_mem {p : Prepared} {path path' node : String} {u : Upload}
    (hmem : .streamUpload node path u ∈ looks spec ++ sending spec p path') :
    u.contentType = p.kind.directory ∧ u.fileName = p.plan.fileName := by
  rcases List.mem_append.1 hmem with hlooks | hsending
  · exact absurd hlooks stream_not_mem_looks
  · unfold sending at hsending
    split at hsending
    · simp at hsending
    · simp only [List.mem_cons, reduceCtorEq, false_or, BackendCall.streamUpload.injEq, List.not_mem_nil, or_false]
        at hsending
      obtain ⟨-, -, rfl⟩ := hsending
      exact ⟨rfl, rfl⟩

theorem streamed_of_sent {log : List (Entry Reconciling σ)} {v : VolumeId} {rest : List BackendCall}
    {path node : String} {u : Upload} (hs : Sent h spec s v rest log) (hrest : .streamUpload node path u ∉ rest)
    (hmem : .streamUpload node path u ∈ backendCalls log) :
    ∃ p : Prepared, (spec.source = .ok p.plan.source ∧ p.plan.source.fileName = .ok p.plan.fileName) ∧
      u.contentType = p.kind.directory ∧ u.fileName = p.plan.fileName := by
  obtain ⟨p, path', hagreed, -, hcalls⟩ := hs
  rw [hcalls] at hmem
  rcases List.mem_append.1 hmem with hsent | hmem
  · exact ⟨p, hagreed.name, stream_of_mem hsent⟩
  · exact absurd hmem hrest

/-- The name of a file that is streamed is the one that the source gives. -/
theorem streamed_of_create {path node : String} {u : Upload}
    (hmem : .streamUpload node path u ∈ backendCalls (createLog h tmpDir spec s)) :
    ∃ p : Prepared, (spec.source = .ok p.plan.source ∧ p.plan.source.fileName = .ok p.plan.fileName) ∧
      u.contentType = p.kind.directory ∧ u.fileName = p.plan.fileName := by
  have hcourse := create_calls h tmpDir spec s
  generalize createLog h tmpDir spec s = log, (create h tmpDir spec s).result = result at hcourse hmem
  cases hcourse with
  | stopped hs =>
    rcases hs with hlooks | ⟨p, path', hagreed, hcalls⟩
    · exact absurd (hlooks.subset hmem) stream_not_mem_looks
    · exact ⟨p, hagreed.name, stream_of_mem (hcalls.subset hmem)⟩
  | undone hs => exact streamed_of_sent hs (by simp) hmem
  | created _ hs => exact streamed_of_sent hs (by simp) hmem

/-- The identity of a file that has been created has the name that the source gives. -/
theorem named_of_create {o : Outcome State} (ho : (create h tmpDir spec s).result = .ok o)
    (hcolon : ':' ∉ spec.datastoreId.toList) :
    ∃ p : Prepared, (spec.source = .ok p.plan.source ∧ p.plan.source.fileName = .ok p.plan.fileName) ∧
      VolumeId.parse o.value.id = .ok ⟨spec.datastoreId, p.kind.name, p.plan.fileName⟩ := by
  have hcourse := create_calls h tmpDir spec s
  rw [ho] at hcourse
  cases hcourse with
  | created hid hs =>
    obtain ⟨p, path, hagreed, rfl, -⟩ := hs
    exact ⟨p, hagreed.name, (created_of_create ho).coherent.parse_eq hid hcolon⟩

end Reconciler

open Cluster Reconciler

/-- **A name that comes from a path is one component.** Where no name is set, the name of a file is a normal
component: of a URL the last segment of its path, in visible characters of ASCII, of a local path the final component.
So a stream goes into the directory of the file's kind below the path of the datastore, and an identity with this
name reads as its parts. There is no name, and no other fault, just where the URL is none or its path ends in a slash,
or where the local path has no final component. -/
theorem source_names_single {f : SourceFile} (hname : stated f.fileName = none) :
    (∀ n, (Source.file f).fileName = .ok n →
      f.LeadsTo n ∧
      (∀ (path : String) (u : Upload) (kind : ContentKind), u.contentType = kind.directory → u.fileName = n →
        PathName.components (StreamConfig.destinationOf path u).toList =
          PathName.components path.toList ++ [kind.directory.toList, n.toList]) ∧
      ∀ (datastore : String) (kind : ContentKind), datastore ≠ "" → ':' ∉ datastore.toList →
        VolumeId.parse (VolumeId.format ⟨datastore, kind.name, n⟩) = .ok ⟨datastore, kind.name, n⟩) ∧
    (∀ e, (Source.file f).fileName = .error e ↔ e = .unresolvableFileName f.path ∧ f.IsNameless) ∧
    ∀ {σ : Type} (h : Host Reconciling σ) (tmpDir : String) (spec : Spec) (s : σ), spec.source = .ok (.file f) →
      (∀ node path u, .streamUpload node path u ∈ backendCalls (createLog h tmpDir spec s) →
        (Source.file f).fileName = .ok u.fileName ∧ ∃ kind : ContentKind, u.contentType = kind.directory ∧
          PathName.components (StreamConfig.destinationOf path u).toList =
            PathName.components path.toList ++ [kind.directory.toList, u.fileName.toList]) ∧
      ∀ o, (create h tmpDir spec s).result = .ok o → ':' ∉ spec.datastoreId.toList →
        ∃ n, (Source.file f).fileName = .ok n ∧ ∃ kind : ContentKind,
          VolumeId.parse o.value.id = .ok ⟨spec.datastoreId, kind.name, n⟩ := by
  have hleads : ∀ n, (Source.file f).fileName = .ok n → f.LeadsTo n := by
    intro n hn
    rw [SourceFile.fileName_eq hname] at hn
    cases hown : f.ownName? with
    | none => rw [hown] at hn; cases hn
    | some own =>
      rw [hown] at hn
      obtain rfl := Except.ok.inj hn
      exact SourceFile.leadsTo_of_ownName? hown
  have hdestination : ∀ (path : String) (u : Upload) (kind : ContentKind), u.contentType = kind.directory →
      (Source.file f).fileName = .ok u.fileName →
        PathName.components (StreamConfig.destinationOf path u).toList =
          PathName.components path.toList ++ [kind.directory.toList, u.fileName.toList] := fun path u kind hkind hn =>
    StreamConfig.components_destinationOf path hkind (hleads _ hn).normal
  refine ⟨fun n hn => ⟨hleads n hn, ?_, ?_⟩, fun e => ?_, fun h tmpDir spec s hsource => ⟨?_, ?_⟩⟩
  · rintro path u kind hkind rfl
    exact hdestination path u kind hkind hn
  · intro datastore kind hdatastore hcolon
    have hne : n ≠ "" := fun h => (hleads n hn).normal.ne_nil (String.toList_eq_nil_iff.2 h)
    exact VolumeId.parse_format_iff.2 (VolumeId.readable_of_kind kind hdatastore hcolon hne)
  · rw [SourceFile.fileName_eq hname, ← SourceFile.ownName?_eq_none_iff]
    cases f.ownName? with
    | none => simp [eq_comm]
    | some own => simp
  · intro node path u hmem
    obtain ⟨p, ⟨hplan, hnamed⟩, hkind, hu⟩ := streamed_of_create hmem
    rw [← Except.ok.inj (hsource.symm.trans hplan), ← hu] at hnamed
    exact ⟨hnamed, p.kind, hkind, hdestination path u p.kind hkind hnamed⟩
  · intro o ho hcolon
    obtain ⟨p, ⟨hplan, hnamed⟩, hparse⟩ := named_of_create ho hcolon
    rw [← Except.ok.inj (hsource.symm.trans hplan)] at hnamed
    exact ⟨p.plan.fileName, hnamed, p.kind, hparse⟩

/-- An image behind a URL that is full of dots, separators and blanks. -/
def dottedImage : SourceFile := ⟨"http://10.0.0.1/iso\\%2e%2E/./b c.iso?x=/#y/", none, some "", false, none⟩

/-- The image is stored as one file of the directory `iso`. -/
theorem source_names_single_dotted :
    (Source.file dottedImage).fileName = .ok "b%20c.iso" ∧ dottedImage.LeadsTo "b%20c.iso" ∧
      PathName.components
          (StreamConfig.destinationOf "/var/lib/vz//" ⟨"iso", "b%20c.iso", "/tmp/image", none⟩).toList =
        ["var".toList, "lib".toList, "vz".toList, "iso".toList, "b%20c.iso".toList] ∧
      VolumeId.parse "local:iso/b%20c.iso" = .ok ⟨"local", "iso", "b%20c.iso"⟩ := by
  have hfileName : (Source.file dottedImage).fileName.toOption = some "b%20c.iso" := by decide +kernel
  have hname := eq_ok_of_toOption hfileName
  obtain ⟨hleads, hdestination, hidentity⟩ :=
    (source_names_single (show stated dottedImage.fileName = none from rfl)).1 _ hname
  refine ⟨hname, hleads, ?_, hidentity "local" .iso (by decide) (by decide)⟩
  exact (hdestination "/var/lib/vz//" _ .iso rfl rfl).trans (by decide)

end FilePlacement
