import FilePlacement.Proofs.DeletionTargets
import FilePlacement.Proofs.EndpointPaths
import FilePlacement.Proofs.Inquiries
import Mathlib.Data.List.DropRight

/-!
# Where requests go

Below an endpoint of the web every plain segment stands in the path as one piece, which is decoded to the segment
(`extend_eq`, `Api.pieces_url`). So the target of a request determines the segments, and these determine the inquiry
(`Api.segments_of_target`, `Inquiry.sending_of_segments`).

An empty segment at the end of an endpoint's path makes no difference (`extend_open`), and a slash at the end of an
endpoint opens one (`parse_withSlash`).
-/

namespace FilePlacement

namespace Url

/-! ## Plain segments -/

/-- A segment that is taken as it is: it does not lead elsewhere, and nothing of it is dropped. -/
def IsPlain (s : String) : Prop := s ≠ "." ∧ s ≠ ".." ∧ ∀ c ∈ s.toList, isSkipped c = false

instance (s : String) : Decidable (IsPlain s) :=
  decidable_of_iff (s ≠ "." ∧ s ≠ ".." ∧ s.toList.all (fun c => !isSkipped c) = true) (by simp [IsPlain])

/-- How a plain segment stands in a path. -/
def segmentText (s : String) : List Char := percentEncode inSegmentSet s.toList

theorem isNeat_segmentText (s : String) : IsNeat (segmentText s) := by
  intro c hc
  refine ⟨?_, ?_, ?_⟩ <;> rintro rfl <;> rcases mem_percentEncode hc with hc | ⟨-, hc, -⟩ <;> revert hc <;> decide

theorem percentDecode_segmentText (s : String) : (percentDecode (segmentText s)).toByteArray = s.toUTF8 :=
  toByteArray_percentDecode rfl s

theorem segmentText_injective : Function.Injective segmentText := by
  intro s t hst
  have hbytes := congrArg (fun cs => (percentDecode cs).toByteArray) hst
  simp only [percentDecode_segmentText] at hbytes
  exact String.toByteArray_inj.1 hbytes

theorem segmentText_ne_nil {s : String} (hs : s ≠ "") : segmentText s ≠ [] := by
  intro hnil
  rw [segmentText, percentEncode_eq_nil_iff] at hnil
  exact hs (String.toList_eq_nil_iff.1 hnil)

theorem pushSegment_of_plain {s : String} (hs : IsPlain s) (list : List (List Char)) :
    pushSegment list s.toList = pushRaw list (segmentText s) := by
  obtain ⟨hsingle, hdouble, hkept⟩ := hs
  have hself : s.toList.filter (fun c => !isSkipped c) = s.toList := List.filter_eq_self.2 fun c hc => by
    rw [hkept c hc]
    rfl
  have hone : s.toList ≠ ['.'] := fun h => hsingle (String.toList_inj.1 h)
  have htwo : s.toList ≠ ['.', '.'] := fun h => hdouble (String.toList_inj.1 h)
  unfold pushSegment
  simp only [hself, hone, htwo, decide_false, Bool.or_self, Bool.false_eq_true, if_false]
  rfl

/-- Behind a segment with characters, plain segments come one after the other. -/
theorem foldl_pushSegment {ss : List String} (hss : ∀ s ∈ ss, IsPlain s) {list : List (List Char)}
    (hlist : ∃ t ∈ list, t ≠ []) :
    ss.foldl (fun list s => pushSegment list s.toList) list = list ++ ss.map segmentText := by
  induction ss generalizing list with
  | nil => exact (List.append_nil list).symm
  | cons s ss ih =>
    obtain ⟨t, ht, hne⟩ := hlist
    have hroom : pushRaw list (segmentText s) = list ++ [segmentText s] := by
      unfold pushRaw
      rw [if_neg]
      intro hroot
      rw [eq_of_beq hroot] at ht
      exact hne (List.mem_singleton.1 ht)
    rw [List.foldl_cons, pushSegment_of_plain (hss s List.mem_cons_self), hroom,
      ih (fun s hs => hss s (List.mem_cons_of_mem _ hs)) ⟨t, List.mem_append_left _ ht, hne⟩, List.append_assoc]
    rfl

/-! ## Extended paths -/

/-- What stands in front of the segments by which a path is extended. -/
def openEnd (list : List String) : List (List Char) :=
  let base := dropEmptyLast (list.map String.toList)
  if base == [[]] then [] else base

theorem mem_of_mem_dropEmptyLast {list : List (List Char)} {s : List Char} (hs : s ∈ dropEmptyLast list) :
    s ∈ list := by
  unfold dropEmptyLast at hs
  split at hs
  · exact (List.dropLast_sublist list).subset hs
  · exact hs

theorem mem_of_mem_openEnd {list : List String} {s : List Char} (hs : s ∈ openEnd list) :
    ∃ t ∈ list, t.toList = s := by
  unfold openEnd at hs
  dsimp only at hs
  split at hs
  · exact absurd hs List.not_mem_nil
  · exact List.mem_map.1 (mem_of_mem_dropEmptyLast hs)

section
variable {u : Url} {list : List String}

/-- Plain segments behind a first one with characters stand at the end of the path, each one for itself. -/
theorem extend_eq (hpath : u.path = .segments list) (hhost : u.host.isSome = true) {first : String} {ss : List String}
    (hfirst : first ≠ "") (hss : ∀ s ∈ first :: ss, IsPlain s) :
    u.extend (first :: ss) =
      { u with path := .segments ((openEnd list ++ (first :: ss).map segmentText).map String.ofList) } := by
  have hne := segmentText_ne_nil hfirst
  have hpush : pushRaw (dropEmptyLast (list.map String.toList)) (segmentText first) =
      openEnd list ++ [segmentText first] := by
    unfold pushRaw openEnd
    dsimp only
    split <;> rfl
  have hnone : u.host.isNone = false := by rw [← Option.not_isSome, hhost]; rfl
  unfold extend
  rw [hpath]
  dsimp only
  rw [hnone, Bool.false_and, if_neg Bool.false_ne_true, List.foldl_cons,
    pushSegment_of_plain (hss first List.mem_cons_self), hpush,
    foldl_pushSegment (fun s hs => hss s (List.mem_cons_of_mem _ hs))
      ⟨_, List.mem_append_right _ (List.mem_singleton.2 rfl), hne⟩, List.append_assoc]
  rfl

theorem dropEmptyLast_concat {front : List (List Char)} {last : List Char} (hlast : last ≠ []) :
    dropEmptyLast (front ++ [last]) = front ++ [last] := by
  simp [dropEmptyLast, hlast]

theorem dropEmptyLast_concat_nil {front : List (List Char)} (hfront : front ≠ []) :
    dropEmptyLast (front ++ [[]]) = front := by
  have hlength := List.length_pos_iff.2 hfront
  simp [dropEmptyLast, hlength]

/-- An empty segment behind one with characters makes no difference. -/
theorem extend_open {s : String} (hs : s ≠ "") (hpath : u.path = .segments (list ++ [s])) (ss : List String) :
    ({ u with path := .segments (list ++ [s] ++ [""]) } : Url).extend ss = u.extend ss := by
  have hchars : s.toList ≠ [] := fun h => hs (String.toList_eq_nil_iff.1 h)
  have hmore : list ++ [s] ++ [""] ≠ ["", ""] := fun h => by
    have hlast := congrArg (fun list => list.dropLast.getLast?) h
    rw [List.dropLast_concat] at hlast
    simp [hs] at hlast
  have hless : list ++ [s] ≠ ["", ""] := fun h => by
    have hlast := congrArg List.getLast? h
    simp [hs] at hlast
  have hdrop : dropEmptyLast ((list ++ [s] ++ [""]).map String.toList) =
      dropEmptyLast ((list ++ [s]).map String.toList) := by
    rw [List.map_append, List.map_append, List.map_cons, List.map_nil, dropEmptyLast_concat hchars]
    exact dropEmptyLast_concat_nil (by simp)
  unfold extend
  rw [hpath]
  simp only [hmore, hless, decide_false, Bool.and_false, Bool.false_eq_true, if_false, hdrop]

end

/-! ## Pieces of a path -/

theorem pieces_flatMap {list : List (List Char)} (hlist : ∀ s ∈ list, '/' ∉ s) {front : List Char}
    (hfront : '/' ∉ front) :
    Text.pieces '/' (front ++ list.flatMap fun s => '/' :: s) = front :: list := by
  induction list generalizing front with
  | nil => rw [List.flatMap_nil, List.append_nil, Text.pieces_of_not_mem hfront]
  | cons s list ih =>
    rw [List.flatMap_cons, List.cons_append, Text.pieces_append, Text.pieces_of_not_mem hfront,
      ih (fun t ht => hlist t (List.mem_cons_of_mem _ ht)) (hlist s List.mem_cons_self)]
    rfl

/-- A path is taken apart into its segments. -/
theorem pieces_text {list : List String} (hlist : ∀ s ∈ list, IsNeat s.toList) :
    Text.pieces '/' (Path.segments list).text.toList = [] :: list.map String.toList := by
  have hslash : ∀ s ∈ list.map String.toList, '/' ∉ s := by
    intro s hs hmem
    obtain ⟨t, ht, rfl⟩ := List.mem_map.1 hs
    exact (hlist t ht '/' hmem).1 rfl
  have hpieces := pieces_flatMap hslash (List.not_mem_nil : '/' ∉ [])
  rw [List.flatMap_map, List.nil_append] at hpieces
  rw [Path.text, String.toList_ofList]
  exact hpieces

/-- In the text of a path, only a slash can be a delimiter. -/
theorem isNeat_text {list : List String} (hlist : ∀ s ∈ list, IsNeat s.toList) :
    ∀ c ∈ (Path.segments list).text.toList, c ≠ '?' ∧ c ≠ '#' := by
  intro c hc
  rw [Path.text, String.toList_ofList] at hc
  obtain ⟨s, hs, hmem⟩ := List.mem_flatMap.1 hc
  rcases List.mem_cons.1 hmem with rfl | hmem
  · decide
  · exact (hlist s hs c hmem).2

/-- The pieces in front of the segments by which a path is extended. -/
theorem dropEmptyLast_pieces {list : List String} (hne : list ≠ []) (hroot : list ≠ ["", ""]) :
    dropEmptyLast ([] :: list.map String.toList) = [] :: openEnd list := by
  obtain ⟨front, last, rfl⟩ : ∃ front last, list = front ++ [last] :=
    ⟨_, _, (List.dropLast_concat_getLast hne).symm⟩
  unfold openEnd
  dsimp only
  rw [List.map_append, List.map_cons, List.map_nil, ← List.cons_append]
  by_cases hlast : last = ""
  · subst hlast
    rw [show "".toList = [] from rfl, dropEmptyLast_concat_nil (List.cons_ne_nil _ _)]
    cases front with
    | nil => rfl
    | cons s front =>
      rw [dropEmptyLast_concat_nil (by simp), if_neg]
      intro hsingle
      obtain ⟨hs, hnil⟩ := List.cons.inj (eq_of_beq hsingle)
      obtain rfl := String.toList_eq_nil_iff.1 hs
      obtain rfl := List.map_eq_nil_iff.1 hnil
      exact hroot rfl
  · have hchars : last.toList ≠ [] := fun h => hlast (String.toList_eq_nil_iff.1 h)
    have hroom : (front.map String.toList ++ [last.toList] == [[]]) = false := by
      rw [beq_eq_false_iff_ne]
      intro hsingle
      have hend := congrArg List.getLast? hsingle
      simp [hchars] at hend
    rw [dropEmptyLast_concat hchars, dropEmptyLast_concat hchars, hroom]
    rfl

/-! ## A slash at the end -/

/-- A slash at the end of what counts of a text. -/
def withSlash (s : String) : String :=
  String.ofList (s.toList.rdropWhile isMargin ++ '/' :: s.toList.rtakeWhile isMargin)

theorem significant_withSlash {s : String} (hs : significant s ≠ []) :
    significant (withSlash s) = significant s ++ ['/'] := by
  have hslash : isMargin '/' = false := by decide
  have hmargin : ∀ m ∈ s.toList.rtakeWhile isMargin, isMargin m = true := fun m hm => List.mem_rtakeWhile_imp hm
  have hwhole : s.toList.rdropWhile isMargin ++ s.toList.rtakeWhile isMargin = s.toList :=
    List.rdropWhile_append_rtakeWhile
  unfold withSlash
  rcases List.eq_nil_or_concat (s.toList.rdropWhile isMargin) with hcore | ⟨init, c, hcore⟩
  · have hall := List.rdropWhile_eq_nil_iff.1 hcore
    have hnone : significant s = [] := by
      unfold significant
      rw [List.dropWhile_eq_nil_iff.2 hall]
      rfl
    exact absurd hnone hs
  · rw [List.concat_eq_append] at hcore
    have hc : isMargin c = false := by
      have hne : s.toList.rdropWhile isMargin ≠ [] := by simp [hcore]
      have hlast := List.rdropWhile_last_not isMargin s.toList hne
      simpa [hcore] using hlast
    have hself : String.ofList (init ++ c :: s.toList.rtakeWhile isMargin) = s := by
      rw [List.append_cons, ← hcore, hwhole, String.ofList_toList]
    have hold : significant (String.ofList (init ++ c :: s.toList.rtakeWhile isMargin)) =
        (init.dropWhile isMargin).filter (fun c => !isSkipped c) ++ [c] := significant_eq hc hmargin
    rw [hself] at hold
    rw [hcore, significant_eq hslash hmargin, hold, dropWhile_concat_of_neg hc, List.filter_append]
    simp [isSkipped_eq_false hc]

theorem significant_ne_nil {s : String} {u : Url} (h : parse s = .ok u) : significant s ≠ [] := by
  intro hnil
  rw [parse, hnil] at h
  cases h

section
variable {s : String} {u : Url} {p : Nat} (h : parse s = .ok u) (hp : schemeClass u.scheme = .web p)

include h hp

/-- A URL of the web has a host and the segments of a path. -/
theorem web_of_parse : u.host.isSome = true ∧
    ∃ list, u.path = .segments list ∧ list ≠ [] ∧ ∀ s ∈ list, IsNeat s.toList := by
  obtain ⟨rest, f, -, -, hu⟩ := front_of_parse h hp
  rw [hu]
  refine ⟨rfl, ?_⟩
  unfold Front.url
  rw [hp]
  exact readPath_segments p f.pathText

/-- A slash at the end of a text whose path does not end in one already is as if it were not there, once the path is
extended. -/
theorem parse_withSlash (hq : u.query = none) (hf : u.fragment = none)
    (hend : (∀ front, u.path.text ≠ front ++ "/") ∨
      ∀ front, significant s ≠ front ++ ['/'] ∧ significant s ≠ front ++ ['\\']) :
    ∃ u', parse (withSlash s) = .ok u' ∧ u'.isOpaque = false ∧ ∀ ss, u'.extend ss = u.extend ss := by
  have hslash : isSeparator (.web p) '/' = true := rfl
  obtain ⟨f, hu, hsuffix, hparse⟩ := parse_concat h hp hslash (significant_withSlash (significant_ne_nil h))
  rw [hu] at hq hf
  rw [url_concat rfl hq hf, hp, ← hu] at hparse
  have hold : u.path = readPath (.web p) f.pathText := by
    rw [hu]
    unfold Front.url
    rw [hp]
  refine ⟨_, hparse, ?_, fun ss => ?_⟩
  · obtain ⟨list, hlist, -⟩ := readPath_segments p (f.pathText ++ ['/'])
    unfold isOpaque
    dsimp only
    rw [hlist]
  · rcases readPath_concat hslash f.pathText with hsame | ⟨list, last, hpath, hopen, hempty⟩
    · rw [hsame, ← hold]
    · rw [← hold] at hpath
      rw [hopen]
      refine extend_open (fun hlast => ?_) hpath ss
      rcases hend with hend | hend
      · refine hend (Path.segments list).text ?_
        rw [hpath, hlast, ← String.toList_inj]
        simp [Path.text]
      · -- The path is the end of the text, so that a separator at its end is one at the end of the text.
        obtain ⟨init, c, hinit, hc⟩ := hempty hlast
        obtain ⟨front, hfront⟩ := hsuffix
        rw [← pathText_eq_rest hq hf, hinit, ← List.append_assoc] at hfront
        rcases eq_slash_or_backslash hc with rfl | rfl
        · exact (hend (front ++ init)).1 hfront.symm
        · exact (hend (front ++ init)).2 hfront.symm

end

end Url

namespace Cluster

open Url

/-! ## Inquiries -/

/-- The inquiry, with another file if it uploads one. -/
def Inquiry.sending (form : Http.Form) : Inquiry → Inquiry
  | upload node storage _ => upload node storage form
  | q => q

/-- What some segments ask, where an upload would send this form. -/
def Inquiry.ofSegments? (form : Http.Form) : List String → Option Inquiry
  | ["nodes", node, "storage", storage, "content"] => some (content node storage)
  | ["storage", name] => some (datastore name)
  | ["version"] => some release
  | ["nodes", node, "storage", storage, "upload"] => some (upload node storage form)
  | ["nodes", node, "tasks", id, "status"] => some (task node id)
  | ["nodes", node, "storage", storage, "content", volumeId] => some (deletion node storage volumeId)
  | _ => none

theorem Inquiry.ofSegments?_segments (form : Http.Form) (q : Inquiry) :
    ofSegments? form q.segments = some (q.sending form) := by
  cases q <;> rfl

/-- The segments say what is asked, but for the file of an upload. -/
theorem Inquiry.sending_of_segments {q q' : Inquiry} (h : q.segments = q'.segments) (form : Http.Form) :
    q.sending form = q'.sending form := by
  have hread := ofSegments?_segments form q
  rw [h, ofSegments?_segments] at hread
  exact (Option.some.inj hread).symm

/-! ## Targets -/

namespace Api

theorem parse_of_new {endpoint token : String} {insecure : Bool} {api : Api}
    (h : Api.new endpoint token insecure = .ok api) : Url.parse endpoint = .ok api.base := by
  unfold Api.new at h
  split at h
  · cases h
  · rename_i base hparse
    split at h
    · cases h
    · obtain rfl := Except.ok.inj h
      exact hparse

theorem new_of_parse {endpoint : String} {base : Url} (hparse : Url.parse endpoint = .ok base)
    (hsegments : base.isOpaque = false) (token : String) (insecure : Bool) :
    Api.new endpoint token insecure = .ok ⟨base, token, insecure⟩ := by
  unfold Api.new
  rw [hparse]
  dsimp only
  rw [hsegments]
  rfl

/-- The segments of the path of a request are as neat as those of the endpoint. -/
theorem isNeat_below {list : List String} (hneat : ∀ s ∈ list, IsNeat s.toList) (ss : List String) :
    ∀ s ∈ (openEnd list ++ ["api2".toList, "json".toList] ++ ss.map segmentText).map String.ofList,
      IsNeat s.toList := by
  intro s hs
  obtain ⟨cs, hcs, rfl⟩ := List.mem_map.1 hs
  rw [String.toList_ofList]
  rcases List.mem_append.1 hcs with hcs | hcs
  · rcases List.mem_append.1 hcs with hcs | hcs
    · obtain ⟨t, ht, rfl⟩ := mem_of_mem_openEnd hcs
      exact hneat t ht
    · rcases List.mem_cons.1 hcs with rfl | hcs
      · exact isNeat_segmentText "api2"
      · obtain rfl := List.mem_singleton.1 hcs
        exact isNeat_segmentText "json"
  · obtain ⟨t, -, rfl⟩ := List.mem_map.1 hcs
    exact isNeat_segmentText t

section
variable {api : Api} {list : List String} (hpath : api.base.path = .segments list)
  (hhost : api.base.host.isSome = true) {ss : List String} (hss : ∀ s ∈ ss, IsPlain s)

include hpath hhost hss

theorem url_eq : api.url ss =
    { api.base with path := .segments ((openEnd list ++ ["api2".toList, "json".toList] ++ ss.map segmentText).map
      String.ofList) } := by
  have hplain : ∀ s ∈ "api2" :: "json" :: ss, IsPlain s := by
    intro s hs
    rcases List.mem_cons.1 hs with rfl | hs
    · decide
    · rcases List.mem_cons.1 hs with rfl | hs
      · decide
      · exact hss s hs
  unfold Api.url
  rw [List.cons_append, List.cons_append, List.nil_append, extend_eq hpath hhost (by decide) hplain, List.append_assoc]
  rfl

variable (hneat : ∀ s ∈ list, IsNeat s.toList)

include hneat

theorem pieces_url : Text.pieces '/' (api.url ss).path.text.toList =
    [] :: openEnd list ++ ["api2".toList, "json".toList] ++ ss.map segmentText := by
  rw [url_eq hpath hhost hss, pieces_text (isNeat_below hneat ss)]
  simp [Function.comp_def]

/-- Below one endpoint, the target says which segments it is made of. -/
theorem segments_of_target {ss' : List String} (hss' : ∀ s ∈ ss', IsPlain s)
    (h : (api.url ss).target = (api.url ss').target) : ss = ss' := by
  have hquery : (api.url ss).query = (api.url ss').query := by
    rw [url_eq hpath hhost hss, url_eq hpath hhost hss']
  unfold target at h
  rw [hquery] at h
  have htext := (String.append_left_inj _).1 h
  have hpieces := pieces_url hpath hhost hss hneat
  rw [htext, pieces_url hpath hhost hss' hneat] at hpieces
  exact (List.map_injective_iff.2 segmentText_injective (List.append_cancel_left hpieces)).symm

end

end Api

/-- **Requests go where their segments say.** Below an accepted endpoint of the web, a list of plain segments changes
nothing of the endpoint but its path. Unless the endpoint's path is two slashes, the pieces of the path are those of
the endpoint, without an empty one at the end, then `api2`, `json` and one piece for each segment, which is decoded to
the segment and holds no delimiter. So the target says which segments these are, and what is asked for. In an endpoint
without query and fragment whose path does not end in a slash, one at the end changes no request. -/
theorem request_urls_faithful {endpoint token : String} {insecure : Bool} {api : Api}
    (hnew : Api.new endpoint token insecure = .ok api)
    (hweb : api.base.scheme = "http" ∨ api.base.scheme = "https") :
    (∀ ss, (∀ s ∈ ss, IsPlain s) →
      api.url ss = { api.base with path := (api.url ss).path } ∧
      (api.base.path.text ≠ "//" →
        Text.pieces '/' (api.url ss).path.text.toList =
          dropEmptyLast (Text.pieces '/' api.base.path.text.toList) ++ ["api2".toList, "json".toList] ++
            ss.map segmentText) ∧
      (∀ s ∈ ss, IsNeat (segmentText s) ∧ (percentDecode (segmentText s)).toByteArray = s.toUTF8) ∧
      ∀ c ∈ (api.url ss).path.text.toList, c ≠ '?' ∧ c ≠ '#') ∧
    (∀ ss ss', (∀ s ∈ ss, IsPlain s) → (∀ s ∈ ss', IsPlain s) → (api.url ss).target = (api.url ss').target →
      ss = ss') ∧
    (∀ q q' : Inquiry, (∀ s ∈ q.segments, IsPlain s) → (∀ s ∈ q'.segments, IsPlain s) →
      (q.request api).url.target = (q'.request api).url.target → ∀ form, q.sending form = q'.sending form) ∧
    (api.base.query = none → api.base.fragment = none →
      ((∀ front, api.base.path.text ≠ front ++ "/") ∨
        ∀ front, significant endpoint ≠ front ++ ['/'] ∧ significant endpoint ≠ front ++ ['\\']) →
      ∃ api', Api.new (withSlash endpoint) token insecure = .ok api' ∧ ∀ ss, api'.url ss = api.url ss) := by
  have hparse := Api.parse_of_new hnew
  obtain ⟨p, hp⟩ : ∃ p, schemeClass api.base.scheme = .web p := by
    rcases hweb with hscheme | hscheme
    · exact ⟨80, by rw [hscheme]; rfl⟩
    · exact ⟨443, by rw [hscheme]; rfl⟩
  obtain ⟨hhost, list, hpath, hne, hneat⟩ := web_of_parse hparse hp
  refine ⟨fun ss hss => ⟨?_, fun htwo => ?_, fun s _ => ?_, ?_⟩, fun ss ss' hss hss' htarget => ?_,
    fun q q' hq hq' htarget form => ?_, fun hquery hfragment hend => ?_⟩
  · rw [Api.url_eq hpath hhost hss]
  · have hroot : list ≠ ["", ""] := by
      rintro rfl
      exact htwo (congrArg Path.text hpath)
    rw [Api.pieces_url hpath hhost hss hneat, hpath, pieces_text hneat, dropEmptyLast_pieces hne hroot]
  · exact ⟨isNeat_segmentText s, percentDecode_segmentText s⟩
  · rw [Api.url_eq hpath hhost hss]
    exact isNeat_text (Api.isNeat_below hneat ss)
  · exact Api.segments_of_target hpath hhost hss hneat hss' htarget
  · exact Inquiry.sending_of_segments (Api.segments_of_target hpath hhost hq hneat hq' htarget) form
  · obtain ⟨base, hbase, hsegments, hextend⟩ := parse_withSlash hparse hp hquery hfragment hend
    exact ⟨_, Api.new_of_parse hbase hsegments token insecure, fun ss => hextend _⟩

/-- Below two slashes, requests go where they go below one. -/
example : (Api.url { Api.sample with base := { Api.sample.base with path := .segments ["", ""] } }
    ["version"]).path.text = "/api2/json/version" := by
  decide

/-- The web service of one machine, below a path. -/
def Api.sampleBelow : Api := { sample with base := { sample.base with path := .segments ["pve"] } }

theorem Api.new_sampleBelow : Api.new "http://10.0.0.1:8006/pve" "t" false = .ok sampleBelow := by
  have hparse : (Url.parse "http://10.0.0.1:8006/pve").toOption = some sampleBelow.base := by decide +kernel
  exact Api.new_of_parse (eq_ok_of_toOption hparse) rfl "t" false

/-- A datastore whose name is full of delimiters is asked for by itself, and a slash behind the endpoint does not
matter. -/
theorem request_urls_faithful_datastore :
    Api.new "http://10.0.0.1:8006/pve" "t" false = .ok Api.sampleBelow ∧
      (∀ s ∈ ["storage", "a/../%2F b?#"], IsPlain s) ∧
      Text.pieces '/' (Api.sampleBelow.url ["storage", "a/../%2F b?#"]).path.text.toList =
        ["".toList, "pve".toList, "api2".toList, "json".toList, "storage".toList,
          "a%2F..%2F%252F%20b%3F%23".toList] ∧
      ∃ api', Api.new "http://10.0.0.1:8006/pve/" "t" false = .ok api' ∧
        ∀ ss, api'.url ss = Api.sampleBelow.url ss := by
  have hplain : ∀ s ∈ ["storage", "a/../%2F b?#"], IsPlain s := by decide
  have hfaithful := request_urls_faithful Api.new_sampleBelow (.inl rfl)
  have hslash : withSlash "http://10.0.0.1:8006/pve" = "http://10.0.0.1:8006/pve/" := by decide
  have hend : ∀ front, significant "http://10.0.0.1:8006/pve" ≠ front ++ ['/'] ∧
      significant "http://10.0.0.1:8006/pve" ≠ front ++ ['\\'] := by
    intro front
    constructor <;> intro h <;> have hlast := congrArg List.getLast? h <;>
      rw [List.getLast?_concat] at hlast <;> revert hlast <;> decide
  refine ⟨Api.new_sampleBelow, hplain, ?_, hslash ▸ hfaithful.2.2.2 rfl rfl (.inr hend)⟩
  rw [(hfaithful.1 _ hplain).2.1 (by decide)]
  decide

end Cluster

end FilePlacement
