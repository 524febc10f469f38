import FilePlacement.Proofs.PercentEncoding
import FilePlacement.Proofs.Program
import FilePlacement.Url.Basic

/-!
# The paths of endpoints

What stands in front of the path of a web URL is read up to the first separator behind its host, so that one more
separator at the end goes to the path (`readFront_concat`). There it adds an empty segment to a path that ends in a
segment with characters, and nothing to one that is empty or ends in dots (`readPath_concat`).

A path that has been read under a web scheme has segments, which hold no separator and nothing that ends a path
(`readPath_segments`).
-/

namespace FilePlacement

/-! ## A character that stops -/

section
variable {p : Char → Bool} {c : Char} (hc : p c = false) (cs : List Char)

include hc

theorem takeWhile_concat_of_neg : (cs ++ [c]).takeWhile p = cs.takeWhile p := by
  rw [List.takeWhile_append]
  split
  · rename_i hall
    have hself : cs.takeWhile p = cs := (List.takeWhile_prefix p).eq_of_length hall
    simp [hc, hself]
  · rfl

theorem dropWhile_concat_of_neg : (cs ++ [c]).dropWhile p = cs.dropWhile p ++ [c] := by
  rw [List.dropWhile_append]
  split
  · rename_i hnil
    rw [List.isEmpty_iff.1 hnil]
    simp [hc]
  · rfl

end

namespace Url

/-! ## In front of a path -/

/-- What stands in front of a path, and what follows it. -/
structure Front where
  credentials : Option Credentials
  host : Host
  port : Option Nat
  rest : List Char

/-- The text of a port behind its colon, and what follows it. -/
def cutPort : List Char → List Char × List Char
  | ':' :: r => (r.takeWhile fun c => !endsPort c, r.dropWhile fun c => !endsPort c)
  | r => ([], r)

def readFront (cls : SchemeClass) (cs : List Char) : Except Invalid Front :=
  let cut := cutCredentials cls cs
  if cut.1 = some [] && cut.2.head?.any (endsAuthority cls) then .error .emptyHost
  else
    let host := cutHost cls false cut.2
    (readHost cls (cut.1.bind readCredentials) host.1 host.2).bind fun h =>
      (readPort cls (cutPort host.2).1).map fun port => ⟨cut.1.bind readCredentials, h, port, (cutPort host.2).2⟩

/-- The text of the path. -/
def Front.pathText (f : Front) : List Char := f.rest.takeWhile fun c => !endsPath c

/-- The whole URL. -/
def Front.url (scheme : String) (f : Front) : Url :=
  let tail := readTail (schemeClass scheme) (f.rest.dropWhile fun c => !endsPath c)
  ⟨scheme, f.credentials, some f.host, f.port, readPath (schemeClass scheme) f.pathText, tail.1, tail.2⟩

theorem readAuthority_eq (scheme : String) (cs : List Char) :
    readAuthority scheme cs = (readFront (schemeClass scheme) cs).map (Front.url scheme) := by
  unfold readAuthority readFront
  dsimp only
  split
  · rfl
  · generalize (cutCredentials (schemeClass scheme) cs).1.bind readCredentials = credentials
    generalize cutHost (schemeClass scheme) false (cutCredentials (schemeClass scheme) cs).2 = host
    obtain ⟨hostText, rest⟩ := host
    cases readHost (schemeClass scheme) credentials hostText rest with
    | error e => rfl
    | ok host =>
      have hport : ∀ cut : List Char × List Char,
          (readPort (schemeClass scheme) cut.1).bind (fun port => Except.ok (Front.url scheme
            ⟨credentials, host, port, cut.2⟩)) = ((readPort (schemeClass scheme) cut.1).map fun port =>
              (⟨credentials, host, port, cut.2⟩ : Front)).map (Front.url scheme) := by
        intro cut
        cases readPort (schemeClass scheme) cut.1 <;> rfl
      exact hport (cutPort rest)

/-! ### What is left for the path -/

theorem suffix_cutCredentials (cls : SchemeClass) (cs : List Char) : (cutCredentials cls cs).2 <:+ cs := by
  unfold cutCredentials
  split
  · exact List.drop_suffix _ _
  · exact List.suffix_refl cs

theorem suffix_cutHost (cls : SchemeClass) (inside : Bool) (cs : List Char) : (cutHost cls inside cs).2 <:+ cs := by
  induction cs generalizing inside with
  | nil => exact List.suffix_refl []
  | cons c r ih =>
    unfold cutHost
    split
    · exact List.suffix_refl _
    · exact (ih _).trans (List.suffix_cons c r)

theorem suffix_cutPort (cs : List Char) : (cutPort cs).2 <:+ cs := by
  unfold cutPort
  split
  · exact (List.dropWhile_suffix _).trans (List.suffix_cons ':' _)
  · exact List.suffix_refl _

/-- The rest is the end of what has been read. -/
theorem suffix_readFront {cls : SchemeClass} {cs : List Char} {f : Front} (h : readFront cls cs = .ok f) :
    f.rest <:+ cs := by
  unfold readFront at h
  dsimp only at h
  split at h
  · cases h
  · obtain ⟨host, -, h⟩ := bind_eq_ok.1 h
    generalize readPort cls (cutPort (cutHost cls false (cutCredentials cls cs).2).2).1 = port at h
    cases port with
    | error e => cases h
    | ok port =>
      obtain rfl := Except.ok.inj h
      exact ((suffix_cutPort _).trans (suffix_cutHost cls false _)).trans (suffix_cutCredentials cls cs)

theorem cutPort_of_ne {c : Char} (hc : c ≠ ':') (r : List Char) : cutPort (c :: r) = ([], c :: r) := by
  unfold cutPort
  split
  · rename_i heq
    exact absurd (List.cons.inj heq).1 hc
  · rfl

/-! ## One more separator -/

/-- The front with more text behind it. -/
def Front.concat (f : Front) (c : Char) : Front := { f with rest := f.rest ++ [c] }

section
variable {p : Nat} {c : Char} (hc : isSeparator (.web p) c = true)

include hc

theorem endsAuthority_of_isSeparator : endsAuthority (.web p) c = true := by
  unfold endsAuthority
  rw [hc]
  rfl

theorem eq_slash_or_backslash : c = '/' ∨ c = '\\' := by
  simpa [isSeparator, SchemeClass.isSpecial] using hc

theorem endsPort_of_isSeparator : endsPort c = true := by
  rcases eq_slash_or_backslash hc with rfl | rfl <;> rfl

theorem cutCredentials_concat (cs : List Char) :
    cutCredentials (.web p) (cs ++ [c]) =
      ((cutCredentials (.web p) cs).1, (cutCredentials (.web p) cs).2 ++ [c]) := by
  have hstop : (!endsAuthority (.web p) c) = false := by rw [endsAuthority_of_isSeparator hc]; rfl
  unfold cutCredentials
  rw [takeWhile_concat_of_neg hstop]
  cases hcut : Text.cutLast '@' (cs.takeWhile fun c => !endsAuthority (.web p) c) with
  | none => rfl
  | some found =>
    obtain ⟨front, back⟩ := found
    have hfront : front ++ '@' :: back <+: cs := by
      rw [← Text.eq_of_cutLast hcut]
      exact List.takeWhile_prefix _
    have hlength := hfront.length_le
    rw [List.length_append, List.length_cons] at hlength
    simp only [List.drop_append_of_le_length (show front.length + 1 ≤ cs.length by omega)]

theorem cutHost_concat (inside : Bool) (cs : List Char) :
    cutHost (.web p) inside (cs ++ [c]) = ((cutHost (.web p) inside cs).1, (cutHost (.web p) inside cs).2 ++ [c]) := by
  induction cs generalizing inside with
  | nil => simp [cutHost, endsAuthority_of_isSeparator hc]
  | cons d r ih =>
    simp only [List.cons_append, cutHost]
    split
    · rfl
    · rw [ih]

theorem cutPort_concat (cs : List Char) : cutPort (cs ++ [c]) = ((cutPort cs).1, (cutPort cs).2 ++ [c]) := by
  have hcolon : c ≠ ':' := by rcases eq_slash_or_backslash hc with rfl | rfl <;> decide
  have hstop : (!endsPort c) = false := by rw [endsPort_of_isSeparator hc]; rfl
  cases cs with
  | nil => exact cutPort_of_ne hcolon []
  | cons d r =>
    by_cases hd : d = ':'
    · subst hd
      exact Prod.ext (takeWhile_concat_of_neg hstop r) (dropWhile_concat_of_neg hstop r)
    · rw [List.cons_append, cutPort_of_ne hd, cutPort_of_ne hd, List.cons_append]

/-- A separator at the end goes to what follows. -/
theorem readFront_concat (cs : List Char) :
    readFront (.web p) (cs ++ [c]) = (readFront (.web p) cs).map (Front.concat · c) := by
  unfold readFront
  dsimp only
  rw [cutCredentials_concat hc]
  generalize cutCredentials (.web p) cs = cut
  obtain ⟨front, cs⟩ := cut
  dsimp only
  rw [cutHost_concat hc]
  cases cs with
  | nil =>
    -- Nothing in front of the separator is no host.
    have hempty : ∀ credentials rest, readHost (.web p) credentials [] rest = .error .emptyHost := fun _ _ => rfl
    have hnothing : cutHost (.web p) false [] = ([], []) := rfl
    simp only [hnothing, hempty, Except.bind, Except.map, ite_self]
  | cons d r =>
    have hguard : ((d :: r) ++ [c]).head? = (d :: r).head? := rfl
    rw [hguard]
    generalize (decide (front = some []) && (d :: r).head?.any (endsAuthority (.web p))) = guard
    cases guard with
    | true => rfl
    | false =>
      dsimp only [Bool.false_eq_true, if_false]
      rw [cutPort_concat hc]
      have hhost : ∀ credentials cs rest rest', readHost (.web p) credentials cs rest =
          readHost (.web p) credentials cs rest' := fun _ _ _ _ => rfl
      rw [hhost _ _ _ (cutHost (.web p) false (d :: r)).2]
      cases readHost (.web p) (front.bind readCredentials) (cutHost (.web p) false (d :: r)).1
          (cutHost (.web p) false (d :: r)).2 with
      | error e => rfl
      | ok host => cases readPort (.web p) (cutPort (cutHost (.web p) false (d :: r)).2).1 <;> rfl

end

/-! ## Paths -/

/-- The last segment comes behind all others. -/
theorem addSegments_concat (done raw : List (List Char)) (segment : List Char) :
    addSegments done (raw ++ [segment]) =
      addSegment (raw.foldl (fun done s => addSegment done s true) done) segment false := by
  induction raw generalizing done with
  | nil => rfl
  | cons s raw ih =>
    cases raw with
    | nil => rfl
    | cons t raw => exact ih (addSegment done s true)

/-- The end of a path. -/
theorem addSegment_nil (done : List (List Char)) (more : Bool) : addSegment done [] more = done ++ [[]] := by
  simp [addSegment, isDoubleDot, isSingleDot, plainDots]

/-- Behind dots one more separator changes nothing, behind any other segment it opens an empty one. -/
theorem addSegments_open (done raw : List (List Char)) (segment : List Char) :
    addSegments done (raw ++ [segment] ++ [[]]) = addSegments done (raw ++ [segment]) ∨
      ∃ front, addSegments done (raw ++ [segment]) = front ++ [segment] ∧
        addSegments done (raw ++ [segment] ++ [[]]) = front ++ [segment] ++ [[]] := by
  rw [addSegments_concat, addSegments_concat, addSegment_nil, List.foldl_append, List.foldl_cons, List.foldl_nil]
  generalize raw.foldl (fun done s => addSegment done s true) done = front
  unfold addSegment
  by_cases hdouble : isDoubleDot segment = true
  · left
    simp only [hdouble, if_true, Bool.false_eq_true, if_false]
  · by_cases hsingle : isSingleDot segment = true
    · left
      simp only [hdouble, hsingle, if_true, Bool.false_eq_true, if_false]
    · right
      simp only [hdouble, hsingle, Bool.false_eq_true, if_false]
      exact ⟨front, rfl, rfl⟩

theorem rawSegments_ne_nil (cls : SchemeClass) (cs : List Char) : rawSegments cls cs ≠ [] := Text.pieces_ne_nil _ _

theorem rawSegments_concat {cls : SchemeClass} {c : Char} (hc : isSeparator cls c = true) (cs : List Char) :
    rawSegments cls (cs ++ [c]) = rawSegments cls cs ++ [[]] := by
  unfold rawSegments
  rw [List.map_append, List.map_cons, List.map_nil, if_pos hc, Text.pieces_append]
  rfl

/-- A text whose last segment is empty is empty or ends in a separator. -/
theorem ends_of_rawSegments {cls : SchemeClass} {cs : List Char} {front : List (List Char)}
    (h : rawSegments cls cs = front ++ [[]]) : cs = [] ∨ ∃ init c, cs = init ++ [c] ∧ isSeparator cls c = true := by
  rcases List.eq_nil_or_concat cs with rfl | ⟨init, c, rfl⟩
  · exact .inl rfl
  · rw [List.concat_eq_append] at h ⊢
    refine .inr ⟨init, c, rfl, ?_⟩
    cases hc : isSeparator cls c with
    | true => rfl
    | false =>
      unfold rawSegments at h
      rw [List.map_append, List.map_cons, List.map_nil, hc] at h
      have hslash : '/' ∉ [c] := by
        rintro hmem
        obtain rfl := List.mem_singleton.1 hmem
        cases hc
      obtain ⟨front', last, -, hpieces⟩ := Text.pieces_append_of_not_mem (init.map _) hslash
      have hlast := congrArg List.getLast? (hpieces.symm.trans h)
      simp at hlast

theorem percentEncode_eq_nil_iff {mustEncode : Char → Bool} {cs : List Char} :
    percentEncode mustEncode cs = [] ↔ cs = [] := by
  cases cs with
  | nil => exact iff_of_true rfl rfl
  | cons c cs =>
    refine iff_of_false (fun h => ?_) (List.cons_ne_nil c cs)
    unfold percentEncode at h
    rw [List.flatMap_cons, List.append_eq_nil_iff] at h
    have hfirst := h.1
    split at hfirst
    · obtain ⟨b, rest, hb⟩ := List.exists_cons_of_ne_nil (String.utf8EncodeChar_ne_nil (c := c))
      rw [hb, List.flatMap_cons, List.append_eq_nil_iff, percentByte] at hfirst
      exact List.cons_ne_nil _ _ hfirst.1
    · exact List.cons_ne_nil _ _ hfirst

/-- One more separator at the end of a path changes nothing, or it opens an empty segment behind one with characters,
or behind an empty one that a separator has opened. -/
theorem readPath_concat {p : Nat} {c : Char} (hc : isSeparator (.web p) c = true) (cs : List Char) :
    readPath (.web p) (cs ++ [c]) = readPath (.web p) cs ∨
      ∃ list s, readPath (.web p) cs = .segments (list ++ [s]) ∧
        readPath (.web p) (cs ++ [c]) = .segments (list ++ [s] ++ [""]) ∧
        (s = "" → ∃ init c, cs = init ++ [c] ∧ isSeparator (.web p) c = true) := by
  have hread : ∀ r : List Char, readSegments (.web p) [] (r ++ [c]) = readSegments (.web p) [] r ∨
      ∃ list s, readSegments (.web p) [] r = .segments (list ++ [s]) ∧
        readSegments (.web p) [] (r ++ [c]) = .segments (list ++ [s] ++ [""]) ∧
        (s = "" → r = [] ∨ ∃ init c, r = init ++ [c] ∧ isSeparator (.web p) c = true) := by
    intro r
    obtain ⟨front, last, hraw⟩ : ∃ front last, rawSegments (.web p) r = front ++ [last] :=
      ⟨_, _, (List.dropLast_concat_getLast (rawSegments_ne_nil (.web p) r)).symm⟩
    have hempty : percentEncode inPathSet last = [] → r = [] ∨
        ∃ init c, r = init ++ [c] ∧ isSeparator (.web p) c = true := by
      intro hlast
      rw [percentEncode_eq_nil_iff] at hlast
      exact ends_of_rawSegments (hlast ▸ hraw)
    unfold readSegments
    rw [rawSegments_concat hc, hraw]
    simp only [List.map_append, List.map_cons, List.map_nil]
    rcases addSegments_open [] (front.map (percentEncode inPathSet)) (percentEncode inPathSet last) with
      hsame | ⟨done, hold, hopen⟩
    · exact .inl (congrArg (fun list => Path.segments (list.map String.ofList)) hsame)
    · refine .inr ⟨done.map String.ofList, String.ofList (percentEncode inPathSet last), ?_, ?_, fun hs => ?_⟩
      · rw [hold, List.map_append]
        rfl
      · rw [show percentEncode inPathSet [] = [] from rfl, hopen, List.map_append, List.map_append]
        rfl
      · exact hempty (String.ofList_inj.1 hs)
  unfold readPath
  cases cs with
  | nil =>
    left
    simp only [List.nil_append, hc, if_true]
    rfl
  | cons d r =>
    simp only [List.cons_append]
    by_cases hd : isSeparator (.web p) d = true
    · simp only [hd, if_true]
      refine (hread r).imp_right fun ⟨list, s, hold, hopen, hs⟩ => ⟨list, s, hold, hopen, fun hempty => ?_⟩
      rcases hs hempty with rfl | ⟨init, c, rfl, hsep⟩
      · exact ⟨[], d, rfl, hd⟩
      · exact ⟨d :: init, c, rfl, hsep⟩
    · simp only [hd, Bool.false_eq_true, if_false]
      refine (hread (d :: r)).imp_right fun ⟨list, s, hold, hopen, hs⟩ => ⟨list, s, hold, hopen, fun hempty => ?_⟩
      exact (hs hempty).resolve_left (List.cons_ne_nil d r)

/-! ### The segments of a path -/

/-- Nothing in a segment separates segments or ends the path. -/
def IsNeat (segment : List Char) : Prop := ∀ c ∈ segment, c ≠ '/' ∧ c ≠ '?' ∧ c ≠ '#'

theorem not_mem_escapeChars {c : Char} (hc : c ∈ escapeChars) : c ≠ '/' ∧ c ≠ '?' ∧ c ≠ '#' := by
  refine ⟨?_, ?_, ?_⟩ <;> rintro rfl <;> revert hc <;> decide

theorem isNeat_percentEncode {cs : List Char} (hcs : '/' ∉ cs) : IsNeat (percentEncode inPathSet cs) := by
  intro c hc
  rcases mem_percentEncode hc with hescape | ⟨hmem, hkept, -⟩
  · exact not_mem_escapeChars hescape
  · refine ⟨fun hslash => hcs (hslash ▸ hmem), ?_, ?_⟩ <;>
    · rintro rfl
      cases hkept

theorem mem_leave {done : List (List Char)} {s : List Char} (hs : s ∈ leave done) : s ∈ done := by
  unfold leave at hs
  split at hs
  · split at hs
    · exact hs
    · exact (List.dropLast_sublist done).subset hs
  · exact hs

theorem mem_addSegment {done : List (List Char)} {segment s : List Char} {more : Bool}
    (hs : s ∈ addSegment done segment more) : s = [] ∨ s ∈ done ∨ s = segment := by
  have hopen : ∀ {front}, s ∈ front ++ [[]] → s = [] ∨ s ∈ front := by
    intro front hs
    rcases List.mem_append.1 hs with hs | hs
    · exact .inr hs
    · exact .inl (List.mem_singleton.1 hs)
  unfold addSegment at hs
  split at hs
  · split at hs
    · exact .inr (.inl (mem_leave hs))
    · exact (hopen hs).imp_right fun hs => .inl (mem_leave hs)
  · split at hs
    · split at hs
      · exact .inr (.inl hs)
      · exact (hopen hs).imp_right .inl
    · rcases List.mem_append.1 hs with hs | hs
      · exact .inr (.inl hs)
      · exact .inr (.inr (List.mem_singleton.1 hs))

theorem mem_addSegments {done raw : List (List Char)} {s : List Char} (hs : s ∈ addSegments done raw) :
    s = [] ∨ s ∈ done ∨ s ∈ raw := by
  induction raw generalizing done with
  | nil => exact .inr (.inl hs)
  | cons t raw ih =>
    have hfirst : ∀ more, s ∈ addSegment done t more → s = [] ∨ s ∈ done ∨ s ∈ t :: raw := by
      intro more hs
      rcases mem_addSegment hs with hs | hs | rfl
      · exact .inl hs
      · exact .inr (.inl hs)
      · exact .inr (.inr List.mem_cons_self)
    cases raw with
    | nil => exact hfirst false hs
    | cons u raw =>
      rcases ih hs with hs | hs | hs
      · exact .inl hs
      · exact hfirst true hs
      · exact .inr (.inr (List.mem_cons_of_mem t hs))

theorem addSegments_ne_nil {raw : List (List Char)} (hraw : raw ≠ []) (done : List (List Char)) :
    addSegments done raw ≠ [] := by
  obtain ⟨front, last, rfl⟩ : ∃ front last, raw = front ++ [last] :=
    ⟨_, _, (List.dropLast_concat_getLast hraw).symm⟩
  rw [addSegments_concat]
  unfold addSegment
  split
  · simp
  · split <;> simp

/-- A path that is read under a web scheme has segments. -/
theorem readPath_segments (p : Nat) (cs : List Char) :
    ∃ list, readPath (.web p) cs = .segments list ∧ list ≠ [] ∧ ∀ s ∈ list, IsNeat s.toList := by
  have hread : ∀ r, ∃ list, readSegments (.web p) [] r = .segments list ∧ list ≠ [] ∧ ∀ s ∈ list, IsNeat s.toList := by
    intro r
    have hraw : (rawSegments (.web p) r).map (percentEncode inPathSet) ≠ [] := by
      simpa using rawSegments_ne_nil (.web p) r
    refine ⟨_, rfl, by simpa using addSegments_ne_nil hraw [], fun s hs => ?_⟩
    obtain ⟨segment, hsegment, rfl⟩ := List.mem_map.1 hs
    rw [String.toList_ofList]
    rcases mem_addSegments hsegment with rfl | hmem | hmem
    · exact fun c hc => absurd hc List.not_mem_nil
    · exact absurd hmem List.not_mem_nil
    · obtain ⟨piece, hpiece, rfl⟩ := List.mem_map.1 hmem
      exact isNeat_percentEncode (Text.not_mem_of_mem_pieces hpiece)
  unfold readPath
  split
  · refine ⟨[""], rfl, List.cons_ne_nil _ _, fun s hs => ?_⟩
    obtain rfl := List.mem_singleton.1 hs
    exact fun c hc => absurd hc (by simp)
  · split
    · exact hread _
    · exact hread _

/-! ## Reading an endpoint -/

theorem scheme_of_readAuthority {scheme : String} {cs : List Char} {u : Url} (h : readAuthority scheme cs = .ok u) :
    ∃ f, readFront (schemeClass scheme) cs = .ok f ∧ u = f.url scheme := by
  rw [readAuthority_eq] at h
  cases hf : readFront (schemeClass scheme) cs with
  | error e => rw [hf] at h; cases h
  | ok f =>
    rw [hf] at h
    exact ⟨f, rfl, (Except.ok.inj h).symm⟩

theorem scheme_of_readFileScheme {cs : List Char} {u : Url} (h : readFileScheme cs = .ok u) : u.scheme = "file" := by
  have hread : ∀ (p : Prop) [Decidable p] (a b : Except Invalid Host) (next : Host → Except Invalid Url),
      (if p then a >>= next else b >>= next) = .ok u → ∃ host, next host = .ok u := by
    intro p _ a b next h
    split at h
    · obtain ⟨host, -, h⟩ := bind_eq_ok.1 h
      exact ⟨host, h⟩
    · obtain ⟨host, -, h⟩ := bind_eq_ok.1 h
      exact ⟨host, h⟩
  unfold readFileScheme at h
  obtain ⟨host, h⟩ := hread _ _ _ _ h
  exact (congrArg Url.scheme (Except.ok.inj h)).symm

theorem scheme_of_readUnknown {scheme : String} {cs : List Char} {u : Url} (h : readUnknown scheme cs = .ok u) :
    u.scheme = scheme := by
  unfold readUnknown at h
  split at h
  · obtain ⟨f, -, rfl⟩ := scheme_of_readAuthority h
    rfl
  · dsimp only at h
    split at h <;>
    · obtain rfl := Except.ok.inj h
      rfl

/-- What has been read under a web scheme is a front with a path behind it. -/
theorem front_of_parse {s : String} {u : Url} {p : Nat} (h : parse s = .ok u) (hp : schemeClass u.scheme = .web p) :
    ∃ rest f, cutScheme (significant s) = some (u.scheme, rest) ∧
      readFront (.web p) (rest.dropWhile (isSeparator (.web p))) = .ok f ∧ u = f.url u.scheme := by
  unfold parse at h
  split at h
  · rename_i scheme rest hcut
    unfold readScheme at h
    split at h
    · rename_i p' hclass
      obtain ⟨f, hf, rfl⟩ := scheme_of_readAuthority h
      obtain rfl : p' = p := by
        rw [show (f.url scheme).scheme = scheme from rfl, hclass] at hp
        exact SchemeClass.web.inj hp
      exact ⟨rest, f, hcut, hclass ▸ hf, rfl⟩
    · rw [scheme_of_readFileScheme h] at hp
      cases hp
    · rename_i hclass
      rw [scheme_of_readUnknown h, hclass] at hp
      cases hp
  · cases h

theorem isSkipped_eq_false {c : Char} (hc : isMargin c = false) : isSkipped c = false := by
  cases hskipped : isSkipped c with
  | false => rfl
  | true =>
    have hwhite : c = '\t' ∨ c = '\n' ∨ c = '\r' := by simpa [isSkipped, or_assoc] using hskipped
    rcases hwhite with rfl | rfl | rfl <;> cases hc

/-- A text whose margin is left out ends in a character that counts. -/
theorem significant_eq {init margin : List Char} {c : Char} (hc : isMargin c = false)
    (hmargin : ∀ m ∈ margin, isMargin m = true) :
    significant (String.ofList (init ++ c :: margin)) =
      (init.dropWhile isMargin).filter (fun c => !isSkipped c) ++ [c] := by
  have hfront : (init ++ c :: margin).dropWhile isMargin = init.dropWhile isMargin ++ [c] ++ margin := by
    rw [List.append_cons, List.dropWhile_append, dropWhile_concat_of_neg hc, if_neg (by simp)]
  have hback : ((init.dropWhile isMargin ++ [c] ++ margin).reverse.dropWhile isMargin).reverse =
      init.dropWhile isMargin ++ [c] := by
    rw [List.reverse_append, List.dropWhile_append_of_pos fun m hm => hmargin m (List.mem_reverse.1 hm)]
    simp [hc]
  unfold significant
  dsimp only
  rw [String.toList_ofList, hfront, hback, List.filter_append]
  simp [isSkipped_eq_false hc]

theorem suffix_cutScheme {cs rest : List Char} {scheme : String} (h : cutScheme cs = some (scheme, rest)) :
    rest <:+ cs := by
  unfold cutScheme at h
  split at h
  · rename_i d front back hcut
    rw [Text.eq_of_cut hcut]
    split at h
    · obtain ⟨-, rfl⟩ := Prod.mk.inj (Option.some.inj h)
      exact ⟨d :: front ++ [':'], by simp⟩
    · cases h
  · cases h

theorem cutScheme_concat {cs rest : List Char} {scheme : String} (h : cutScheme cs = some (scheme, rest)) (c : Char) :
    cutScheme (cs ++ [c]) = some (scheme, rest ++ [c]) := by
  unfold cutScheme at h ⊢
  split at h
  · rename_i d front back hcut
    obtain ⟨rfl, hcolon⟩ := Text.cut_eq_some_iff.1 hcut
    split at h
    · rename_i hchars
      obtain ⟨rfl, rfl⟩ := Prod.mk.inj (Option.some.inj h)
      have hcut' : Text.cut ':' (d :: front ++ ':' :: back ++ [c]) = some (d :: front, back ++ [c]) :=
        Text.cut_eq_some_iff.2 ⟨by simp, hcolon⟩
      rw [hcut']
      simp only [hchars, if_true]
    · cases h
  · cases h

/-- One more separator at the end of a text goes to what follows the front. -/
theorem parse_concat {s s' : String} {u : Url} {p : Nat} {c : Char} (h : parse s = .ok u)
    (hp : schemeClass u.scheme = .web p) (hc : isSeparator (.web p) c = true)
    (hs : significant s' = significant s ++ [c]) :
    ∃ f : Front, u = f.url u.scheme ∧ f.rest <:+ significant s ∧ parse s' = .ok ((f.concat c).url u.scheme) := by
  obtain ⟨rest, f, hcut, hf, hu⟩ := front_of_parse h hp
  have hsuffix := ((suffix_readFront hf).trans (List.dropWhile_suffix _)).trans (suffix_cutScheme hcut)
  refine ⟨f, hu, hsuffix, ?_⟩
  have hrest : (rest ++ [c]).dropWhile (isSeparator (.web p)) = rest.dropWhile (isSeparator (.web p)) ++ [c] := by
    rw [List.dropWhile_append, if_neg]
    intro hnil
    rw [List.isEmpty_iff.1 hnil] at hf
    cases hf
  unfold parse
  rw [hs, cutScheme_concat hcut]
  unfold readScheme
  dsimp only
  rw [hp]
  dsimp only
  rw [hrest, readAuthority_eq, hp, readFront_concat hc, hf]
  rfl

theorem readTail_ne_none {cls : SchemeClass} {d : Char} (hd : endsPath d = true) (r : List Char)
    (hq : (readTail cls (d :: r)).1 = none) : (readTail cls (d :: r)).2 ≠ none := by
  have hends : d = '?' ∨ d = '#' := by simpa [endsPath] using hd
  rcases hends with rfl | rfl
  · simp [readTail] at hq
  · simp [readTail, Text.cut]

/-- Without query and fragment, the path goes on to the end. -/
theorem dropWhile_rest_eq_nil {f : Front} {scheme : String} (hq : (f.url scheme).query = none)
    (hf : (f.url scheme).fragment = none) : f.rest.dropWhile (fun c => !endsPath c) = [] := by
  cases hrest : f.rest.dropWhile (fun c => !endsPath c) with
  | nil => rfl
  | cons d r =>
    have hd : endsPath d = true := by
      have hhead := List.head?_dropWhile_not (fun c => !endsPath c) f.rest
      rw [hrest] at hhead
      simpa using hhead
    unfold Front.url at hq hf
    rw [hrest] at hq hf
    exact absurd hf (readTail_ne_none hd r hq)

theorem pathText_eq_rest {f : Front} {scheme : String} (hq : (f.url scheme).query = none)
    (hf : (f.url scheme).fragment = none) : f.pathText = f.rest := by
  have hboth := List.takeWhile_append_dropWhile (p := fun c => !endsPath c) (l := f.rest)
  rwa [dropWhile_rest_eq_nil hq hf, List.append_nil] at hboth

theorem url_concat {f : Front} {scheme : String} {c : Char} (hc : endsPath c = false)
    (hq : (f.url scheme).query = none) (hf : (f.url scheme).fragment = none) :
    (f.concat c).url scheme = { f.url scheme with path := readPath (schemeClass scheme) (f.pathText ++ [c]) } := by
  have hall := dropWhile_rest_eq_nil hq hf
  have hrest : f.rest.takeWhile (fun c => !endsPath c) = f.rest := pathText_eq_rest hq hf
  have hmore : (f.rest ++ [c]).takeWhile (fun c => !endsPath c) = f.rest ++ [c] ∧
      (f.rest ++ [c]).dropWhile (fun c => !endsPath c) = [] := by
    rw [List.takeWhile_append, List.dropWhile_append, hrest, hall]
    simp [hc]
  unfold Front.url Front.concat Front.pathText
  dsimp only
  rw [hmore.1, hmore.2, hrest, hall]

end Url

end FilePlacement
