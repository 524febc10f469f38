import FilePlacement.Proofs.Program
import FilePlacement.Reconcile

/-!
# Identities in their written form

The written form of an identity reads back as the identity just where its parts can be told apart
again (`VolumeId.Readable`): the datastore has no colon, the middle part has no slash, and no part is
empty. Reading accepts the written forms of readable identities and nothing else
(`VolumeId.parse_eq_ok_iff`), so that no text has two readings; the same holds with a node in front
(`VolumeId.parseOnNode_eq_ok_iff`). `identity_codec` puts this together and carries it over to files
that are taken over by their identity.
-/

namespace FilePlacement

namespace VolumeId

/-- The parts can be told apart in the written form. A file name may hold both delimiters, the middle
part colons. -/
structure Readable (v : VolumeId) : Prop where
  datastore_ne : v.datastore ≠ ""
  colon_not_mem : ':' ∉ v.datastore.toList
  contentType_ne : v.contentType ≠ ""
  slash_not_mem : '/' ∉ v.contentType.toList
  fileName_ne : v.fileName ≠ ""

/-- There is a first colon with something in front of it, and in the rest a first slash with something
on both sides. -/
def Divided (id : List Char) : Prop :=
  ∃ datastore rest, id = datastore ++ ':' :: rest ∧ ':' ∉ datastore ∧ datastore ≠ [] ∧
    ∃ kind name, rest = kind ++ '/' :: name ∧ '/' ∉ kind ∧ kind ≠ [] ∧ name ≠ []

theorem toList_format (v : VolumeId) :
    v.format.toList = v.datastore.toList ++ ':' :: (v.contentType.toList ++ '/' :: v.fileName.toList) := by
  simp [format]

theorem split?_eq_some_iff {id datastore kind name : List Char} :
    split? id = some (datastore, kind, name) ↔ id = datastore ++ ':' :: (kind ++ '/' :: name) ∧
      ':' ∉ datastore ∧ datastore ≠ [] ∧ '/' ∉ kind ∧ kind ≠ [] ∧ name ≠ [] := by
  unfold split?
  constructor
  · intro h
    cases hcut : Text.cutProper ':' id with
    | none => simp [hcut] at h
    | some p =>
      obtain ⟨a, rest⟩ := p
      simp only [hcut, Option.map_eq_some_iff, Prod.mk.injEq, Prod.exists] at h
      obtain ⟨k, n, hkn, rfl, rfl, rfl⟩ := h
      obtain ⟨hid, hcolon, ha, -⟩ := Text.cutProper_eq_some_iff.1 hcut
      obtain ⟨hrest, hslash, hk, hn⟩ := Text.cutProper_eq_some_iff.1 hkn
      exact ⟨hrest ▸ hid, hcolon, ha, hslash, hk, hn⟩
  · rintro ⟨hid, hcolon, ha, hslash, hk, hn⟩
    have hcut : Text.cutProper ':' id = some (datastore, kind ++ '/' :: name) :=
      Text.cutProper_eq_some_iff.2 ⟨hid, hcolon, ha, by simp⟩
    have hrest : Text.cutProper '/' (kind ++ '/' :: name) = some (kind, name) :=
      Text.cutProper_eq_some_iff.2 ⟨rfl, hslash, hk, hn⟩
    simp [hcut, hrest]

theorem exists_split?_iff {id : List Char} : (∃ p, split? id = some p) ↔ Divided id := by
  constructor
  · rintro ⟨⟨datastore, kind, name⟩, h⟩
    obtain ⟨rfl, hcolon, hd, hslash, hk, hn⟩ := split?_eq_some_iff.1 h
    exact ⟨datastore, _, rfl, hcolon, hd, kind, name, rfl, hslash, hk, hn⟩
  · rintro ⟨datastore, rest, rfl, hcolon, hd, kind, name, rfl, hslash, hk, hn⟩
    exact ⟨_, split?_eq_some_iff.2 ⟨rfl, hcolon, hd, hslash, hk, hn⟩⟩

/-- Reading accepts just the written forms of readable identities. -/
theorem parse_eq_ok_iff {id : String} {v : VolumeId} : parse id = .ok v ↔ v.format = id ∧ v.Readable := by
  unfold parse
  constructor
  · intro h
    cases hs : split? id.toList with
    | none => simp [hs] at h
    | some p =>
      obtain ⟨datastore, kind, name⟩ := p
      simp only [hs, Except.ok.injEq] at h
      subst h
      obtain ⟨hid, hcolon, hd, hslash, hk, hn⟩ := split?_eq_some_iff.1 hs
      have hformat : format ⟨String.ofList datastore, String.ofList kind, String.ofList name⟩ = id := by
        rw [← String.toList_inj, toList_format, hid]
        simp
      exact ⟨hformat, by simpa using hd, by simpa using hcolon, by simpa using hk, by simpa using hslash,
        by simpa using hn⟩
  · rintro ⟨rfl, hv⟩
    have hs : split? v.format.toList = some (v.datastore.toList, v.contentType.toList, v.fileName.toList) := by
      refine split?_eq_some_iff.2 ⟨v.toList_format, hv.colon_not_mem, ?_, hv.slash_not_mem, ?_, ?_⟩
      · simpa using hv.datastore_ne
      · simpa using hv.contentType_ne
      · simpa using hv.fileName_ne
    simp [hs]

theorem exists_parse_iff {id : String} : (∃ v, parse id = .ok v) ↔ Divided id.toList := by
  rw [← exists_split?_iff]
  unfold parse
  cases split? id.toList <;> simp

theorem parse_eq_error_iff {id : String} {f : Fault} :
    parse id = .error f ↔ f = .malformedIdentity id .volume ∧ ¬ Divided id.toList := by
  rw [← exists_split?_iff]
  unfold parse
  cases split? id.toList with
  | none => simp [eq_comm]
  | some p => simp

theorem parse_format_iff {v : VolumeId} : parse v.format = .ok v ↔ v.Readable := by
  rw [parse_eq_ok_iff]
  simp

/-- Where the delimiters do not stand in the parts in front of them, the written form has the parts. -/
theorem eq_of_format_eq {v w : VolumeId} (h : v.format = w.format) (hv : ':' ∉ v.datastore.toList)
    (hw : ':' ∉ w.datastore.toList) (hv' : '/' ∉ v.contentType.toList) (hw' : '/' ∉ w.contentType.toList) :
    v = w := by
  have hlists := congrArg String.toList h
  rw [toList_format, toList_format] at hlists
  have hcolon := Text.cut_eq_some_iff.2 ⟨hlists, hw⟩
  rw [Text.cut_eq_some_iff.2 ⟨rfl, hv⟩] at hcolon
  obtain ⟨hdatastore, hrest⟩ := Prod.mk.inj (Option.some.inj hcolon)
  have hslash := Text.cut_eq_some_iff.2 ⟨hrest, hw'⟩
  rw [Text.cut_eq_some_iff.2 ⟨rfl, hv'⟩] at hslash
  obtain ⟨hkind, hname⟩ := Prod.mk.inj (Option.some.inj hslash)
  obtain ⟨vd, vk, vn⟩ := v
  obtain ⟨wd, wk, wn⟩ := w
  simp only [String.toList_inj] at hdatastore hkind hname
  rw [hdatastore, hkind, hname]

theorem slash_not_mem_name (kind : ContentKind) : '/' ∉ kind.name.toList := by
  cases kind <;> decide

theorem name_ne_empty (kind : ContentKind) : kind.name ≠ "" := by
  cases kind <;> decide

/-- The name of a content kind does not stand in the way of reading. -/
theorem readable_of_kind {datastore name : String} (kind : ContentKind) (hdatastore : datastore ≠ "")
    (hcolon : ':' ∉ datastore.toList) (hname : name ≠ "") : Readable ⟨datastore, kind.name, name⟩ where
  datastore_ne := hdatastore
  colon_not_mem := hcolon
  contentType_ne := name_ne_empty kind
  slash_not_mem := slash_not_mem_name kind
  fileName_ne := hname

/-- With a node in front, reading accepts just a node without a slash and a readable identity. -/
theorem parseOnNode_eq_ok_iff {id node : String} {v : VolumeId} :
    parseOnNode id = .ok (node, v) ↔
      node ++ "/" ++ v.format = id ∧ node ≠ "" ∧ '/' ∉ node.toList ∧ v.Readable := by
  unfold parseOnNode
  constructor
  · intro h
    cases hcut : Text.cutProper '/' id.toList with
    | none => simp [hcut] at h
    | some p =>
      obtain ⟨front, rest⟩ := p
      obtain ⟨hid, hslash, hfront, -⟩ := Text.cutProper_eq_some_iff.1 hcut
      cases hparse : parse (String.ofList rest) with
      | error f => simp [hcut, hparse, Except.map] at h
      | ok w =>
        simp only [hcut, hparse, Except.map, Except.ok.injEq, Prod.mk.injEq] at h
        obtain ⟨rfl, rfl⟩ := h
        obtain ⟨hrest, hw⟩ := parse_eq_ok_iff.1 hparse
        refine ⟨?_, by simpa using hfront, by simpa using hslash, hw⟩
        rw [← String.toList_inj, hid, hrest]
        simp
  · rintro ⟨rfl, hnode, hslash, hv⟩
    have hcut : Text.cutProper '/' (node ++ "/" ++ v.format).toList = some (node.toList, v.format.toList) := by
      refine Text.cutProper_eq_some_iff.2 ⟨by simp, hslash, by simpa using hnode, ?_⟩
      simp [toList_format]
    rw [hcut]
    simp [parse_format_iff.2 hv, Except.map]

end VolumeId

namespace Reconciler

/-- The first record of a file that is taken over. -/
def takenOver (node : String) (v : VolumeId) : State :=
  { State.blank with
    id := v.format, nodeName := node, datastoreId := v.datastore, contentType := v.contentType, fileName := v.fileName }

theorem importState_eq_ok_iff {id : String} {state : State} :
    importState id = .ok state ↔
      ∃ node v, VolumeId.parseOnNode id = .ok (node, v) ∧ state = takenOver node v := by
  unfold importState
  rw [bind_eq_ok]
  constructor
  · rintro ⟨⟨node, v⟩, hparse, hstate⟩
    exact ⟨node, v, hparse, (Except.ok.inj hstate).symm⟩
  · rintro ⟨node, v, hparse, rfl⟩
    exact ⟨(node, v), hparse, rfl⟩

end Reconciler

open Reconciler

/-- What is read is written as it was read, and what is written is read as it was just where it is
readable. A file is taken over by its identity with its node in front, with the parts that these are
read as. -/
theorem identity_codec :
    (∀ id v, VolumeId.parse id = .ok v → v.format = id) ∧
    (∀ id, (∃ v, VolumeId.parse id = .ok v) ↔ VolumeId.Divided id.toList) ∧
    (∀ id, ¬ VolumeId.Divided id.toList → VolumeId.parse id = .error (.malformedIdentity id .volume)) ∧
    (∀ v : VolumeId, VolumeId.parse v.format = .ok v ↔ v.Readable) ∧
    (∀ id state, importState id = .ok state →
      state.nodeName ++ "/" ++ state.id = id ∧ state.nodeName ≠ "" ∧ '/' ∉ state.nodeName.toList ∧
        VolumeId.parse state.id = .ok ⟨state.datastoreId, state.contentType, state.fileName⟩) ∧
    (∀ (node : String) (v : VolumeId), node ≠ "" → '/' ∉ node.toList → v.Readable →
      ∃ state, importState (node ++ "/" ++ v.format) = .ok state ∧ state.nodeName = node ∧ state.id = v.format ∧
        state.datastoreId = v.datastore ∧ state.contentType = v.contentType ∧ state.fileName = v.fileName) := by
  refine ⟨?_, ?_, ?_, ?_, ?_, ?_⟩
  · intro id v h
    exact (VolumeId.parse_eq_ok_iff.1 h).1
  · intro id
    exact VolumeId.exists_parse_iff
  · intro id h
    exact VolumeId.parse_eq_error_iff.2 ⟨rfl, h⟩
  · intro v
    exact VolumeId.parse_format_iff
  · intro id state h
    obtain ⟨node, v, hparse, rfl⟩ := importState_eq_ok_iff.1 h
    obtain ⟨hid, hnode, hslash, hv⟩ := VolumeId.parseOnNode_eq_ok_iff.1 hparse
    exact ⟨hid, hnode, hslash, VolumeId.parse_format_iff.2 hv⟩
  · intro node v hnode hslash hv
    have hparse := VolumeId.parseOnNode_eq_ok_iff.2 ⟨rfl, hnode, hslash, hv⟩
    exact ⟨takenOver node v, importState_eq_ok_iff.2 ⟨node, v, hparse, rfl⟩, rfl, rfl, rfl, rfl, rfl⟩

/-- A file in a directory is read, written and taken over. -/
theorem identity_codec_snippet :
    VolumeId.parse "local:snippets/dir/a:b.yaml" = .ok ⟨"local", "snippets", "dir/a:b.yaml"⟩ ∧
    VolumeId.format ⟨"local", "snippets", "dir/a:b.yaml"⟩ = "local:snippets/dir/a:b.yaml" ∧
    ∃ state, importState ("node" ++ "/" ++ VolumeId.format ⟨"local", "snippets", "dir/a:b.yaml"⟩) = .ok state ∧
      state.nodeName = "node" ∧ state.fileName = "dir/a:b.yaml" := by
  obtain ⟨hwritten, -, -, hreadable, -, htaken⟩ := identity_codec
  have hparse : VolumeId.parse "local:snippets/dir/a:b.yaml" = .ok ⟨"local", "snippets", "dir/a:b.yaml"⟩ := rfl
  have hv : VolumeId.Readable ⟨"local", "snippets", "dir/a:b.yaml"⟩ := (hreadable _).1 hparse
  obtain ⟨state, hstate, hnode, -, -, -, hname⟩ := htaken "node" _ (by decide) (by decide) hv
  exact ⟨hparse, hwritten _ _ hparse, state, hstate, hnode, hname⟩

end FilePlacement
