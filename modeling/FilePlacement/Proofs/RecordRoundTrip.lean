import FilePlacement.Proofs.JsonReading
import FilePlacement.Reconcile
import FilePlacement.CommandLine.Run

/-!
# Records survive being written

What is written of a desired state or of a recorded one is read as the same again (`records_round_trip`):
whatever the texts in it are, whichever optional parts it has, in either layout and in any other. Of a field
with a default the value itself is always written, so that reading never falls back on a default.
-/

namespace FilePlacement

open Json

/-! ## Plain values -/

theorem asText_text (s : String) : (Value.text s).draft.asText = .ok s := rfl

theorem asBool_bool (b : Bool) : (Value.bool b).draft.asBool = .ok b := rfl

theorem asInt_number {lo hi n : Int} (hlo : lo ≤ n) (hhi : n ≤ hi) : (Value.number n).draft.asInt lo hi = .ok n := by
  simp [Value.draft, Draft.asInt, Numeral.toInt?_ofInt, hlo, hhi]

theorem asUInt64_number (n : UInt64) : (Value.number n.toNat).draft.asUInt64 = .ok n := by
  have hlt := n.toNat_lt_size
  rw [Draft.asUInt64, asInt_number (by omega) (by omega)]
  simp [Except.map]

theorem asInt64_number (n : Int64) : (Value.number n.toInt).draft.asInt64 = .ok n := by
  rw [Draft.asInt64, asInt_number n.minValue_le_toInt n.toInt_le]
  simp [Except.map]

theorem asOption_ok {α : Type} {read : Draft → Except Flaw α} {d : Draft} {a : α} (hread : read d = .ok a)
    (hnull : d ≠ .null) : Draft.asOption read d = .ok (some a) := by
  cases d <;> simp_all [Draft.asOption, Except.map]

/-! ## Gathering fields -/

/-- What a record under construction is behind some fields. -/
def gather {B : Type} (slots : List (Slot B)) (b : B) (ps : List (String × Value)) : Except Flaw B :=
  (draftFields ps).foldlM (readField slots) b

section
variable {B α : Type} {slots : List (Slot B)} {name : String} {read : Draft → Except Flaw α} {b : B}

/-- A field fills the slot that has its name. -/
theorem gather_cons {get : B → Option α} {put : B → α → B} {v : Value} {a : α}
    (hfind : slots.find? (fun s => s.name = name) = some (.of name read get put)) (hread : read v.draft = .ok a)
    (hfree : get b = none) (ps : List (String × Value)) :
    gather slots b ((name, v) :: ps) = gather slots (put b a) ps := by
  simp [gather, draftFields, draftField, readField, hfind, Slot.of, hfree, hread, Except.map, bind, Except.bind]

/-- A field that may be left out fills its slot if it is there. -/
theorem gather_optional {get : B → Option (Option α)} {put : B → Option α → B} {write : α → Value}
    (fill : Option (Option α) → B)
    (hfind : slots.find? (fun s => s.name = name) = some (.of name (Draft.asOption read) get put))
    (hread : ∀ a, read (write a).draft = .ok a) (hnull : ∀ a, (write a).draft ≠ .null)
    (hfree : get (fill none) = none) (hput : ∀ a, put (fill none) (some a) = fill (some (some a))) (o : Option α)
    (ps : List (String × Value)) :
    gather slots (fill none) (optionalField name (o.map write) ++ ps) = gather slots (fill (o.map some)) ps := by
  cases o with
  | none => rfl
  | some a => exact (gather_cons hfind (asOption_ok (hread a) (hnull a)) hfree ps).trans (by rw [hput]; rfl)

theorem readRecord_of_gather {blank : B} {finish : B → Option α} {ps : List (String × Value)} {a : α}
    (hgather : gather slots blank ps = .ok b) (hfinish : finish b = some a) :
    readRecord slots blank finish (Value.object ps).draft = .ok a := by
  unfold gather at hgather
  simp [Value.draft, readRecord, hgather, hfinish, bind, Except.bind, pure, Except.pure]

end

/-! ## Sources -/

namespace SourceFile

/-- What is gathered from a written source: everything but the optional parts that it does not have. -/
def gathered (f : SourceFile) : Partial :=
  ⟨some f.path, f.checksum.map some, f.fileName.map some, some f.insecure, f.minTls.map some⟩

theorem finish_gathered (f : SourceFile) : f.gathered.finish = some f := by
  obtain ⟨path, checksum, fileName, insecure, minTls⟩ := f
  cases checksum <;> cases fileName <;> cases minTls <;> rfl

theorem gather_toJson (f : SourceFile) :
    ∃ ps, f.toJson = .object ps ∧ gather slots ⟨none, none, none, none, none⟩ ps = .ok f.gathered := by
  refine ⟨_, rfl, ?_⟩
  rw [← List.append_nil (optionalField "min_tls" _)]
  simp only [List.append_assoc, List.cons_append, List.nil_append]
  rw [gather_cons rfl (asText_text _) rfl,
    gather_optional (fun c => Partial.mk (some f.path) c none none none) rfl asText_text nofun rfl fun _ => rfl,
    gather_optional (fun n => Partial.mk (some f.path) (f.checksum.map some) n none none) rfl asText_text nofun rfl
      fun _ => rfl,
    gather_cons rfl (asBool_bool _) rfl,
    gather_optional (fun t => Partial.mk (some f.path) (f.checksum.map some) (f.fileName.map some) (some f.insecure) t)
      rfl asText_text nofun rfl fun _ => rfl]
  rfl

theorem ofDraft_toJson (f : SourceFile) : ofDraft f.toJson.draft = .ok f := by
  obtain ⟨ps, hps, hgather⟩ := f.gather_toJson
  rw [hps]
  exact readRecord_of_gather hgather f.finish_gathered

end SourceFile

namespace SourceRaw

/-- What is gathered from a written source: everything. -/
def gathered (r : SourceRaw) : Partial := ⟨some r.data, some r.fileName, some r.resize⟩

theorem gather_toJson (r : SourceRaw) :
    ∃ ps, r.toJson = .object ps ∧ gather slots ⟨none, none, none⟩ ps = .ok r.gathered := by
  refine ⟨_, rfl, ?_⟩
  rw [gather_cons rfl (asText_text _) rfl, gather_cons rfl (asText_text _) rfl, gather_cons rfl (asUInt64_number _) rfl]
  rfl

theorem ofDraft_toJson (r : SourceRaw) : ofDraft r.toJson.draft = .ok r := by
  obtain ⟨ps, hps, hgather⟩ := r.gather_toJson
  rw [hps]
  exact readRecord_of_gather hgather rfl

end SourceRaw

/-! ## Desired states -/

namespace Spec

/-- What is gathered from a written state: everything but the optional parts that it does not have. -/
def gathered (s : Spec) : Partial :=
  ⟨some s.nodeName, some s.datastoreId, s.contentType.map some, s.sourceFile.map some, s.sourceRaw.map some,
    s.fileMode.map some, some s.overwrite, some s.timeoutUpload⟩

theorem finish_gathered (s : Spec) : s.gathered.finish = some s := by
  obtain ⟨nodeName, datastoreId, contentType, sourceFile, sourceRaw, fileMode, overwrite, timeoutUpload⟩ := s
  cases contentType <;> cases sourceFile <;> cases sourceRaw <;> cases fileMode <;> rfl

theorem gather_toJson (s : Spec) : ∃ ps, s.toJson = .object ps ∧
    gather slots ⟨none, none, none, none, none, none, none, none⟩ ps = .ok s.gathered := by
  obtain ⟨node, store, kind, file, raw, mode, overwrite, timeout⟩ := s
  refine ⟨_, rfl, ?_⟩
  simp only [List.append_assoc, List.cons_append, List.nil_append]
  rw [gather_cons rfl (asText_text _) rfl, gather_cons rfl (asText_text _) rfl,
    gather_optional (fun k => Partial.mk (some node) (some store) k none none none none none)
      rfl asText_text nofun rfl fun _ => rfl,
    gather_optional (fun f => Partial.mk (some node) (some store) (kind.map some) f none none none none)
      rfl SourceFile.ofDraft_toJson nofun rfl fun _ => rfl,
    gather_optional (fun r => Partial.mk (some node) (some store) (kind.map some) (file.map some) r none none none)
      rfl SourceRaw.ofDraft_toJson nofun rfl fun _ => rfl,
    gather_optional
      (fun m => Partial.mk (some node) (some store) (kind.map some) (file.map some) (raw.map some) m none none)
      rfl asText_text nofun rfl fun _ => rfl,
    gather_cons rfl (asBool_bool _) rfl, gather_cons rfl (asUInt64_number _) rfl]
  rfl

theorem ofDraft_toJson (s : Spec) : ofDraft s.toJson.draft = .ok s := by
  obtain ⟨ps, hps, hgather⟩ := s.gather_toJson
  rw [hps]
  exact readRecord_of_gather hgather s.finish_gathered

end Spec

/-! ## Recorded states -/

namespace State

/-- What is gathered from a written record: everything. -/
def gathered (s : State) : Partial :=
  ⟨some s.id, some s.nodeName, some s.datastoreId, some s.contentType, some s.fileName,
    some s.source.modificationDate, some s.source.size, some s.source.tag, some s.sourceChanged⟩

theorem gather_toJson (s : State) : ∃ ps, s.toJson = .object ps ∧
    gather slots ⟨none, none, none, none, none, none, none, none, none⟩ ps = .ok s.gathered := by
  refine ⟨_, rfl, ?_⟩
  rw [gather_cons rfl (asText_text _) rfl, gather_cons rfl (asText_text _) rfl, gather_cons rfl (asText_text _) rfl,
    gather_cons rfl (asText_text _) rfl, gather_cons rfl (asText_text _) rfl, gather_cons rfl (asText_text _) rfl,
    gather_cons rfl (asInt64_number _) rfl, gather_cons rfl (asText_text _) rfl, gather_cons rfl (asBool_bool _) rfl]
  rfl

theorem ofDraft_toJson (s : State) : ofDraft s.toJson.draft = .ok s := by
  obtain ⟨ps, hps, hgather⟩ := s.gather_toJson
  rw [hps]
  exact readRecord_of_gather hgather rfl

end State

/-! ## Whole texts -/

/-- A text is read as `a`, and so are its bytes. -/
def ReadAs {α : Type} (read : Draft → Except Flaw α) (text : String) (a : α) : Prop :=
  decode read text = .ok a ∧ decodeBytes read text.toUTF8 = .ok a

theorem utf8?_toUTF8 (s : String) : Text.utf8? s.toUTF8 = some s := dif_pos s.isValidUTF8

section
variable {α : Type} {read : Draft → Except Flaw α} {v : Value} {a : α} (hread : read v.draft = .ok a)

include hread

theorem readAs_written {before cs after : List Char} (hbefore : Gap before) (h : v.Written cs) (hafter : Gap after) :
    ReadAs read (String.ofList (before ++ (cs ++ after))) a := by
  have hdecode : decode read (String.ofList (before ++ (cs ++ after))) = .ok a := by
    simp [decode, decodeChars, ofChars_written hbefore h hafter, hread, bind, Except.bind, pure, Except.pure]
  exact ⟨hdecode, by rw [decodeBytes, utf8?_toUTF8]; exact hdecode⟩

theorem readAs_toText : ReadAs read v.toText a := by
  have h := readAs_written hread gap_nil v.written_compact gap_nil
  rwa [List.nil_append, List.append_nil] at h

/-- The lines of a value, with the end of the last one. -/
theorem readAs_lines : ReadAs read (v.toPrettyText ++ "\n") a := by
  have h := readAs_written hread gap_nil (v.written_pretty 0) (gap_newline 0)
  rwa [List.nil_append, String.ofList_append] at h

end

/-- The lines that tell an outcome are an object whose first field is its value. -/
theorem ofChars_outcome {α : Type} (write : α → Value) (o : Outcome α) :
    ∃ fields, Document.ofChars ((o.toJson write).toPrettyText ++ "\n").toList =
      ⟨.object ((some "value", (write o.value).draft) :: fields) none, false⟩ := by
  have h := ofChars_written gap_nil ((o.toJson write).written_pretty 0) (gap_newline 0)
  simp only [String.toList_append, Value.toPrettyText, String.toList_ofList]
  exact ⟨_, h⟩

/-- **Records survive being written.** Both layouts of a desired state and of a record are read as the same again,
and so is any other text of them, with white space anywhere between the tokens; so is the value in what is told of an
outcome. Every field with a default is among the fields gathered from a text. -/
theorem records_round_trip (spec : Spec) (state : State) :
    (ReadAs Spec.ofDraft spec.toJson.toText spec ∧ ReadAs Spec.ofDraft (spec.toJson.toPrettyText ++ "\n") spec) ∧
    (ReadAs State.ofDraft state.toJson.toText state ∧ ReadAs State.ofDraft (state.toJson.toPrettyText ++ "\n") state) ∧
    (∀ {before cs after : List Char}, Gap before → Gap after →
      (spec.toJson.Written cs → ReadAs Spec.ofDraft (String.ofList (before ++ (cs ++ after))) spec) ∧
      (state.toJson.Written cs → ReadAs State.ofDraft (String.ofList (before ++ (cs ++ after))) state)) ∧
    (∀ warnings, ∃ d fields,
      Document.ofChars ((Outcome.toJson State.toJson ⟨state, warnings⟩).toPrettyText ++ "\n").toList =
        ⟨.object ((some "value", d) :: fields) none, false⟩ ∧ State.ofDraft d = .ok state) ∧
    ((∃ ps, spec.toJson = .object ps ∧
        gather Spec.slots ⟨none, none, none, none, none, none, none, none⟩ ps = .ok spec.gathered) ∧
      (∃ ps, state.toJson = .object ps ∧
        gather State.slots ⟨none, none, none, none, none, none, none, none, none⟩ ps = .ok state.gathered) ∧
      (∀ f ∈ spec.sourceFile, ∃ ps, f.toJson = .object ps ∧
        gather SourceFile.slots ⟨none, none, none, none, none⟩ ps = .ok f.gathered) ∧
      ∀ r ∈ spec.sourceRaw, ∃ ps, r.toJson = .object ps ∧
        gather SourceRaw.slots ⟨none, none, none⟩ ps = .ok r.gathered) := by
  have hspec := spec.ofDraft_toJson
  have hstate := state.ofDraft_toJson
  refine ⟨⟨readAs_toText hspec, readAs_lines hspec⟩, ⟨readAs_toText hstate, readAs_lines hstate⟩, ?_, ?_, ?_⟩
  · intro before cs after hbefore hafter
    exact ⟨fun h => readAs_written hspec hbefore h hafter, fun h => readAs_written hstate hbefore h hafter⟩
  · intro warnings
    obtain ⟨fields, hfields⟩ := ofChars_outcome State.toJson ⟨state, warnings⟩
    exact ⟨_, fields, hfields, hstate⟩
  · exact ⟨spec.gather_toJson, state.gather_toJson, fun f _ => f.gather_toJson, fun r _ => r.gather_toJson⟩

/-- A raw source of no bytes, nothing overwritten, no time, and settings that are empty but there. -/
def Spec.bare : Spec := ⟨"", "", some "", none, some ⟨"", "", 0⟩, some "", false, 0⟩

/-- Deep inside something else the bare state is read as it is, although its values are not the defaults. -/
theorem records_round_trip_bare :
    ReadAs Spec.ofDraft (String.ofList (newline 3 ++ (Spec.bare.toJson.pretty 3 ++ []))) Spec.bare ∧
      Spec.bare.overwrite ≠ true ∧ Spec.bare.timeoutUpload ≠ Spec.defaultTimeout :=
  ⟨((records_round_trip Spec.bare .blank).2.2.1 (gap_newline 3) gap_nil).1 (Spec.bare.toJson.written_pretty 3),
    by decide, by decide⟩

end FilePlacement
