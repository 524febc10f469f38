import FilePlacement.Proofs.Requests
import FilePlacement.Proofs.Log
import FilePlacement.Proofs.Numerals

/-!
# Defects of desired states

What can be wrong with a desired state by itself, aspect by aspect and in the order in which it is looked
for (`Spec.defect?`). The checks of creating find just the first of these defects (`fault?_plan`), before
anything is asked for (`create_of_defect`).
-/

namespace FilePlacement

open Reconciler

/-- The fault of a step that has failed. -/
def fault? {α : Type} : Except Fault α → Option Fault
  | .ok _ => none
  | .error f => some f

section
variable {α β : Type} {r : Except Fault α} {f : Fault}

theorem fault?_eq_some_iff : fault? r = some f ↔ r = .error f := by
  cases r <;> simp [fault?]

theorem fault?_eq_none_iff : fault? r = none ↔ ∃ a, r = .ok a := by
  cases r <;> simp [fault?]

/-- Of two steps, the second one fails only if the first one does not. -/
theorem fault?_bind (r : Except Fault α) (k : α → Except Fault β) {next : Option Fault}
    (hk : ∀ a, r = .ok a → fault? (k a) = next) : fault? (r >>= k) = (fault? r).or next := by
  cases r with
  | error f => rfl
  | ok a => exact hk a rfl

theorem fault?_map (r : Except Fault α) (k : α → β) : fault? (r.map k) = fault? r := by
  cases r <;> rfl

end

/-! ## Texts -/

namespace FileMode

/-- One to five octal digits that stand for permission bits. -/
def IsWritten (text : String) : Prop :=
  text.toList ≠ [] ∧ text.toList.length ≤ 5 ∧ (∀ c ∈ text.toList, '0' ≤ c ∧ c ≤ '7') ∧
    Text.valueOf 8 text.toList ≤ 0o7777

instance (text : String) : Decidable (IsWritten text) :=
  -- The characters of the text are to be gone through, not all characters that there are.
  haveI : Decidable (∀ c ∈ text.toList, '0' ≤ c ∧ c ≤ '7') := List.decidableBAll _ _
  inferInstanceAs (Decidable (_ ∧ _ ∧ _ ∧ _))

theorem isDigitOf_octal_iff {c : Char} : Text.isDigitOf 8 c = true ↔ '0' ≤ c ∧ c ≤ '7' := by
  have hle : c ≤ '7' ↔ c.toNat < 56 := UInt32.le_iff_toNat_le.trans Nat.lt_succ_iff.symm
  rw [Text.isDigitOf_iff (by decide), hle]
  rfl

theorem fault?_parse (text : String) :
    fault? (parse text) = if IsWritten text then none else some (.invalidFileMode text) := by
  have hoctal : (∀ c ∈ text.toList, Text.isDigitOf 8 c = true) ↔ ∀ c ∈ text.toList, '0' ≤ c ∧ c ≤ '7' :=
    forall₂_congr fun c _ => isDigitOf_octal_iff
  unfold parse
  by_cases hlength : text.toList.length ≤ 5
  · rw [if_pos hlength]
    cases hvalue : Text.ofDigits? 8 text.toList with
    | none =>
      have hnot : ¬ IsWritten text := by
        rintro ⟨hne, -, hdigits, -⟩
        rw [Text.ofDigits?_eq_some_iff.2 ⟨hne, hoctal.2 hdigits, rfl⟩] at hvalue
        cases hvalue
      rw [if_neg hnot]
      rfl
    | some n =>
      obtain ⟨hne, hdigits, rfl⟩ := Text.ofDigits?_eq_some_iff.1 hvalue
      dsimp only
      by_cases hfits : Text.valueOf 8 text.toList ≤ 0o7777
      · have hwritten : IsWritten text := ⟨hne, hlength, hoctal.1 hdigits, hfits⟩
        rw [dif_pos hfits, if_pos hwritten]
        rfl
      · have hnot : ¬ IsWritten text := fun hw => hfits hw.2.2.2
        rw [dif_neg hfits, if_neg hnot]
        rfl
  · have hnot : ¬ IsWritten text := fun hw => hlength hw.2.1
    rw [if_neg hlength, if_neg hnot]
    rfl

end FileMode

namespace TlsVersion

/-- The texts that stand for a version. -/
def supported : List String := ["", "1.0", "1.1", "1.2", "1.3"]

theorem fault?_parseMinimum (text : String) :
    fault? (parseMinimum text) = if text ∈ supported then none else some (.invalidTlsVersion text) := by
  by_cases hs : text ∈ supported
  · rw [if_pos hs]
    simp only [supported, List.mem_cons, List.not_mem_nil, or_false] at hs
    rcases hs with rfl | rfl | rfl | rfl | rfl <;> rfl
  · rw [if_neg hs]
    simp only [supported, List.mem_cons, List.not_mem_nil, or_false, not_or] at hs
    obtain ⟨hempty, h10, h11, h12, h13⟩ := hs
    unfold parseMinimum
    split
    · exact absurd rfl hempty
    · exact absurd rfl h13
    · exact absurd rfl h12
    · exact absurd rfl h11
    · exact absurd rfl h10
    · rfl

end TlsVersion

theorem ContentKind.fault?_parse (text : String) :
    fault? (ContentKind.parse text) =
      if text ∈ ContentKind.all.map ContentKind.name then none else some (.unknownContentKind text) := by
  unfold ContentKind.parse
  cases hfind : ContentKind.all.find? fun kind => kind.name = text with
  | some kind =>
    have hname : kind.name = text := of_decide_eq_true (List.find?_some hfind :)
    have hmem : text ∈ ContentKind.all.map ContentKind.name := List.mem_map.2 ⟨kind, kind.mem_all, hname⟩
    rw [if_pos hmem]
    rfl
  | none =>
    have hmem : text ∉ ContentKind.all.map ContentKind.name := by
      intro hmem
      obtain ⟨kind, hkind, hname⟩ := List.mem_map.1 hmem
      simpa [hname] using List.find?_eq_none.1 hfind kind hkind
    rw [if_neg hmem]
    rfl

theorem SourceRaw.fault?_padding (r : SourceRaw) :
    fault? r.padding = if 0 < r.resize.toNat ∧ r.resize.toNat ≤ r.bytes.size then
      some (.resizeTooSmall r.bytes.size r.resize.toNat) else none := by
  unfold SourceRaw.padding
  by_cases hzero : r.resize = 0
  · rw [if_pos hzero, if_neg (by simp [hzero])]
    rfl
  · have hpos : 0 < r.resize.toNat := by
      rw [Nat.pos_iff_ne_zero]
      intro hn
      exact hzero (UInt64.toNat_inj.1 hn)
    rw [if_neg hzero]
    by_cases hle : r.resize.toNat ≤ r.bytes.size
    · rw [if_pos hle, if_pos ⟨hpos, hle⟩]
      rfl
    · rw [if_neg hle, if_neg fun hboth => hle hboth.2]
      rfl

theorem Source.fault?_fileName_file (f : SourceFile) :
    fault? (Source.file f).fileName =
      if stated f.fileName = none ∧ f.ownName? = none then some (.unresolvableFileName f.path) else none := by
  unfold Source.fileName
  dsimp only
  cases stated f.fileName with
  | some name =>
    rw [if_neg (by simp)]
    rfl
  | none =>
    cases f.ownName? with
    | some name =>
      rw [if_neg (by simp)]
      rfl
    | none =>
      rw [if_pos ⟨rfl, rfl⟩]
      rfl

theorem Source.fault?_fileName_raw (r : SourceRaw) :
    fault? (Source.raw r).fileName = if r.fileName = "" then some (.unresolvableFileName "source_raw") else none := by
  unfold Source.fileName
  dsimp only
  by_cases hname : r.fileName = ""
  · rw [if_pos hname, if_pos (by rw [hname]; rfl)]
    rfl
  · rw [if_neg hname, if_neg (by simpa using hname)]
    rfl

/-! ## Aspects -/

/-- What is looked at of a desired state, in this order. -/
inductive Aspect where
  | source
  | fileName
  | tls
  | resize
  | mode
  | kind
deriving DecidableEq

def Aspect.all : List Aspect := [source, fileName, tls, resize, mode, kind]

theorem Aspect.mem_all (a : Aspect) : a ∈ Aspect.all := by cases a <;> decide

namespace Spec

/-- What is wrong with one aspect of a desired state. -/
def defect? (spec : Spec) : Aspect → Option Fault
  | .source =>
    match spec.sourceFile, spec.sourceRaw with
    | some _, some _ => some .conflictingSource
    | none, none => some .missingSource
    | _, _ => none
  | .fileName =>
    match spec.sourceFile, spec.sourceRaw with
    | some f, _ => if stated f.fileName = none ∧ f.ownName? = none then some (.unresolvableFileName f.path) else none
    | none, some r => if r.fileName = "" then some (.unresolvableFileName "source_raw") else none
    | none, none => none
  | .tls => spec.sourceFile.bind fun f =>
    if f.minTls.getD "" ∈ TlsVersion.supported then none else some (.invalidTlsVersion (f.minTls.getD ""))
  | .resize => spec.sourceRaw.bind fun r =>
    if 0 < r.resize.toNat ∧ r.resize.toNat ≤ r.bytes.size then some (.resizeTooSmall r.bytes.size r.resize.toNat)
    else none
  | .mode => (stated spec.fileMode).bind fun text =>
    if FileMode.IsWritten text then none else some (.invalidFileMode text)
  | .kind => (stated spec.contentType).bind fun text =>
    if text ∈ ContentKind.all.map ContentKind.name then none else some (.unknownContentKind text)

/-- What is wrong first. -/
def firstDefect? (spec : Spec) : Option Fault := Aspect.all.findSome? spec.defect?

end Spec

/-- The faults that a desired state can have by itself. -/
def Fault.isDefect : Fault → Bool
  | conflictingSource | missingSource | unresolvableFileName _ | invalidTlsVersion _ | resizeTooSmall ..
  | invalidFileMode _ | unknownContentKind _ => true
  | _ => false

theorem Fault.kind_of_isDefect {f : Fault} (hf : f.isDefect = true) : f.kind = .configuration := by
  unfold isDefect at hf
  split at hf
  all_goals trivial

section
variable {spec : Spec} {f : Fault}

theorem isDefect_of_defect? {a : Aspect} (hd : spec.defect? a = some f) : f.isDefect = true := by
  cases a with
  | source =>
    simp only [Spec.defect?] at hd
    split at hd <;> simp only [Option.some.injEq, reduceCtorEq] at hd <;> rw [← hd] <;> rfl
  | fileName =>
    simp only [Spec.defect?] at hd
    split at hd
    · rw [← Option.some.inj (Option.ite_none_right_eq_some.1 hd).2]
      rfl
    · rw [← Option.some.inj (Option.ite_none_right_eq_some.1 hd).2]
      rfl
    · cases hd
  | tls | mode | kind =>
    obtain ⟨_, -, hd⟩ := Option.bind_eq_some_iff.1 hd
    rw [← Option.some.inj (Option.ite_none_left_eq_some.1 hd).2]
    rfl
  | resize =>
    obtain ⟨_, -, hd⟩ := Option.bind_eq_some_iff.1 hd
    rw [← Option.some.inj (Option.ite_none_right_eq_some.1 hd).2]
    rfl

theorem firstDefect?_eq_none_iff : spec.firstDefect? = none ↔ ∀ a, spec.defect? a = none := by
  unfold Spec.firstDefect?
  rw [List.findSome?_eq_none_iff]
  exact ⟨fun hall a => hall a a.mem_all, fun hall a _ => hall a⟩

theorem isDefect_of_firstDefect? (hd : spec.firstDefect? = some f) : f.isDefect = true := by
  obtain ⟨a, -, ha⟩ := List.exists_of_findSome?_eq_some hd
  exact isDefect_of_defect? ha

/-! ## The checks -/

theorem fault?_mode (spec : Spec) : fault? spec.mode = spec.defect? .mode := by
  unfold Spec.mode Spec.defect?
  cases stated spec.fileMode with
  | none => rfl
  | some text => exact (fault?_map _ _).trans (FileMode.fault?_parse text)

theorem fault?_validate_file (f : SourceFile) :
    fault? (Source.file f).validate = (fault? (Source.file f).fileName).or (fault? f.minimumTls) := by
  refine fault?_bind _ _ fun name _ => ?_
  change fault? (f.minimumTls >>= fun _ => pure ()) = fault? f.minimumTls
  cases f.minimumTls <;> rfl

theorem fault?_validate_raw (r : SourceRaw) :
    fault? (Source.raw r).validate = (fault? (Source.raw r).fileName).or (fault? r.padding) := by
  refine fault?_bind _ _ fun name _ => ?_
  change fault? (r.padding >>= fun _ => pure ()) = fault? r.padding
  cases r.padding <;> rfl

/-- A source that has been validated has a name. -/
theorem exists_fileName_of_validate {source : Source} (hv : source.validate = .ok ()) :
    ∃ name, source.fileName = .ok name := by
  obtain ⟨name, hname, -⟩ := bind_eq_ok.1 hv
  exact ⟨name, hname⟩

theorem exists_minimumTls_of_validate {f : SourceFile} (hv : (Source.file f).validate = .ok ()) :
    ∃ tls, f.minimumTls = .ok tls := by
  have hno := fault?_validate_file f
  rw [hv] at hno
  exact fault?_eq_none_iff.1 (Option.or_eq_none_iff.1 hno.symm).2

theorem exists_padding_of_validate {r : SourceRaw} (hv : (Source.raw r).validate = .ok ()) :
    ∃ padding, r.padding = .ok padding := by
  have hno := fault?_validate_raw r
  rw [hv] at hno
  exact fault?_eq_none_iff.1 (Option.or_eq_none_iff.1 hno.symm).2

theorem fault?_plan_of_source {source : Source} (hs : spec.source = .ok source) :
    fault? (plan spec) = (fault? source.validate).or (spec.defect? .mode) := by
  unfold plan
  rw [hs]
  refine fault?_bind source.validate _ fun _ hv => ?_
  obtain ⟨name, hname⟩ := exists_fileName_of_validate hv
  rw [← fault?_mode, hname]
  cases spec.mode <;> rfl

theorem findSome?_defect_cons (spec : Spec) (a : Aspect) (rest : List Aspect) :
    (a :: rest).findSome? spec.defect? = (spec.defect? a).or (rest.findSome? spec.defect?) := by
  rw [List.findSome?_cons]
  cases spec.defect? a <;> rfl

/-- Checking a desired state finds what is wrong first, of all that does not depend on the content kind. -/
theorem fault?_plan (spec : Spec) :
    fault? (plan spec) = [Aspect.source, .fileName, .tls, .resize, .mode].findSome? spec.defect? := by
  simp only [findSome?_defect_cons, List.findSome?_nil, Option.or_none]
  -- Of the name, the version and the size, the checks see just what belongs to the one source that there is.
  cases hfile : spec.sourceFile with
  | some f =>
    cases hraw : spec.sourceRaw with
    | some r =>
      have hs : spec.source = .error .conflictingSource := by rw [Spec.source, hfile, hraw]; rfl
      unfold plan
      rw [hs]
      simp only [Spec.defect?, hfile, hraw, Option.some_or]
      rfl
    | none =>
      have hs : spec.source = .ok (.file f) := by rw [Spec.source, hfile, hraw]; rfl
      rw [fault?_plan_of_source hs, fault?_validate_file, Source.fault?_fileName_file, SourceFile.minimumTls,
        TlsVersion.fault?_parseMinimum]
      simp only [Spec.defect?, hfile, hraw, Option.bind_some, Option.bind_none, Option.none_or, Option.or_assoc]
  | none =>
    cases hraw : spec.sourceRaw with
    | some r =>
      have hs : spec.source = .ok (.raw r) := by rw [Spec.source, hfile, hraw]; rfl
      rw [fault?_plan_of_source hs, fault?_validate_raw, Source.fault?_fileName_raw, SourceRaw.fault?_padding]
      simp only [Spec.defect?, hfile, hraw, Option.bind_some, Option.bind_none, Option.none_or, Option.or_assoc]
    | none =>
      have hs : spec.source = .error .missingSource := by rw [Spec.source, hfile, hraw]; rfl
      unfold plan
      rw [hs]
      simp only [Spec.defect?, hfile, hraw, Option.some_or]
      rfl

theorem firstDefect?_eq (spec : Spec) : spec.firstDefect? = (fault? (plan spec)).or (spec.defect? .kind) := by
  rw [fault?_plan]
  simp only [Spec.firstDefect?, Aspect.all, findSome?_defect_cons, List.findSome?_nil, Option.or_none, Option.or_assoc]

end

/-! ## Creating -/

section
variable {σ : Type} {h : Host Reconciling σ} {tmpDir : String} {spec : Spec} {f : Fault} {s : σ}

/-- Placing stops at what is wrong first, and has asked for nothing. -/
theorem place_of_defect (hd : spec.firstDefect? = some f) (s : σ) :
    (place tmpDir spec).runInTime h s = (some (.error f), s) := by
  rw [firstDefect?_eq] at hd
  unfold place
  cases hplan : plan spec with
  | error e =>
    rw [hplan] at hd
    obtain rfl : e = f := Option.some.inj hd
    exact Task.runInTime_bind_error (Task.runInTime_ofExcept h (.error e) s) _
  | ok p =>
    rw [hplan] at hd
    obtain ⟨text, hstated, hunknown⟩ := Option.bind_eq_some_iff.1 (hd : spec.defect? .kind = some f)
    rw [← ContentKind.fault?_parse, fault?_eq_some_iff] at hunknown
    rw [Task.runInTime_bind_ok (Task.runInTime_ofExcept h (.ok p) s)]
    refine Task.runInTime_bind_error ?_ _
    unfold contentKind
    rw [hstated]
    dsimp only
    rw [hunknown]
    exact Task.runInTime_ofExcept h (.error f) s

/-- Creating fails with what is wrong first, before anything but its limit has been set. -/
theorem create_of_defect (hd : spec.firstDefect? = some f) (h : Host Reconciling σ) (tmpDir : String) (s : σ) :
    create h tmpDir spec s = failed spec [] f (h.setLimit spec.timeout s) := by
  unfold create
  rw [place_of_defect hd]

theorem createLog_of_defect (hd : spec.firstDefect? = some f) (h : Host Reconciling σ) (tmpDir : String) (s : σ) :
    createLog h tmpDir spec s = [] := by
  unfold createLog
  rw [create_of_defect hd]
  rfl

end

end FilePlacement
