import FilePlacement.Placement
import FilePlacement.Proofs.DeletionTargets
import FilePlacement.Proofs.Inquiries
import FilePlacement.Proofs.RecordRoundTrip
import FilePlacement.Proofs.Texts
import FilePlacement.Session

/-!
# What a datastore is meant for

A datastore says in a text which content kinds it takes. `Lists` says which names stand in such a text, with any white
space around them and with empty items anywhere, and these are the names that a client sees (`contentNames_eq_iff`),
whatever else the answer of the cluster has and in whichever order (`readDatastore_of_tells`).

A streamed upload looks for the name of its kind among them, and a datastore without it is only warned about
(`logged_stream`). What an upload cannot do without is a path (`logged_stream_noPath`).
-/

namespace FilePlacement

open Json

namespace Cluster

/-! ## Names in a text -/

/-- A name that can stand in a list: not empty, without commas, and without white space at its ends. -/
structure IsListable (name : String) : Prop where
  nonempty : name ≠ ""
  noComma : ',' ∉ name.toList
  first : ∀ c ∈ name.toList.head?, Text.isBlank c = false
  last : ∀ c ∈ name.toList.getLast?, Text.isBlank c = false

/-- One item of a list: white space, or a name between white space. -/
inductive Item : List Char → Option String → Prop
  | blank {cs : List Char} : (∀ c ∈ cs, Text.isBlank c = true) → Item cs none
  | name {before after : List Char} {name : String} : (∀ c ∈ before, Text.isBlank c = true) → IsListable name →
      (∀ c ∈ after, Text.isBlank c = true) → Item (before ++ name.toList ++ after) (some name)

/-- The names that a text lists, in their order: its items with commas between them. -/
inductive Lists : List Char → List String → Prop
  | last {cs : List Char} {item : Option String} : Item cs item → Lists cs item.toList
  | more {cs rest : List Char} {item : Option String} {names : List String} : Item cs item → Lists rest names →
      Lists (cs ++ ',' :: rest) (item.toList ++ names)

theorem Item.not_mem {cs : List Char} {item : Option String} (hi : Item cs item) : ',' ∉ cs := by
  have hcomma : Text.isBlank ',' ≠ true := by decide
  cases hi with
  | blank h => exact fun hmem => hcomma (h ',' hmem)
  | name hbefore hname hafter =>
    intro hmem
    rcases List.mem_append.1 hmem with hmem | hmem
    · rcases List.mem_append.1 hmem with hmem | hmem
      · exact hcomma (hbefore ',' hmem)
      · exact hname.noComma hmem
    · exact hcomma (hafter ',' hmem)

/-- The name in an item. -/
def nameIn (cs : List Char) : Option String :=
  if (Text.trim cs).isEmpty then none else some (String.ofList (Text.trim cs))

theorem contentNames_eq (text : String) : contentNames text = (Text.pieces ',' text.toList).filterMap nameIn := by
  simp only [contentNames, List.filterMap_map]
  rfl

theorem item_nameIn {cs : List Char} (hcs : ',' ∉ cs) : Item cs (nameIn cs) := by
  obtain ⟨before, after, heq, hbefore, hafter, hfirst, hlast⟩ :=
    Text.trim_eq_iff.1 (rfl : Text.trim cs = _)
  unfold nameIn
  by_cases hempty : (Text.trim cs).isEmpty
  · rw [if_pos hempty]
    rw [List.isEmpty_iff.1 hempty, List.append_nil] at heq
    refine .blank fun c hc => ?_
    rw [heq] at hc
    exact (List.mem_append.1 hc).elim (hbefore c) (hafter c)
  · rw [if_neg hempty]
    have hlistable : IsListable (String.ofList (Text.trim cs)) := by
      refine ⟨fun h => ?_, fun hmem => ?_, ?_, ?_⟩
      · exact hempty (List.isEmpty_iff.2 (by simpa using h))
      · rw [String.toList_ofList] at hmem
        rw [heq] at hcs
        exact hcs (List.mem_append_left _ (List.mem_append_right _ hmem))
      · simpa using hfirst
      · simpa using hlast
    have hitem := Item.name hbefore hlistable hafter
    rwa [String.toList_ofList, ← heq] at hitem

theorem nameIn_of_item {cs : List Char} {item : Option String} (hi : Item cs item) : nameIn cs = item := by
  cases hi with
  | blank h =>
    have htrim : Text.trim cs = [] := Text.trim_eq_iff.2 ⟨cs, [], by simp, h, by simp, by simp, by simp⟩
    simp [nameIn, htrim]
  | name hbefore hname hafter =>
    have htrim := Text.trim_eq_iff.2 ⟨_, _, rfl, hbefore, hafter, hname.first, hname.last⟩
    unfold nameIn
    rw [htrim, String.ofList_toList]
    simp [hname.nonempty]

theorem filterMap_nameIn_cons (p : List Char) (ps : List (List Char)) :
    (p :: ps).filterMap nameIn = (nameIn p).toList ++ ps.filterMap nameIn := by
  cases h : nameIn p <;> simp [h]

theorem lists_join {ps : List (List Char)} (hne : ps ≠ []) (hps : ∀ p ∈ ps, ',' ∉ p) :
    Lists (Text.join [','] ps) (ps.filterMap nameIn) := by
  induction ps with
  | nil => exact absurd rfl hne
  | cons p ps ih =>
    have hp := item_nameIn (hps p List.mem_cons_self)
    rw [filterMap_nameIn_cons]
    cases ps with
    | nil => simpa [Text.join] using Lists.last hp
    | cons q ps =>
      have hrest := ih (List.cons_ne_nil q ps) fun r hr => hps r (List.mem_cons_of_mem p hr)
      simpa [Text.join] using Lists.more hp hrest

theorem filterMap_nameIn_of_lists {cs : List Char} {names : List String} (hl : Lists cs names) :
    (Text.pieces ',' cs).filterMap nameIn = names := by
  induction hl with
  | last hi => rw [Text.pieces_of_not_mem hi.not_mem, filterMap_nameIn_cons, nameIn_of_item hi, List.filterMap_nil,
      List.append_nil]
  | more hi _ ih => rw [Text.pieces_append, Text.pieces_of_not_mem hi.not_mem, List.singleton_append,
      filterMap_nameIn_cons, nameIn_of_item hi, ih]

/-- The names that a client sees are those that the text lists. -/
theorem contentNames_eq_iff {text : String} {names : List String} :
    contentNames text = names ↔ Lists text.toList names := by
  rw [contentNames_eq]
  constructor
  · rintro rfl
    have hlists := lists_join (Text.pieces_ne_nil ',' text.toList) fun p => Text.not_mem_of_mem_pieces
    rwa [Text.join_pieces] at hlists
  · exact filterMap_nameIn_of_lists

example : contentNames ", iso,vm images ,,\tbackup\n" = ["iso", "vm images", "backup"] := by decide

end Cluster

/-! ## Answers -/

namespace Json

/-- A field that a record without fields of its name skips. -/
def Skipped (names : List String) (field : Option String × Draft) : Prop :=
  ∃ key, field.1 = some key ∧ key ∉ names ∧ field.2.flaw? = none

theorem readField_skipped {B : Type} (slots : List (Slot B)) {field : Option String × Draft}
    (hf : Skipped (slots.map (·.name)) field) (b : B) : readField slots b field = .ok b := by
  obtain ⟨_, d⟩ := field
  obtain ⟨key, rfl, hkey, hflaw⟩ := hf
  dsimp only at hflaw
  have hfind : slots.find? (fun s => s.name = key) = none := by
    refine List.find?_eq_none.2 fun slot hslot hname => hkey ?_
    exact List.mem_map.2 ⟨slot, hslot, of_decide_eq_true hname⟩
  simp only [readField, hfind, hflaw]

/-- A field whose slot is free is read into it. -/
theorem readField_free {B : Type} {slots : List (Slot B)} {slot : Slot B} {key : String} {d : Draft} {b b' : B}
    (hfind : slots.find? (fun s => s.name = key) = some slot) (hfree : slot.isFilled b = false)
    (hfill : slot.fill b d = .ok b') : readField slots b (some key, d) = .ok b' := by
  simp only [readField, hfind, hfree, hfill, Bool.false_eq_true, if_false]

theorem foldlM_skipped {B : Type} (slots : List (Slot B)) {fields : List (Option String × Draft)}
    (hf : ∀ field ∈ fields, Skipped (slots.map (·.name)) field) (b : B) :
    fields.foldlM (readField slots) b = .ok b := by
  induction fields with
  | nil => rfl
  | cons field fields ih =>
    rw [List.foldlM_cons, readField_skipped slots (hf field List.mem_cons_self)]
    exact ih fun x hx => hf x (List.mem_cons_of_mem field hx)

/-- What some bytes are read as. -/
def documentOf (bytes : ByteArray) : Document :=
  match Text.utf8? bytes with
  | some text => Document.ofChars text.toList
  | none => Document.ofChars (charsOfBytes false bytes.toList)

theorem decodeBytes_of_read {α : Type} {read : Draft → Except Flaw α} {bytes : ByteArray} {d : Draft} {a : α}
    (hdocument : documentOf bytes = ⟨d, false⟩) (hread : read d = .ok a) : decodeBytes read bytes = .ok a := by
  have hdecode : ∀ cs, Document.ofChars cs = ⟨d, false⟩ → decodeChars read cs = .ok a := by
    intro cs hcs
    simp [decodeChars, hcs, hread, bind, Except.bind, pure, Except.pure]
  unfold documentOf at hdocument
  unfold decodeBytes
  cases htext : Text.utf8? bytes with
  | some text =>
    simp only [htext] at hdocument
    exact hdecode text.toList hdocument
  | none =>
    simp only [htext] at hdocument
    exact hdecode _ hdocument

theorem documentOf_toText (v : Value) : documentOf v.toText.toUTF8 = ⟨v.draft, false⟩ := by
  have hread := ofChars_written gap_nil v.written_compact gap_nil
  rw [List.nil_append, List.append_nil] at hread
  unfold documentOf
  rw [utf8?_toUTF8]
  simpa [Value.toText] using hread

end Json

namespace Cluster

/-- The answer is a success, and the data of its envelope are these. -/
def TellsData (a : Answer) (data : Draft) : Prop :=
  ∃ url response before after, a = .ok (url, response) ∧ response.status.isSuccess = true ∧
    response.body.complete = true ∧
    documentOf response.body.bytes = ⟨.object (before ++ (some "data", data) :: after) none, false⟩ ∧
    ∀ field ∈ before ++ after, Skipped ["data"] field

/-- The one slot of an envelope. -/
def envelopeSlots {α : Type} (read : Draft → Except Flaw α) : List (Slot (Option α)) :=
  [.of "data" read (fun b => b) fun _ v => some v]

theorem readEnvelope_object {α : Type} {read : Draft → Except Flaw α} {before after : List (Option String × Draft)}
    {d : Draft} {a : α} (hskipped : ∀ field ∈ before ++ after, Skipped ["data"] field) (hread : read d = .ok a) :
    readEnvelope read (.object (before ++ (some "data", d) :: after) none) = .ok a := by
  have hbefore : before.foldlM (readField (envelopeSlots read)) none = .ok none :=
    foldlM_skipped (envelopeSlots read) (fun field hf => hskipped field (List.mem_append_left _ hf)) none
  have hafter : after.foldlM (readField (envelopeSlots read)) (some a) = .ok (some a) :=
    foldlM_skipped (envelopeSlots read) (fun field hf => hskipped field (List.mem_append_right _ hf)) (some a)
  have hfield : readField (envelopeSlots read) none (some "data", d) = .ok (some a) := by
    simp [readField, envelopeSlots, Slot.of, hread, Except.map]
  have hall : (before ++ (some "data", d) :: after).foldlM (readField (envelopeSlots read)) none = .ok (some a) := by
    simp [List.foldlM_append, hbefore, hfield, hafter, bind, Except.bind]
  unfold envelopeSlots at hall
  simp [readEnvelope, readOnly, readRecord, hall, bind, Except.bind, pure, Except.pure]

theorem carries_of_tellsData {q : Inquiry} {a : Answer} {d : Draft} {data : q.Data} (ha : TellsData a d)
    (hread : q.read d = .ok data) : q.Carries a data := by
  obtain ⟨url, response, before, after, rfl, hsuccess, hcomplete, hdocument, hskipped⟩ := ha
  exact ⟨url, response, rfl, hsuccess, hcomplete, decodeBytes_of_read hdocument (readEnvelope_object hskipped hread)⟩

/-- What is known of a datastore behind some fields: each of its own fields stands there once at most, in any order and
among others. -/
inductive Gathers : StoragePartial → List (Option String × Draft) → StoragePartial → Prop
  | nil {b : StoragePartial} : Gathers b [] b
  | other {b b' : StoragePartial} {field fields} : Skipped ["storage", "path", "content"] field → Gathers b fields b' →
      Gathers b (field :: fields) b'
  | storage {b b' : StoragePartial} {name fields} : b.storage = none →
      Gathers { b with storage := some name } fields b' → Gathers b ((some "storage", .text (some name) none) :: fields) b'
  | path {b b' : StoragePartial} {path fields} : b.path = none → Gathers { b with path := some (some path) } fields b' →
      Gathers b ((some "path", .text (some path) none) :: fields) b'
  | noPath {b b' : StoragePartial} {fields} : b.path = none → Gathers { b with path := some none } fields b' →
      Gathers b ((some "path", .null) :: fields) b'
  | content {b b' : StoragePartial} {text fields} : b.content = none →
      Gathers { b with content := some text } fields b' → Gathers b ((some "content", .text (some text) none) :: fields) b'

/-- The slots of a datastore. -/
def datastoreSlots : List (Slot StoragePartial) :=
  [.of "storage" Draft.asText (·.storage) fun b v => { b with storage := some v },
   .of "path" (Draft.asOption Draft.asText) (·.path) fun b v => { b with path := some v },
   .of "content" Draft.asText (·.content) fun b v => { b with content := some v }]

theorem foldlM_of_gathers {b b' : StoragePartial} {fields : List (Option String × Draft)} (hg : Gathers b fields b') :
    fields.foldlM (readField datastoreSlots) b = .ok b' := by
  induction hg with
  | nil => rfl
  | @other b b' field fields hskipped _ ih =>
    rw [List.foldlM_cons, readField_skipped datastoreSlots hskipped]
    exact ih
  | storage hfree _ ih | path hfree _ ih | noPath hfree _ ih | content hfree _ ih =>
    rw [List.foldlM_cons, readField_free rfl (Option.isSome_eq_false_iff.2 (Option.isNone_iff_eq_none.2 hfree)) rfl]
    exact ih

/-- The data tell of a datastore: its name, its path unless that is absent or null, and the text of its content, which
is empty if it is absent. -/
def TellsDatastore (d : Draft) (name : String) (path : Option String) (text : String) : Prop :=
  ∃ fields b, d = .object fields none ∧ Gathers ⟨none, none, none⟩ fields b ∧ b.storage = some name ∧
    b.path.join = path ∧ b.content.getD "" = text

theorem readDatastore_of_tells {d : Draft} {name text : String} {path : Option String}
    (hd : TellsDatastore d name path text) : readDatastore d = .ok ⟨name, path, contentNames text⟩ := by
  obtain ⟨fields, b, rfl, hg, hname, rfl, rfl⟩ := hd
  have hfold := foldlM_of_gathers hg
  unfold datastoreSlots at hfold
  simp [readDatastore, readRecord, hfold, hname, bind, Except.bind, pure, Except.pure]

end Cluster

/-! ## Uploads -/

namespace Placement

theorem perm_sortTexts (ss : List String) : (sortTexts ss).Perm ss := by
  unfold sortTexts
  exact List.mergeSort_perm ss _

theorem pairwise_sortTexts (ss : List String) : (sortTexts ss).Pairwise (· ≤ ·) := by
  unfold sortTexts
  refine List.Pairwise.imp (fun h => of_decide_eq_true h) (List.pairwise_mergeSort ?_ ?_ ss)
  · intro a b c hab hbc
    simp only [decide_eq_true_eq] at *
    exact String.le_trans hab hbc
  · intro a b
    simpa using String.le_total a b

/-- Nothing is said of a datastore that is meant for the kind. Otherwise one warning names the kind as the cluster
does, and what the datastore is meant for, in order. -/
def Warns (target : Target) (names warnings : List String) : Prop :=
  (target.kind.name ∈ names → warnings = []) ∧
  (target.kind.name ∉ names → ∃ sorted : List String, sorted.Perm names ∧ sorted.Pairwise (· ≤ ·) ∧
    warnings = ["the datastore \"" ++ target.datastore ++ "\" does not support content type \"" ++ target.kind.name
      ++ "\"; supported content types are: " ++ Text.quotedList sorted])

theorem warns_unsupported (target : Target) (names : List String) :
    Warns target names (if names.contains target.kind.name then []
      else [unsupportedWarning target.datastore target.kind names]) := by
  constructor
  · intro hmem
    rw [if_pos (List.contains_iff_mem.2 hmem)]
  · intro hmem
    rw [if_neg fun hcontains => hmem (List.contains_iff_mem.1 hcontains)]
    exact ⟨sortTexts names, perm_sortTexts names, pairwise_sortTexts names, rfl⟩

section
variable {σ : Type} (h : Host Reconciling σ) (target : Target) (artifact : Artifact) (mode : Option FileMode) (s : σ)

/-- The question for the datastore. -/
def inquiring : Entry Reconciling σ := .askedInTime h (.backend (.datastore target.datastore)) s

/-- The upload into a directory below this path. -/
def streaming (path : String) : Entry Reconciling σ :=
  .askedInTime h
    (.backend (.streamUpload target.node path ⟨target.kind.directory, artifact.fileName, artifact.path, mode⟩)) s

/-- The upload through the cluster's own service. -/
def submitting : Entry Reconciling σ :=
  .askedInTime h
    (.backend (.apiUpload target.node target.datastore ⟨target.kind.name, artifact.fileName, artifact.path, mode⟩)) s

/-- An upload with the calls that it makes. -/
def logged : Option (Except Fault (List String)) × σ × List (Entry Reconciling σ) :=
  Program.runInTime h.logged (upload target artifact mode) (s, [])

/-- What an upload comes to that ends with the reply to its last call, and gives these warnings if that is a success. -/
def ended (log : List (Entry Reconciling σ)) (reply : Option (Except Fault Unit)) (t : σ) (warnings : List String) :
    Option (Except Fault (List String)) × σ × List (Entry Reconciling σ) :=
  (reply.map fun r => r.map fun _ => warnings, t, log)

end

section
variable {σ : Type} {h : Host Reconciling σ} {target : Target} {artifact : Artifact} {mode : Option FileMode} {s : σ}

theorem runInTime_call (h : Host Reconciling σ) (c : BackendCall) (s : σ) (log : List (Entry Reconciling σ)) :
    Program.runInTime h.logged (Reconciling.call c) (s, log) =
      ((h.answerInTime (.backend c) s).1, (h.answerInTime (.backend c) s).2, log ++ [.askedInTime h (.backend c) s]) :=
  Program.runInTime_request h.logged (.backend c) (s, log)

/-- What a task comes to with a value given behind it. -/
theorem runInTime_returning {t : Task Reconciling Unit} {u : σ} {log log' : List (Entry Reconciling σ)}
    {reply : Option (Except Fault Unit)} (ht : Program.runInTime h.logged t (s, log) = (reply, u, log'))
    (warnings : List String) :
    Program.runInTime h.logged (t >>= fun _ => pure warnings : Task Reconciling (List String)) (s, log) =
      ended log' reply u warnings := by
  rw [Task.runInTime_bind, ht]
  rcases reply with _ | _ | _ <;> rfl

/-- A kind that the cluster's own service takes is handed over to it, and nothing else is asked or said. -/
theorem logged_api (hkind : target.kind.usesApiUpload = true) : logged h target artifact mode s =
    ended [submitting h target artifact mode s] (submitting h target artifact mode s).reply
      (submitting h target artifact mode s).after [] := by
  unfold logged upload ContentKind.transport
  simp only [hkind, if_true]
  exact runInTime_returning (runInTime_call h _ s []) []

section
variable {d : Datastore} {t : σ} (hkind : target.kind.usesApiUpload = false)
  (hd : h.answerInTime (.backend (.datastore target.datastore)) s = (some (.ok d), t))

include hd

theorem runInTime_datastore : Program.runInTime h.logged (Reconciling.datastore target.datastore) (s, []) =
    (some (.ok d), t, [inquiring h target s]) := by
  refine (runInTime_call h (.datastore target.datastore) s []).trans ?_
  rw [hd]
  rfl

include hkind

theorem logged_stream_noPath (hpath : d.path = none ∨ d.path = some "") : logged h target artifact mode s =
    (some (.error (.noDestinationPath target.datastore)), t, [inquiring h target s]) := by
  have hstated : stated d.path = none := by
    rcases hpath with hpath | hpath <;> simp [hpath]
  unfold logged upload ContentKind.transport
  simp only [hkind, Bool.false_eq_true, if_false]
  refine (Task.runInTime_bind_ok (runInTime_datastore hd) _).trans ?_
  simp only [hstated]
  rfl

theorem logged_stream {path : String} (hpath : d.path = some path) (hne : path ≠ "") :
    ∃ warnings, Warns target d.content warnings ∧ logged h target artifact mode s =
      ended [inquiring h target s, streaming h target artifact mode t path]
        (streaming h target artifact mode t path).reply (streaming h target artifact mode t path).after warnings := by
  have hstated : stated d.path = some path := by simp [hpath, stated, hne]
  refine ⟨_, warns_unsupported target d.content, ?_⟩
  unfold logged upload ContentKind.transport
  simp only [hkind, Bool.false_eq_true, if_false]
  refine (Task.runInTime_bind_ok (runInTime_datastore hd) _).trans ?_
  simp only [hstated]
  exact runInTime_returning (runInTime_call h _ t _) _

end

end

/-- **Content kinds are checked by the names that the cluster uses.** What a datastore is meant for are the names that
the text of its content lists, in their order. A streamed upload asks for the datastore first. Without a path it fails,
and nothing is uploaded. With one it uploads in any case, and warns just if the name of the kind is not among them. A
kind that is not streamed is uploaded without that question, and without a warning. -/
theorem kinds_checked_by_name {σ : Type} (wire : Host Cluster.Wire σ) (c : Cluster.Connection)
    (patience : σ → Time.Span) (here : Host Surroundings σ) (target : Target) (artifact : Artifact)
    (mode : Option FileMode) (s : σ) :
    let h := Host.join (c.host wire patience) here
    (∀ text names, Cluster.contentNames text = names ↔ Cluster.Lists text.toList names) ∧
    (∀ a t data name path text, ((Cluster.Inquiry.datastore target.datastore).send c.api).runInTime wire s = (some a, t) →
      Cluster.TellsData a data → Cluster.TellsDatastore data name path text →
      Program.runInTime wire (c.api.storage target.datastore) s =
          (some (.ok ⟨name, path, Cluster.contentNames text⟩), t) ∧
        (target.kind.usesApiUpload = false →
          ((path = none ∨ path = some "") → logged h target artifact mode s =
            (some (.error (.noDestinationPath target.datastore)), t, [inquiring h target s])) ∧
          ∀ p, path = some p → p ≠ "" → ∃ warnings, Warns target (Cluster.contentNames text) warnings ∧
            logged h target artifact mode s =
              ended [inquiring h target s, streaming h target artifact mode t p]
                (streaming h target artifact mode t p).reply (streaming h target artifact mode t p).after warnings)) ∧
    (target.kind.usesApiUpload = true → logged h target artifact mode s =
      ended [submitting h target artifact mode s] (submitting h target artifact mode s).reply
        (submitting h target artifact mode s).after []) := by
  intro h
  refine ⟨fun _ _ => Cluster.contentNames_eq_iff, ?_, logged_api⟩
  intro a t data name path text hsend hdata hstore
  have hsettle := Cluster.Inquiry.settle_eq_ok_iff.2
    (Cluster.carries_of_tellsData (q := .datastore target.datastore) hdata (Cluster.readDatastore_of_tells hstore))
  have hstorage : Program.runInTime wire (c.api.storage target.datastore) s =
      (some (.ok ⟨name, path, Cluster.contentNames text⟩), t) := by
    refine (Cluster.Inquiry.runInTime_ask (.datastore target.datastore) wire c.api s).trans ?_
    rw [hsend]
    exact Prod.ext (congrArg some hsettle) rfl
  have hd : h.answerInTime (.backend (.datastore target.datastore)) s =
      (some (.ok ⟨name, path, Cluster.contentNames text⟩), t) := hstorage
  refine ⟨hstorage, fun hkind => ⟨?_, ?_⟩⟩
  · exact logged_stream_noPath hkind hd
  · intro p hpath hne
    exact logged_stream hkind hd hpath hne

/-- What a cluster says of a datastore of snippets, in whose text the directory of backups stands, too. -/
def snippetStore : List (String × Value) :=
  [("type", .text "dir"), ("content", .text " snippets,, dump\t"), ("path", .text "/srv"), ("storage", .text "store")]

/-- A machine that reaches a cluster with that datastore. -/
def snippetWorld : World :=
  { World.ofTree .empty with network := ⟨some "10.0.0.1:8006",
      [some ⟨200, [], ⟨[(Value.object [("data", .object snippetStore)]).toText.toUTF8], true⟩⟩], []⟩ }

theorem exists_send_snippetWorld : ∃ url t,
    ((Cluster.Inquiry.datastore "store").send .sample).runInTime World.wire snippetWorld =
      (some (.ok (url, ⟨200, [], ⟨[(Value.object [("data", .object snippetStore)]).toText.toUTF8], true⟩⟩)), t) := by
  have hsend : ((((Cluster.Inquiry.datastore "store").send .sample).runInTime World.wire snippetWorld).1.bind
      Except.toOption).any (fun p => p.2.status = 200 ∧ p.2.headers = [] ∧
        p.2.body.chunks = [(Value.object [("data", .object snippetStore)]).toText.toUTF8] ∧ p.2.body.complete = true) =
      true := by decide +kernel
  obtain ⟨⟨url, status, headers, chunks, complete⟩, hr, hp⟩ := (Option.any_eq_true _ _).1 hsend
  obtain ⟨rfl, rfl, rfl, rfl⟩ := of_decide_eq_true hp
  obtain ⟨reply, hreply, hok⟩ := Option.bind_eq_some_iff.1 hr
  rw [eq_ok_of_toOption hok] at hreply
  exact ⟨url, _, Prod.ext hreply rfl⟩

theorem tellsDatastore_snippetStore :
    Cluster.TellsDatastore (Value.object snippetStore).draft "store" (some "/srv") " snippets,, dump\t" :=
  ⟨_, _, rfl, .other ⟨"type", rfl, by decide, rfl⟩ (.content rfl (.path rfl (.storage rfl .nil))), rfl, rfl, rfl⟩

/-- An answer whose body is the text of an envelope with these fields in its data. -/
theorem tellsData_toText (url : Url) (fields : List (String × Value)) :
    Cluster.TellsData (.ok (url, ⟨200, [], ⟨[(Value.object [("data", .object fields)]).toText.toUTF8], true⟩⟩))
      (Value.object fields).draft := by
  refine ⟨url, _, [], [], rfl, rfl, rfl, ?_, by simp⟩
  simp only [Http.Body.bytes, List.foldl_cons, List.foldl_nil, ByteArray.empty_append]
  rw [documentOf_toText]
  simp [Value.draft, draftFields, draftField]

/-- A backup goes into the directory `dump`, but the name that is missing is `backup`. -/
theorem kinds_checked_by_name_backup :
    let h := Host.join (Cluster.Connection.host ⟨.sample, .default⟩ World.wire fun w => w.time.limit) World.surroundings
    let target : Target := ⟨"pve", "store", .backup⟩
    let artifact : Artifact := ⟨"a.vma", "a.vma", false⟩
    ∃ t warnings, Warns target ["snippets", "dump"] warnings ∧ warnings ≠ [] ∧
      logged h target artifact none snippetWorld =
        ended [inquiring h target snippetWorld, streaming h target artifact none t "/srv"]
          (streaming h target artifact none t "/srv").reply (streaming h target artifact none t "/srv").after warnings := by
  intro h target artifact
  obtain ⟨url, t, hsend⟩ := exists_send_snippetWorld
  have hchecked := kinds_checked_by_name World.wire ⟨.sample, .default⟩ (fun w => w.time.limit) World.surroundings target
    artifact none snippetWorld
  obtain ⟨-, hstream⟩ :=
    hchecked.2.1 _ t _ _ _ _ hsend (tellsData_toText url snippetStore) tellsDatastore_snippetStore
  obtain ⟨warnings, hwarns, hlogged⟩ := (hstream rfl).2 "/srv" rfl (by decide)
  have hnames : Cluster.contentNames " snippets,, dump\t" = ["snippets", "dump"] := by decide
  rw [hnames] at hwarns
  refine ⟨t, warnings, hwarns, ?_, hlogged⟩
  obtain ⟨sorted, -, -, rfl⟩ := hwarns.2 (by decide)
  exact List.cons_ne_nil _ _

end Placement

end FilePlacement
