import FilePlacement.Proofs.AuditTrail
import FilePlacement.Proofs.ClusterTraffic
import FilePlacement.Proofs.Identity
import FilePlacement.Proofs.PercentEncoding
import FilePlacement.Proofs.RollBack

/-!
# What a deletion deletes

A volume is deleted by its identity as the last segment of a path. The segment is read back as the identity
without its tabs and line breaks, which a path does not hold (`lastSegment?_deletion`). So two identities are
told apart by their deletions just where they differ in anything else: of the identities without tabs and line
breaks each one is deleted by itself, and one with them is taken for another one (`deletion_targets`).
-/

namespace FilePlacement

namespace Url

/-! ## Segments -/

/-- What is left of a text in a segment of a path. -/
def kept (s : String) : String := String.ofList (s.toList.filter fun c => !isSkipped c)

theorem kept_eq_self_iff {s : String} : kept s = s ↔ ∀ c ∈ s.toList, isSkipped c = false := by
  rw [kept, ← String.toList_inj, String.toList_ofList, List.filter_eq_self]
  simp

/-- A colon makes sure that a segment leads nowhere else. -/
theorem pushSegment_of_colon (list : List (List Char)) {s : String} (hs : ':' ∈ s.toList) :
    pushSegment list s.toList = pushRaw list (percentEncode inSegmentSet (kept s).toList) := by
  have hkept : ':' ∈ s.toList.filter fun c => !isSkipped c := List.mem_filter.2 ⟨hs, rfl⟩
  have hdots {cs : List Char} (hcs : ':' ∈ cs) : cs ≠ ['.'] ∧ cs ≠ ['.', '.'] := by
    constructor <;> rintro rfl <;> simp at hcs
  unfold pushSegment
  simp [hdots hs, hdots hkept, kept]

theorem getLast?_pushRaw (list : List (List Char)) (segment : List Char) :
    (pushRaw list segment).getLast? = some segment := by
  unfold pushRaw
  split <;> simp

section
variable {u : Url} (front : List String) {s t : String}

theorem lastSegment?_extend (hu : u.isOpaque = false) (hs : ':' ∈ s.toList) :
    (u.extend (front ++ [s])).lastSegment? = some (String.ofList (percentEncode inSegmentSet (kept s).toList)) := by
  unfold isOpaque at hu
  split at hu
  · rename_i list hpath
    simp [extend, hpath, lastSegment?, pushSegment_of_colon _ hs, getLast?_pushRaw]
  · cases hu

/-- What is dropped of the last segment makes no difference. -/
theorem extend_congr (hs : ':' ∈ s.toList) (ht : ':' ∈ t.toList) (heq : kept s = kept t) :
    u.extend (front ++ [s]) = u.extend (front ++ [t]) := by
  unfold extend
  split
  · simp [pushSegment_of_colon _ hs, pushSegment_of_colon _ ht, heq]
  · rfl

end

/-- The last segment stands at the end of the path. -/
theorem exists_text_of_lastSegment? {u : Url} {s : String} (h : u.lastSegment? = some s) :
    ∃ front, u.path.text = front ++ "/" ++ s := by
  unfold lastSegment? at h
  split at h
  · rename_i list hpath
    obtain ⟨front, rfl⟩ := List.getLast?_eq_some_iff.1 h
    refine ⟨String.ofList (front.flatMap fun s => '/' :: s.toList), ?_⟩
    rw [hpath, Path.text, ← String.toList_inj]
    simp
  · cases h

end Url

theorem VolumeId.colon_mem_of_parse {id : String} {v : VolumeId} (h : parse id = .ok v) : ':' ∈ id.toList := by
  obtain ⟨rfl, -⟩ := parse_eq_ok_iff.1 h
  simp [toList_format]

/-- The attempt deletes nothing. -/
theorem Course.deletions_eq {σ : Type} {h : Host Reconciling σ} {spec : Spec} {r : Except Fault (Outcome State)}
    {log undo : List (Entry Reconciling σ)} (hc : Course h spec r log undo) : deletions log = [] := by
  cases hc with
  | unplaced hlog => exact hlog.deletions_eq
  | created hid hlog hback => rw [deletions_append, hlog.deletions_eq, deletions_of_quiet hback, List.nil_append]
  | undone hlog hback => rw [deletions_append, hlog.deletions_eq, deletions_of_quiet hback, List.nil_append]

theorem Call.isDeletion_of_method? {call : Call} (h : call.method? = some .delete) : call.isDeletion = true := by
  cases call with
  | here call => cases h
  | backend call => cases call <;> first | rfl | cases h

theorem method?_of_deletions {σ : Type} {log : List (Entry Reconciling σ)} (hlog : deletions log = [])
    {e : Entry Reconciling σ} (he : e ∈ log) : e.call.method? ≠ some .delete := fun hmethod =>
  List.filter_eq_nil_iff.1 hlog e.call (List.mem_map_of_mem he) (Call.isDeletion_of_method? hmethod)

namespace Cluster

open Url

variable {σ : Type}

/-! ## Deletions -/

/-- The request that deletes a volume. -/
def Api.deletion (api : Api) (node storage volumeId : String) : Http.Request :=
  (api.request .delete ["nodes", node, "storage", storage, "content", volumeId] none).withCredentials

theorem Api.not_isOpaque_of_new {endpoint token : String} {insecure : Bool} {api : Api}
    (h : Api.new endpoint token insecure = .ok api) : api.base.isOpaque = false := by
  unfold Api.new at h
  split at h
  · cases h
  · split at h
    · cases h
    · rename_i hopaque
      cases h
      exact Bool.not_eq_true _ ▸ hopaque

theorem path_withCredentials (r : Http.Request) : r.withCredentials.url.path = r.url.path := by
  unfold Http.Request.withCredentials
  split <;> rfl

section
variable {api : Api} (hbase : api.base.isOpaque = false) (node storage : String) {id : String} {v : VolumeId}
  (hid : VolumeId.parse id = .ok v)

include hbase hid

theorem lastSegment?_deletion : (api.deletion node storage id).url.lastSegment? =
    some (String.ofList (percentEncode inSegmentSet (kept id).toList)) := by
  have hlast := lastSegment?_extend (["api2", "json"] ++ ["nodes", node, "storage", storage, "content"]) hbase
    (VolumeId.colon_mem_of_parse hid)
  unfold lastSegment? at hlast ⊢
  rw [Api.deletion, path_withCredentials]
  exact hlast

/-- The segment is one, and it is read as what is left of the identity. -/
theorem segment_deletion : ∃ front segment, (api.deletion node storage id).url.lastSegment? = some segment ∧
    (api.deletion node storage id).url.path.text = front ++ "/" ++ segment ∧
    (∀ c ∈ segment.toList, c ≠ '/' ∧ c ≠ '?' ∧ c ≠ '#') ∧
    (percentDecode segment.toList).toByteArray = (kept id).toUTF8 := by
  have hlast := lastSegment?_deletion hbase node storage hid
  obtain ⟨front, hfront⟩ := exists_text_of_lastSegment? hlast
  refine ⟨front, _, hlast, hfront, fun c hc => ?_, ?_⟩
  · rw [String.toList_ofList] at hc
    refine ⟨?_, ?_, ?_⟩ <;> rintro rfl <;> rcases mem_percentEncode hc with hc | ⟨-, hc, -⟩ <;> revert hc <;> decide
  · rw [String.toList_ofList]
    exact toByteArray_percentDecode rfl (kept id)

end

/-- Deletions at the same place are of the same text, but for what is dropped. -/
theorem kept_of_deletion {api api' : Api} (hbase : api.base.isOpaque = false) (hbase' : api'.base.isOpaque = false)
    {node storage node' storage' id id' : String} {v v' : VolumeId} (hid : VolumeId.parse id = .ok v)
    (hid' : VolumeId.parse id' = .ok v')
    (h : (api.deletion node storage id).url.lastSegment? = (api'.deletion node' storage' id').url.lastSegment?) :
    kept id = kept id' := by
  rw [lastSegment?_deletion hbase node storage hid, lastSegment?_deletion hbase' node' storage' hid',
    Option.some.injEq, String.ofList_inj] at h
  have hbytes := congrArg (fun cs => (percentDecode cs).toByteArray) h
  rw [toByteArray_percentDecode rfl, toByteArray_percentDecode rfl] at hbytes
  exact String.toByteArray_inj.1 hbytes

theorem deletion_congr (api : Api) (node storage : String) {id id' : String} {v v' : VolumeId}
    (hid : VolumeId.parse id = .ok v) (hid' : VolumeId.parse id' = .ok v') (h : kept id = kept id') :
    api.deletion node storage id = api.deletion node storage id' := by
  have hurl := extend_congr (u := api.base) (["api2", "json"] ++ ["nodes", node, "storage", storage, "content"])
    (VolumeId.colon_mem_of_parse hid) (VolumeId.colon_mem_of_parse hid') h
  unfold Api.deletion Api.request Api.url
  exact congrArg (fun url => Http.Request.withCredentials ⟨.delete, url, _, _, none⟩) hurl

/-! ## What is sent -/

section
variable (c : Connection) (wire : Host Wire σ) (here : Host Surroundings σ) (patience : σ → Time.Span)

/-- A call to delete a volume, however long it takes. -/
theorem chained_answer (node storage volumeId : String) (s : σ × List (Entry Wire σ)) :
    Chained (c.api.deletion node storage volumeId) s.2
      ((c.traced wire here patience).answer (Call.backend (.deleteFile node storage volumeId)) s).2.2 := by
  have hchained := chained_ask wire.patient
    (c.api.request .delete ["nodes", node, "storage", storage, "content", volumeId] none) ("file " ++ volumeId)
    (Json.Draft.checkAny Json.depthLimit) s
  rw [patient_logged, Program.runInTime_patient] at hchained
  exact hchained

theorem chain_delete (spec : Spec) (state : State) (s : σ) :
    Chain (c.api.deletion spec.nodeName spec.datastoreId state.id)
      (Reconciler.delete (c.traced wire here patience) spec state (s, [])).host.2 := by
  obtain ⟨new, hnew, hchain⟩ := chained_answer c wire here patience spec.nodeName spec.datastoreId state.id (s, [])
  rw [delete_host]
  exact hnew ▸ hchain

/-- Creating sends no deletion before it takes back what it has uploaded. -/
theorem chain_create (tmpDir : String) (spec : Spec) (s : σ) :
    ∃ front back, (Reconciler.create (c.traced wire here patience) tmpDir spec (s, [])).host.2 = front ++ back ∧
      (∀ e ∈ front, WireCall.sends .delete e.request = false) ∧
      (back = [] ∨ ∃ v, IsTarget spec v ∧ Chain (c.api.deletion spec.nodeName spec.datastoreId v.format) back) := by
  obtain ⟨undo, hlog, hcourse⟩ := create_course (c.traced wire here patience) tmpDir spec (s, [])
  have hlinked := Reconciler.create_linked (h := c.traced wire here patience) (v := Prod.snd) (fun _ _ => rfl)
    (fun _ _ => rfl) tmpDir spec (s, [])
  rw [hlog, linked_append] at hlinked
  obtain ⟨m, hattempt, hundo⟩ := hlinked
  have hdeletions := hcourse.deletions_eq
  obtain ⟨front, hfront, hsends⟩ := hattempt.grown fun e he hg =>
    grown_entry hg (.inr rfl) (method?_of_deletions hdeletions he)
  rw [List.nil_append] at hfront
  subst hfront
  generalize Reconciler.attemptLog (c.traced wire here patience) tmpDir spec (s, []) = log at hcourse
  generalize (Reconciler.create (c.traced wire here patience) tmpDir spec (s, [])).result = r at hcourse
  cases hcourse with
  | unplaced _ => exact ⟨m.2, [], (hundo.symm.trans (List.append_nil m.2).symm), hsends, .inl rfl⟩
  | created _ _ _ => exact ⟨m.2, [], (hundo.symm.trans (List.append_nil m.2).symm), hsends, .inl rfl⟩
  | @undone _ v _ _ t hupload _ =>
    obtain ⟨hm, -, hafter⟩ := hundo
    obtain ⟨back, hgrown, hchain⟩ := chained_answer c wire here patience spec.nodeName spec.datastoreId v.format t
    exact ⟨m.2, back, by rw [← hafter, hm]; exact hgrown, hsends, .inr ⟨v, hupload.isTarget, hchain⟩⟩

end

/-- **What a deletion deletes.** An endpoint makes the last segment of a deletion the identity without its tabs
and line breaks. So deletions with the same last segment are of identities that differ in those at most, and
identities that do not differ in anything else have the same deletion: one without tabs and line breaks is told
apart from all others without them. A call to delete, deleting a recorded file and taking an upload back send
that request first, and another one only where they are redirected to. -/
theorem deletion_targets {endpoint token : String} {insecure : Bool} {api : Api}
    (hnew : Api.new endpoint token insecure = .ok api) :
    (∀ node storage id v, VolumeId.parse id = .ok v → (api.deletion node storage id).method = .delete ∧
      ∃ front segment, (api.deletion node storage id).url.lastSegment? = some segment ∧
        (api.deletion node storage id).url.path.text = front ++ "/" ++ segment ∧
        (∀ c ∈ segment.toList, c ≠ '/' ∧ c ≠ '?' ∧ c ≠ '#') ∧
        (percentDecode segment.toList).toByteArray = (kept id).toUTF8) ∧
    (∀ id, kept id = id ↔ ∀ c ∈ id.toList, isSkipped c = false) ∧
    (∀ node storage id v node' storage' id' v', VolumeId.parse id = .ok v → VolumeId.parse id' = .ok v' →
      (api.deletion node storage id).url.lastSegment? = (api.deletion node' storage' id').url.lastSegment? →
      kept id = kept id') ∧
    (∀ node storage id v id' v', VolumeId.parse id = .ok v → VolumeId.parse id' = .ok v' →
      (api.deletion node storage id = api.deletion node storage id' ↔ kept id = kept id')) ∧
    ∀ (σ : Type) stream (wire : Host Wire σ) here patience (s : σ),
      (∀ node storage id, Chain (api.deletion node storage id)
        ((Connection.traced ⟨api, stream⟩ wire here patience).answer (Call.backend (.deleteFile node storage id))
          (s, [])).2.2) ∧
      (∀ spec state, Chain (api.deletion spec.nodeName spec.datastoreId state.id)
        (Reconciler.delete (Connection.traced ⟨api, stream⟩ wire here patience) spec state (s, [])).host.2) ∧
      ∀ tmpDir spec, ∃ front back,
        (Reconciler.create (Connection.traced ⟨api, stream⟩ wire here patience) tmpDir spec (s, [])).host.2 =
          front ++ back ∧
        (∀ e ∈ front, WireCall.sends .delete e.request = false) ∧
        (back = [] ∨ ∃ v, IsTarget spec v ∧ Chain (api.deletion spec.nodeName spec.datastoreId v.format) back) := by
  have hbase := Api.not_isOpaque_of_new hnew
  refine ⟨?_, fun id => kept_eq_self_iff, ?_, ?_, ?_⟩
  · intro node storage id v hid
    exact ⟨method_withCredentials _, segment_deletion hbase node storage hid⟩
  · intro node storage id v node' storage' id' v' hid hid' hlast
    exact kept_of_deletion hbase hbase hid hid' hlast
  · intro node storage id v id' v' hid hid'
    refine ⟨fun h => ?_, deletion_congr api node storage hid hid'⟩
    exact kept_of_deletion hbase hbase hid hid' (congrArg (fun r => r.url.lastSegment?) h)
  · intro σ stream wire here patience s
    refine ⟨fun node storage id => ?_, fun spec state => ?_, fun tmpDir spec => ?_⟩
    · obtain ⟨new, hnew, hchain⟩ := chained_answer ⟨api, stream⟩ wire here patience node storage id (s, [])
      exact hnew ▸ hchain
    · exact chain_delete ⟨api, stream⟩ wire here patience spec state s
    · exact chain_create ⟨api, stream⟩ wire here patience tmpDir spec s

/-- The web service of one machine. -/
def Api.sample : Api := ⟨⟨"http", none, some (.ipv4 0x0A000001), some 8006, .segments [""], none, none⟩, "t", false⟩

theorem Api.new_sample : Api.new "http://10.0.0.1:8006/" "t" false = .ok sample := by
  have hparse : (Url.parse "http://10.0.0.1:8006/").toOption = some sample.base := by decide +kernel
  unfold Api.new
  cases h : Url.parse "http://10.0.0.1:8006/" with
  | error why => rw [h] at hparse; cases hparse
  | ok base =>
    rw [h] at hparse
    cases hparse
    rfl

/-- An image whose name is full of delimiters is deleted by itself. -/
theorem deletion_targets_image :
    Api.new "http://10.0.0.1:8006/" "t" false = .ok Api.sample ∧
      VolumeId.parse "local:iso/a/../%2F b?#.iso" = .ok ⟨"local", "iso", "a/../%2F b?#.iso"⟩ ∧
      ∃ segment, (Api.sample.deletion "pve" "local" "local:iso/a/../%2F b?#.iso").url.lastSegment? = some segment ∧
        (percentDecode segment.toList).toByteArray = "local:iso/a/../%2F b?#.iso".toUTF8 := by
  have htargets := deletion_targets Api.new_sample
  have hid : VolumeId.parse "local:iso/a/../%2F b?#.iso" = .ok ⟨"local", "iso", "a/../%2F b?#.iso"⟩ := by rfl
  obtain ⟨-, front, segment, hsegment, -, -, hbytes⟩ := htargets.1 "pve" "local" _ _ hid
  have hkept : kept "local:iso/a/../%2F b?#.iso" = "local:iso/a/../%2F b?#.iso" := by decide
  rw [hkept] at hbytes
  exact ⟨Api.new_sample, hid, segment, hsegment, hbytes⟩

/-- An image whose name has a tab is taken for another one. -/
theorem deletion_mistaken :
    Api.new "http://10.0.0.1:8006/" "t" false = .ok Api.sample ∧
      VolumeId.parse "local:iso/a\tb.iso" = .ok ⟨"local", "iso", "a\tb.iso"⟩ ∧
      VolumeId.parse "local:iso/ab.iso" = .ok ⟨"local", "iso", "ab.iso"⟩ ∧
      Api.sample.deletion "pve" "local" "local:iso/a\tb.iso" = Api.sample.deletion "pve" "local" "local:iso/ab.iso" ∧
      (Api.sample.deletion "pve" "local" "local:iso/a\tb.iso").url.text =
        "http://10.0.0.1:8006/api2/json/nodes/pve/storage/local/content/local:iso%2Fab.iso" := by
  have hid : VolumeId.parse "local:iso/a\tb.iso" = .ok ⟨"local", "iso", "a\tb.iso"⟩ := by rfl
  have hid' : VolumeId.parse "local:iso/ab.iso" = .ok ⟨"local", "iso", "ab.iso"⟩ := by rfl
  exact ⟨Api.new_sample, hid, hid', deletion_congr _ _ _ hid hid' (by decide), by decide +kernel⟩

end Cluster

end FilePlacement
