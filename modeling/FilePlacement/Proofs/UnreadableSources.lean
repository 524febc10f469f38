import FilePlacement.Proofs.ClusterFiles
import FilePlacement.Proofs.DeletionTargets
import FilePlacement.Proofs.TreeChanges
import FilePlacement.World

/-!
# Sources that cannot be opened

A local source is not looked at before it is read. If it cannot be opened, creating fails, and nothing has been
uploaded or deleted: the web service has only been asked questions, and no client program has been fed
(`unreadable_source`). The client of a streamed upload may have been started, though, because it is started before
the file is opened (`client_started`).
-/

namespace FilePlacement

open Reconciler

/-- A call that only asks something. -/
def BackendCall.Asks : BackendCall → Prop
  | .listFiles .. | .datastore _ | .release => True
  | _ => False

def Call.Asks : Call → Prop
  | .backend call => call.Asks
  | .here _ => False

namespace Cluster

variable {σ α : Type}

/-! ## Requests that do no harm -/

/-- A question, or the start of a client where one may be started. -/
def WireCall.Harmless (started : Prop) : WireCall → Prop
  | .exchange request => request.method ≠ .post ∧ request.method ≠ .delete
  | .openFile _ | .pause => True
  | .startClient _ => started
  | .feedClient .. => False

theorem WireCall.harmless_of_sends {started : Prop} {r : WireCall} (hpost : r.sends .post = false)
    (hdelete : r.sends .delete = false) (hclient : r.isClient = false) : r.Harmless started := by
  cases r with
  | exchange request => exact ⟨of_decide_eq_false hpost, of_decide_eq_false hdelete⟩
  | openFile path => trivial
  | pause => trivial
  | startClient command => cases hclient
  | feedClient command file => cases hclient

theorem Connection.harmless_serve (c : Connection) {call : BackendCall} (hcall : call.Asks) (patience : Time.Span)
    (started : Prop) : (c.serve patience call).AsksOnly (WireCall.Harmless started) := by
  have hmethod : call.method? = none := by cases call <;> first | rfl | cases hcall
  have hpost := c.avoids_serve (.inl rfl) (by rw [hmethod]; exact nofun) patience
  have hdelete := c.avoids_serve (.inr rfl) (by rw [hmethod]; exact nofun) patience
  have hclient : (c.serve patience call).AsksOnly fun r => WireCall.isClient r = false :=
    c.noClient_serve patience (by rintro node path upload rfl; exact hcall)
  exact Task.AsksOnly.mono (Program.AsksOnly.and hpost (Program.AsksOnly.and hdelete hclient))
    fun r hr => WireCall.harmless_of_sends hr.1 hr.2.1 hr.2.2

/-! ## Surroundings without the source -/

/-- As long as the surroundings are in `Inv`, there is no opening a path, and as long as no client is fed they
stay there. -/
structure Unreadable (wire : Host Wire σ) (here : Host Surroundings σ) (path : String) (Inv : σ → Prop) : Prop where
  openFile : ∀ s file, Inv s → (wire.answerInTime (WireCall.openFile path) s).1 ≠ some (Except.ok file)
  contents : ∀ s bytes, Inv s → (here.answerInTime (LocalCall.contents path) s).1 ≠ some (Except.ok bytes)
  answer_wire : ∀ (r : WireCall) s, r.Harmless True → Inv s → Inv (wire.answerInTime r s).2
  act_wire : ∀ d s, Inv s → Inv (wire.act d s)
  answer_here : ∀ s, Inv s → Inv (here.answerInTime (LocalCall.contents path) s).2
  act_here : ∀ d s, Inv s → Inv (here.act d s)
  setLimit : ∀ limit s, Inv s → Inv (here.setLimit limit s)

/-- The surroundings are in `Inv`, and nothing harmful has gone over the wire. -/
def Spared (Inv : σ → Prop) (started : Prop) (t : σ × List (Entry Wire σ)) : Prop :=
  Inv t.1 ∧ ∀ e ∈ t.2, WireCall.Harmless started e.request

section
variable {wire : Host Wire σ} {here : Host Surroundings σ} {path : String} {Inv : σ → Prop} {started : Prop}
  {t : σ × List (Entry Wire σ)} (hu : Unreadable wire here path Inv)

include hu

theorem Spared.answered (ht : Spared Inv started t) {r : WireCall} (hr : r.Harmless started) :
    Spared Inv started (wire.logged.answerInTime r t).2 := by
  have htrue : r.Harmless True := by cases r <;> first | exact hr | trivial
  refine ⟨hu.answer_wire r t.1 htrue ht.1, fun e he => ?_⟩
  rcases List.mem_append.1 he with he | he
  · exact ht.2 e he
  · exact List.mem_singleton.1 he ▸ hr

theorem Spared.act_wire (ht : Spared Inv started t) (d : WireDeed) : Spared Inv started (wire.logged.act d t) :=
  ⟨hu.act_wire d t.1 ht.1, ht.2⟩

theorem Spared.act_here (ht : Spared Inv started t) (c : Connection) (patience : σ → Time.Span) (d : LocalDeed) :
    Spared Inv started ((c.traced wire here patience).act d t) := ⟨hu.act_here d t.1 ht.1, ht.2⟩

theorem leads_spared (ht : Spared Inv started t) {p : Task Wire α} (hp : p.AsksOnly (WireCall.Harmless started)) :
    p.Leads wire.logged (Spared Inv started) t :=
  Task.leads_of_asksOnly _ (fun _ _ hr ht => ht.answered hu hr) (fun d _ ht => ht.act_wire hu d) hp ht

/-- Opening the source fails, or is cut off. -/
theorem fails_openFile (ht : Spared Inv started t) :
    (Wire.openFile path).Fails wire.logged (Spared Inv started) t := by
  have hopened := ht.answered hu (r := .openFile path) trivial
  refine Task.wp_ofIo.2 (Program.wp_ask.2 ⟨fun reply u hreply => ?_, fun u hcut => ?_⟩)
  · rw [hreply] at hopened
    cases reply with
    | ok file => exact hu.openFile t.1 file ht.1 (congrArg Prod.fst hreply)
    | error why => exact hopened
  · rw [hcut] at hopened
    exact hopened

/-- The upload service is not sent a file that cannot be opened. -/
theorem fails_apiUpload (api : Api) (node storage : String) (upload : Upload) (hpath : upload.localPath = path)
    (patience : Time.Span) (ht : Spared Inv started t) :
    (api.upload node storage upload patience).Fails wire.logged (Spared Inv started) t := by
  unfold Api.upload
  rw [hpath]
  exact (fails_openFile hu ht).bind

/-- A client is started for a file that cannot be opened, but is not fed. -/
theorem fails_streamUpload (config : StreamConfig) (node directory : String) (upload : Upload)
    (hpath : upload.localPath = path) (hstarted : started) (ht : Spared Inv started t) :
    (config.upload node directory upload).Fails wire.logged (Spared Inv started) t := by
  unfold StreamConfig.upload
  rw [hpath]
  split
  · exact Task.wp_throw.2 ht
  · refine Task.wp_andThen (leads_spared hu ht ?_) fun _ u hs => Task.Fails.bind (Task.wp_unlessOk.2 ?_)
    · exact Task.AsksOnly.ofIo ⟨hstarted, fun _ => trivial⟩
    · exact Task.wp_mono (fails_openFile hu hs) (fun _ _ hno => hno) (fun _ _ hs => hs.act_wire hu _) fun _ hs => hs

end

end Cluster

/-! ## Creating -/

/-- What has to be true of a desired state for a client to be started: its kind is streamed, and no checksum is
stated, which would have been looked at before. -/
def StartsUnread (spec : Spec) (f : SourceFile) : Prop :=
  stated f.checksum = none ∧ ∃ p kind, plan spec = .ok p ∧ KindFor spec p.fileName kind ∧ kind.transport = .stream

theorem source_eq_file {spec : Spec} {f : SourceFile} {source : Source} (hf : spec.sourceFile = some f)
    (hsource : spec.source = .ok source) : source = .file f := by
  unfold Spec.source at hsource
  rw [hf] at hsource
  cases hraw : spec.sourceRaw with
  | none => rw [hraw] at hsource; cases hsource; rfl
  | some r => rw [hraw] at hsource; cases hsource

section
variable {σ : Type} {c : Cluster.Connection} {wire : Host Cluster.Wire σ} {here : Host Surroundings σ}
  {patience : σ → Time.Span} {Inv : σ → Prop} {started : Prop} {t : σ × List (Entry Cluster.Wire σ)} {f : SourceFile}
  (hu : Cluster.Unreadable wire here f.path Inv)

open Cluster

/-- A call comes to what its program comes to on the wire. -/
theorem wp_call_traced {call : BackendCall} {Q : call.Result → σ × List (Entry Wire σ) → Prop}
    {E : Fault → σ × List (Entry Wire σ) → Prop} {C : σ × List (Entry Wire σ) → Prop}
    (hw : (c.serve (patience t.1) call).wp wire.logged Q E C t) (hact : ∀ d u, C u → C (wire.logged.act d u)) :
    (Reconciling.call call).wp (c.traced wire here patience) Q E C t := by
  refine (Reconciling.wp_call call).2 ⟨fun a u hrun => ?_, fun e u hrun => ?_, fun u hrun => ?_⟩
  · exact Task.of_runInTime_ok hw hrun
  · exact Task.of_runInTime_error hw hrun
  · exact Task.of_runInTime_none hw hact hrun

include hu

/-- Questions to the cluster do no harm. -/
theorem leads_asks {α : Type} (ht : Spared Inv started t) {p : Task Reconciling α} (hp : p.AsksOnly Call.Asks) :
    p.Leads (c.traced wire here patience) (Spared Inv started) t := by
  refine Task.leads_of_asksOnly _ (fun r u hr hs => ?_) (fun d _ ht => ht.act_here hu c patience d) hp ht
  cases r with
  | here call => cases hr
  | backend call =>
    have hserve := leads_spared hu hs (c.harmless_serve hr (patience u.1) started)
    exact hserve.host fun d _ ht => ht.act_wire hu d

/-- The source is not read, so that whoever reads it gets no further. -/
theorem fails_contents (ht : Spared Inv started t) :
    (Reconciling.contents f.path).Fails (c.traced wire here patience) (Spared Inv started) t := by
  have hread : Spared Inv started ((c.traced wire here patience).answerInTime (Call.here (.contents f.path)) t).2 :=
    ⟨hu.answer_here t.1 ht.1, ht.2⟩
  refine Task.wp_ofIo.2 (Program.wp_ask.2 ⟨fun reply u hreply => ?_, fun u hcut => ?_⟩)
  · rw [hreply] at hread
    cases reply with
    | ok bytes => exact hu.contents t.1 bytes ht.1 (congrArg Prod.fst hreply)
    | error why => exact hread
  · rw [hcut] at hread
    exact hread

/-- Without a checksum the source is taken as it is, and with one it is not taken at all. -/
theorem wp_resolve_spared (tmpDir : String) (hlocal : f.isUrl = false) (ht : Spared Inv started t) :
    (Artifact.resolve tmpDir (.file f)).wp (c.traced wire here patience)
      (fun a u => (a.path = f.path ∧ a.deeds = [] ∧ stated f.checksum = none) ∧ Spared Inv started u)
      (fun _ => Spared Inv started) (Spared Inv started) t := by
  unfold Artifact.resolve
  refine Task.wp_bind.2 (Task.wp_ofExcept.2 ⟨fun fileName _ => ?_, fun _ _ => ht⟩)
  dsimp only
  rw [if_neg (by simp [hlocal])]
  unfold Artifact.verify
  split
  · rename_i hnone
    exact ⟨⟨rfl, rfl, hnone⟩, ht⟩
  · exact Task.Fails.bind (fails_contents hu ht).bind

/-- A call that does not succeed for want of the source. -/
theorem fails_call (call : BackendCall)
    (hw : (c.serve (patience t.1) call).Fails wire.logged (Spared Inv started) t) :
    (Reconciling.call call).Fails (c.traced wire here patience) (Spared Inv started) t :=
  wp_call_traced hw fun d _ ht => ht.act_wire hu d

theorem fails_upload (target : Target) {artifact : Artifact} (hpath : artifact.path = f.path) (mode : Option FileMode)
    (hstarted : target.kind.transport = .stream → started) (ht : Spared Inv started t) :
    (Placement.upload target artifact mode).Fails (c.traced wire here patience) (Spared Inv started) t := by
  unfold Placement.upload
  cases hway : target.kind.transport with
  | api =>
    have hsent := fails_apiUpload hu c.api target.node target.datastore
      ⟨target.kind.name, artifact.fileName, artifact.path, mode⟩ hpath (patience t.1) ht
    exact (fails_call hu (.apiUpload ..) hsent).bind
  | stream =>
    refine Task.wp_andThen (leads_asks hu ht (asksOnly_call (c := .datastore _) trivial)) fun d u hs => ?_
    split
    · exact Task.wp_throw.2 hs
    · rename_i directory _
      have hfed := fails_streamUpload hu c.stream target.node directory
        ⟨target.kind.directory, artifact.fileName, artifact.path, mode⟩ hpath (hstarted hway) hs
      exact (fails_call hu (.streamUpload ..) hfed).bind

theorem fails_place (tmpDir : String) {spec : Spec} (hf : spec.sourceFile = some f) (hlocal : f.isUrl = false)
    (ht : Spared Inv (StartsUnread spec f) t) :
    (place tmpDir spec).Fails (c.traced wire here patience) (Spared Inv (StartsUnread spec f)) t := by
  unfold place
  refine Task.wp_bind.2 (Task.wp_ofExcept.2 ⟨fun p hp => ?_, fun _ _ => ht⟩)
  have hsource := source_eq_file hf (fileName_of_plan hp).1
  refine Task.wp_andThen (Task.wp_ends (ends_contentKind spec p.fileName)
    (leads_asks hu ht (asksOnly_contentKind trivial spec p.fileName))) fun kind u hk => ?_
  obtain ⟨hkind, hs⟩ := hk
  have hlist : (Placement.checkCollision spec.nodeName spec.datastoreId p.fileName spec.overwrite).AsksOnly Call.Asks :=
    Task.AsksOnly.bind (asksOnly_call trivial) fun _ => Task.asksOnly_ofExcept _
  refine Task.wp_andThen (leads_asks hu hs hlist) fun overwritten v hs => ?_
  rw [hsource]
  refine Task.wp_andThen (wp_resolve_spared hu tmpDir hlocal hs) fun artifact w ha => ?_
  obtain ⟨⟨hpath, hdeeds, hunstated⟩, hs⟩ := ha
  rw [hdeeds]
  refine Task.Fails.bind (Task.wp_guarded.2 (fails_upload hu _ hpath _ (fun hway => ?_) hs))
  exact ⟨hunstated, p, kind, hp, hkind, hway⟩

end

/-! ## Files of a machine that cannot be opened -/

namespace FileTree

theorem openFile_eq_error {t : FileTree} {path : String} {e : IoError} :
    t.openFile path = .error e ↔ t.find path = .error e := by
  unfold openFile
  cases t.find path <;> simp [Except.map]

theorem contents_of_openFile {t : FileTree} {path : String} {e : IoError} (ho : t.openFile path = .error e) :
    t.contents path = .error e := by
  unfold contents
  rw [ho]
  rfl

/-- What is found after a file has been removed has been found before. -/
theorem find_of_unlink {t t' : FileTree} {path removed : String} {n : FileNode} (hu : t.unlink removed = .ok t')
    (hf : t'.find path = .ok n) : t.find path = .ok n := by
  obtain ⟨loc, -, hu⟩ := bind_eq_ok.1 hu
  have hremoved : loc ≠ [] ∧ t' = t.remove loc := by
    split at hu
    · cases hu
    · rename_i data hn
      cases hu
      exact ⟨ne_root (by rw [hn]; rintro ⟨⟩), rfl⟩
    · cases hu
  obtain ⟨hroot, rfl⟩ := hremoved
  have hback : ∀ l m, (t.remove loc).node? l = some m → t.node? l = some m := by
    intro l m hm
    rw [node?_remove t loc l hroot] at hm
    split at hm
    · cases hm
    · exact hm
  obtain ⟨at', hl, hf⟩ := bind_eq_ok.1 hf
  obtain ⟨entrance, he, hw⟩ := bind_eq_ok.1 hl
  have hlocate : t.locate path = .ok at' := bind_eq_ok.2 ⟨entrance, he, walk_mono (fun l => hback l _) hw⟩
  refine bind_eq_ok.2 ⟨at', hlocate, ?_⟩
  split at hf
  · rename_i m hm
    rw [hback at' m hm]
    exact hf
  · cases hf

end FileTree

namespace World

/-- Removing a file does not make way for a path. -/
theorem openFile_discard {w : World} {path : String} (removed : String)
    (hw : ∃ e, w.tree.openFile path = .error e) : ∃ e, (w.discard removed).tree.openFile path = .error e := by
  obtain ⟨e, he⟩ := hw
  unfold discard
  split
  · rename_i tree hu
    cases hfind : tree.find path with
    | error why => exact ⟨why, FileTree.openFile_eq_error.2 hfind⟩
    | ok n =>
      rw [FileTree.openFile_eq_error, FileTree.find_of_unlink hu hfind] at he
      cases he
  · exact ⟨e, he⟩

/-- On one machine, a path that cannot be opened stays so while no client is fed. -/
theorem unreadable (path : String) :
    Cluster.Unreadable wire surroundings path fun w => ∃ e, w.tree.openFile path = .error e where
  openFile w file hw := by
    obtain ⟨e, he⟩ := hw
    unfold wire
    dsimp only
    split
    · rintro ⟨⟩
    · change some (w.tree.openFile path) ≠ _
      rw [he]
      rintro ⟨⟩
  contents w bytes hw := by
    obtain ⟨e, he⟩ := hw
    unfold surroundings
    dsimp only
    split
    · rintro ⟨⟩
    · change some (w.tree.contents path) ≠ _
      rw [FileTree.contents_of_openFile he]
      rintro ⟨⟩
  answer_wire r w hr hw := by
    cases r with
    | feedClient command file => exact hr.elim
    | pause => exact hw
    | _ =>
      unfold wire
      dsimp only
      split <;> exact hw
  act_wire _ _ hw := hw
  answer_here w hw := by
    unfold surroundings
    dsimp only
    split <;> exact hw
  act_here d _ hw := by
    obtain ⟨removed⟩ := d
    exact openFile_discard removed hw
  setLimit _ _ hw := hw

/-- A web server that knows no file and of one datastore where its files are. -/
def cluster : World :=
  let answer (body : String) : Option Http.Response := some ⟨200, [], ⟨[body.toUTF8], true⟩⟩
  { ofTree .empty with network := ⟨some "10.0.0.1:8006",
      [answer "\x7b\"data\":[]\x7d", answer "\x7b\"data\":\x7b\"storage\":\"local\",\"path\":\"/store\"\x7d\x7d"], []⟩ }

theorem openFile_missing : cluster.tree.openFile "missing.yaml" = .error .notFound := by
  have hlocate : cluster.tree.locate "missing.yaml" = .ok ["work", "missing.yaml"] := by decide +kernel
  have hnone : (cluster.tree.node? ["work", "missing.yaml"]).isNone = true := by decide +kernel
  refine FileTree.openFile_eq_error.2 ?_
  unfold FileTree.find
  rw [hlocate]
  simp only [bind, Except.bind, Option.isNone_iff_eq_none.1 hnone]

end World

/-- A cluster that is reached with the client script of the working directory. -/
def Cluster.Connection.sample : Connection := ⟨.sample, ⟨["sh", "client.sh"], "root", 22, none, .empty⟩⟩

/-- A snippet in a local file that is not there. -/
def Spec.missing : Spec :=
  ⟨"pve", "local", some "snippets", some ⟨"missing.yaml", none, none, false, none⟩, none, none, true, 60⟩

/-! ## What creating sends -/

/-- **A source that cannot be opened.** While a local source cannot be opened, creating fails, and what has gone over
the wire are questions: no upload and no deletion is sent, and no client is fed. A client is started at most, and
only for a kind that is streamed and a source without a checksum. -/
theorem unreadable_source {σ : Type} (c : Cluster.Connection) {wire : Host Cluster.Wire σ} {here : Host Surroundings σ}
    (patience : σ → Time.Span) {Inv : σ → Prop} {f : SourceFile} (hu : Cluster.Unreadable wire here f.path Inv)
    (tmpDir : String) {spec : Spec} (hf : spec.sourceFile = some f) (hlocal : f.isUrl = false) {s : σ} (hs : Inv s) :
    (∃ fault, (create (Host.join (c.host wire patience) here) tmpDir spec s).result = .error fault) ∧
      ∀ e ∈ (create (c.traced wire here patience) tmpDir spec (s, [])).host.2,
        Cluster.WireCall.Harmless (StartsUnread spec f) e.request := by
  have hbegin : Cluster.Spared Inv (StartsUnread spec f)
      ((c.traced wire here patience).setLimit spec.timeout (s, [])) :=
    ⟨hu.setLimit spec.timeout s hs, by simp [Cluster.Connection.traced, Host.join, Host.zoom]⟩
  have hconcludes := create_concludes (c.traced wire here patience) tmpDir spec (s, [])
    (E := fun _ => Cluster.Spared Inv (StartsUnread spec f)) (F := fun _ _ _ => False) (B := fun _ _ _ => False)
    (fails_place hu tmpDir hf hlocal hbegin) (fun _ _ hno => hno.elim)
    (fun _ d _ ht => ht.act_here hu c patience d) fun _ _ _ _ hno => hno
  have hagrees := create_agrees (Cluster.traced_agrees c wire here patience) tmpDir spec (s, [])
  rw [hagrees]
  generalize create (c.traced wire here patience) tmpDir spec (s, []) = finished at hconcludes
  cases hconcludes with
  | unplaced ht => exact ⟨⟨_, rfl⟩, ht.2⟩
  | undone hno => exact hno.elim
  | created hno => exact hno.elim

theorem unreadable_source_missing :
    World.cluster.tree.openFile "missing.yaml" = .error .notFound ∧
      (∃ fault, (create (Host.join (Cluster.Connection.sample.host World.wire fun w => w.time.limit) World.surroundings)
        "tmp" .missing World.cluster).result = .error fault) ∧
      ∀ e ∈ (create (Cluster.Connection.sample.traced World.wire World.surroundings fun w => w.time.limit) "tmp"
        .missing (World.cluster, [])).host.2,
        Cluster.WireCall.Harmless (StartsUnread .missing ⟨"missing.yaml", none, none, false, none⟩) e.request := by
  have hf : Spec.missing.sourceFile = some ⟨"missing.yaml", none, none, false, none⟩ := rfl
  have hlocal : SourceFile.isUrl ⟨"missing.yaml", none, none, false, none⟩ = false := by decide +kernel
  have hunread := unreadable_source .sample (fun w => w.time.limit) (World.unreadable "missing.yaml") "tmp" hf hlocal
    ⟨_, World.openFile_missing⟩
  exact ⟨World.openFile_missing, hunread⟩

/-- The command that a client is started with. -/
def Cluster.WireCall.started? : WireCall → Option (List String)
  | .startClient command => some command
  | _ => none

/-- For a file that is not there the client is started all the same. -/
theorem client_started :
    World.cluster.tree.openFile "missing.yaml" = .error .notFound ∧
      (create (Cluster.Connection.sample.traced World.wire World.surroundings fun w => w.time.limit) "tmp" .missing
        (World.cluster, [])).host.2.filterMap (fun e => Cluster.WireCall.started? e.request) =
        [["sh", "client.sh", "-o", "BatchMode=yes", "-p", "22", "root@pve",
          "mkdir -p '/store/snippets' && cat > '/store/snippets/missing.yaml'"]] :=
  ⟨World.openFile_missing, by decide +kernel⟩

end FilePlacement
