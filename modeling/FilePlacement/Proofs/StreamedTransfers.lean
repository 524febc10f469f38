import FilePlacement.Cluster.Stream
import FilePlacement.Proofs.Log
import FilePlacement.Proofs.Texts
import FilePlacement.World
import Mathlib.Logic.Relation

/-!
# What a streamed upload tells of its transfer

A file goes to a client through a pipe, from which the client takes it while it is being written, up to the point where
it closes its input (`Feeding.Step`). Whatever the order of the steps, nothing is lost and nothing overtakes
(`Feeding.Reaches.sound`), so the copy succeeds just if all of the file has been written (`Copies.whole_iff`).

An upload takes one of a few ways (`course_upload`). The end of the client decides about the last one: its status comes
first, and what has become of the copy counts only if that is a success (`StreamConfig.verdict_of_status`,
`StreamConfig.verdict_of_not_whole`). So an upload that succeeds has written the whole file (`success_means_whole`).
-/

namespace FilePlacement

namespace Cluster

/-! ## Feeding a client -/

/-- A client program as it is seen from the pipe: how many bytes of its input it takes before it closes it, the status
that it exits with, and what it complains of. -/
structure Client where
  takes : Nat
  status : Nat
  stderr : ByteArray

/-- The content of a file on its way to a client. -/
structure Feeding where
  /-- What is not written yet. -/
  left : List UInt8
  /-- What is written, but not taken yet. -/
  pipe : List UInt8
  taken : List UInt8
  /-- Whether the client has not closed its input yet. -/
  isOpen : Bool

namespace Feeding

/-- One step of the two sides, in any order: the one writes while there is room in the pipe, the other takes what is in
it, and closes its input when it has taken as much as it does. -/
inductive Step (takes : Nat) : Feeding → Feeding → Prop
  | write (chunk : List UInt8) {left pipe taken : List UInt8} : (pipe ++ chunk).length ≤ World.pipeCapacity →
      Step takes ⟨chunk ++ left, pipe, taken, true⟩ ⟨left, pipe ++ chunk, taken, true⟩
  | take (chunk : List UInt8) {left pipe taken : List UInt8} : (taken ++ chunk).length ≤ takes →
      Step takes ⟨left, chunk ++ pipe, taken, true⟩ ⟨left, pipe, taken ++ chunk, true⟩
  | close {left pipe taken : List UInt8} : taken.length = takes →
      Step takes ⟨left, pipe, taken, true⟩ ⟨left, pipe, taken, false⟩

/-- What the steps come to from the beginning. -/
def Reaches (takes : Nat) (content : List UInt8) : Feeding → Prop :=
  Relation.ReflTransGen (Step takes) ⟨content, [], [], true⟩

/-- Nothing is lost or put in between, the pipe does not overflow, and only a client that has taken enough has closed. -/
structure Sound (takes : Nat) (content : List UInt8) (f : Feeding) : Prop where
  whole : f.taken ++ f.pipe ++ f.left = content
  bounded : f.pipe.length ≤ World.pipeCapacity
  taken_le : f.taken.length ≤ takes
  closed : f.isOpen = false → f.taken.length = takes

section
variable {takes : Nat} {content : List UInt8} {f f' : Feeding}

theorem Sound.step (hf : f.Sound takes content) (hs : Step takes f f') : f'.Sound takes content := by
  obtain ⟨hwhole, hbounded, htaken, -⟩ := hf
  cases hs with
  | write chunk hroom => exact ⟨by simpa using hwhole, hroom, htaken, nofun⟩
  | take chunk hless => exact ⟨by simpa using hwhole, Nat.le_trans (by simp) hbounded, hless, nofun⟩
  | close henough => exact ⟨hwhole, hbounded, htaken, fun _ => henough⟩

theorem Reaches.sound (hr : Reaches takes content f) : f.Sound takes content := by
  induction hr with
  | refl => exact ⟨rfl, Nat.zero_le _, Nat.zero_le _, nofun⟩
  | tail _ hs ih => exact ih.step hs

/-- As much as a client takes can be written and taken byte by byte. -/
theorem reaches_taken {n : Nat} (hn : n ≤ takes) :
    Reaches takes content ⟨content.drop n, [], content.take n, true⟩ := by
  induction n with
  | zero => exact .refl
  | succ n ih =>
    have hrun := ih (by omega)
    cases hrest : content.drop n with
    | nil =>
      have hle : content.length ≤ n := List.drop_eq_nil_iff.1 hrest
      rw [hrest, List.take_of_length_le hle] at hrun
      rwa [List.take_of_length_le (by omega), List.drop_eq_nil_iff.2 (by omega)]
    | cons b rest =>
      have hnext : content.drop (n + 1) = rest := by rw [← List.drop_drop, hrest]; rfl
      have htake : content.take (n + 1) = content.take n ++ [b] := by
        rw [List.take_add, hrest]
        rfl
      rw [hrest] at hrun
      rw [hnext, htake]
      refine (hrun.tail (.write [b] (by simp [World.pipeCapacity]))).tail (.take [b] ?_)
      simp only [List.length_append, List.length_take, List.length_singleton]
      omega

/-- What a client takes and the pipe holds can be written. -/
theorem exists_reaches_written (hfits : content.length ≤ takes + World.pipeCapacity) :
    ∃ pipe taken, Reaches takes content ⟨[], pipe, taken, true⟩ := by
  have hrun : Reaches takes content _ := reaches_taken (Nat.le_refl takes)
  rw [← List.append_nil (content.drop takes)] at hrun
  refine ⟨_, _, hrun.tail (.write _ ?_)⟩
  simp only [List.nil_append, List.length_drop]
  omega

/-- A client that does not take all of a file can close its input before all is written. -/
theorem exists_reaches_closed (hless : takes < content.length) :
    ∃ left pipe taken, left ≠ [] ∧ Reaches takes content ⟨left, pipe, taken, false⟩ := by
  have hrun : Reaches takes content _ := reaches_taken (Nat.le_refl takes)
  refine ⟨_, _, _, ?_, hrun.tail (.close ?_)⟩
  · rw [ne_eq, List.drop_eq_nil_iff]
    omega
  · rw [List.length_take]
    omega

end

end Feeding

/-- What copying a file comes to, and the bytes that are written to the client: all of them, or some of them before the
client has closed its input. Of a file that cannot be read, none. -/
inductive Copies (takes : Nat) : Except IoError ByteArray → List UInt8 → Except IoError Unit → Prop
  | whole {bytes : ByteArray} {pipe taken : List UInt8} {isOpen : Bool} :
      Feeding.Reaches takes bytes.data.toList ⟨[], pipe, taken, isOpen⟩ → Copies takes (.ok bytes) (taken ++ pipe) (.ok ())
  | closed {bytes : ByteArray} {left pipe taken : List UInt8} {why : IoError} : left ≠ [] →
      Feeding.Reaches takes bytes.data.toList ⟨left, pipe, taken, false⟩ →
      Copies takes (.ok bytes) (taken ++ pipe) (.error why)
  | unreadable {why : IoError} : Copies takes (.error why) [] (.error why)

/-- How a client may end that is fed with the content of a file, when these bytes have been written to it. -/
structure Client.Ends (c : Client) (content : Except IoError ByteArray) (written : List UInt8) (e : ClientEnd) : Prop where
  copied : Copies c.takes content written e.copied
  success : e.success = true ↔ c.status = 0
  stderr : e.stderr = c.stderr

/-- All of a file has been written. -/
def Whole (content : Except IoError ByteArray) (written : List UInt8) : Prop :=
  ∃ bytes, content = .ok bytes ∧ written = bytes.data.toList

section
variable {takes : Nat} {content : Except IoError ByteArray} {written : List UInt8}

theorem Copies.whole_iff {copied : Except IoError Unit} (hc : Copies takes content written copied) :
    Whole content written ↔ copied = .ok () := by
  cases hc with
  | whole hr =>
    refine iff_of_true ⟨_, rfl, ?_⟩ rfl
    simpa using hr.sound.whole
  | closed hleft hr =>
    refine iff_of_false ?_ nofun
    rintro ⟨_, ⟨⟩, hwritten⟩
    refine hleft (List.append_cancel_left (hr.sound.whole.trans ?_))
    rw [List.append_nil, hwritten]
  | unreadable => exact iff_of_false nofun nofun

/-- A client that takes all of a file gets it, and one that takes less than the pipe can make up for does not. -/
theorem Copies.whole_of_le {bytes : ByteArray} {copied : Except IoError Unit}
    (hc : Copies takes (.ok bytes) written copied) :
    (bytes.size ≤ takes → Whole (.ok bytes) written) ∧
      (Whole (.ok bytes) written → bytes.size ≤ takes + World.pipeCapacity) := by
  have hsize : bytes.size = bytes.data.toList.length := by simp
  rw [hc.whole_iff, hsize]
  cases hc with
  | whole hr =>
    have hsound := hr.sound
    have hlength := congrArg List.length hsound.whole
    simp only [List.length_append, List.length_nil] at hlength
    have hbounded := hsound.bounded
    have htaken := hsound.taken_le
    exact ⟨fun _ => rfl, fun _ => by dsimp only at *; omega⟩
  | closed hleft hr =>
    have hsound := hr.sound
    have hlength := congrArg List.length hsound.whole
    have hpos := List.length_pos_iff.2 hleft
    have hclosed := hsound.closed rfl
    simp only [List.length_append] at hlength
    refine ⟨fun hle => ?_, nofun⟩
    dsimp only at *
    omega

end

/-! ## The course of an upload -/

/-- The command that a client is started with. -/
def StreamConfig.clientCommand (config : StreamConfig) (node path : String) (upload : Upload) : List String :=
  config.command ++ config.clientArguments node (StreamConfig.script path upload)

section
variable {σ : Type} (wire : Host Wire σ) (config : StreamConfig) (node path : String) (upload : Upload) (s : σ)

/-- The client is started. -/
def starting : Entry Wire σ := .askedInTime wire (.startClient (config.clientCommand node path upload)) s

/-- Then the file is opened. -/
def sourcing : Entry Wire σ := .askedInTime wire (.openFile upload.localPath) (starting wire config node path upload s).after

/-- Then the client is fed with it. -/
def feeding (file : FileTree.Opened) : Entry Wire σ :=
  .askedInTime wire (.feedClient (config.clientCommand node path upload) file)
    (sourcing wire config node path upload s).after

/-- The client has been started, the file has been opened, and the client has been fed with it and has ended. -/
structure Fed (file : FileTree.Opened) (e : ClientEnd) : Prop where
  command : config.command ≠ []
  started : (starting wire config node path upload s).reply = some (.ok ())
  opened : (sourcing wire config node path upload s).reply = some (.ok file)
  ended : (feeding wire config node path upload s file).reply = some e

/-- The ways through an upload: what it comes to, if it is not cut off, and what it has asked for. -/
inductive Course : Option (Except Fault Unit) → List (Entry Wire σ) → Prop
  | noCommand : config.command = [] → Course (some (.error (.uploadFailed .noClientCommand))) []
  | startCut : config.command ≠ [] → (starting wire config node path upload s).reply = none →
      Course none [starting wire config node path upload s]
  | unstarted {why : IoError} : config.command ≠ [] →
      (starting wire config node path upload s).reply = some (.error why) →
      Course (some (.error (.io why))) [starting wire config node path upload s]
  | openCut : config.command ≠ [] → (starting wire config node path upload s).reply = some (.ok ()) →
      (sourcing wire config node path upload s).reply = none →
      Course none [starting wire config node path upload s, sourcing wire config node path upload s]
  | unopened {why : IoError} : config.command ≠ [] → (starting wire config node path upload s).reply = some (.ok ()) →
      (sourcing wire config node path upload s).reply = some (.error why) →
      Course (some (.error (.io why))) [starting wire config node path upload s, sourcing wire config node path upload s]
  | feedCut {file : FileTree.Opened} : config.command ≠ [] →
      (starting wire config node path upload s).reply = some (.ok ()) →
      (sourcing wire config node path upload s).reply = some (.ok file) →
      (feeding wire config node path upload s file).reply = none →
      Course none [starting wire config node path upload s, sourcing wire config node path upload s,
        feeding wire config node path upload s file]
  | fed {file : FileTree.Opened} {e : ClientEnd} : Fed wire config node path upload s file e →
      Course (some (StreamConfig.verdict node e)) [starting wire config node path upload s,
        sourcing wire config node path upload s, feeding wire config node path upload s file]

end

section
variable {σ : Type} {wire : Host Wire σ} {config : StreamConfig} {node path : String} {upload : Upload} {s : σ}

theorem wp_upload_course (wire : Host Wire σ) (config : StreamConfig) (node path : String) (upload : Upload) (s : σ) :
    (config.upload node path upload).wp wire.logged
    (fun _ t => Course wire config node path upload s (some (.ok ())) t.2)
    (fun f t => Course wire config node path upload s (some (.error f)) t.2)
    (fun t => Course wire config node path upload s none t.2) (s, []) := by
  unfold StreamConfig.upload
  cases hcommand : config.command with
  | nil => exact Task.wp_throw.2 (.noCommand hcommand)
  | cons program leading =>
    have hne : config.command ≠ [] := by simp [hcommand]
    have hclient : config.clientCommand node path upload =
        program :: leading ++ config.clientArguments node (StreamConfig.script path upload) := by
      rw [StreamConfig.clientCommand, hcommand]
    dsimp only
    rw [← hclient]
    refine Task.wp_bind.2 (Task.wp_ofIo.2
      ((Program.wp_request_logged (I := Wire) (r := .startClient _)).2 ⟨fun reply hstart => ?_, ?startCut⟩))
    case startCut => exact Course.startCut hne
    cases reply with
    | error why => exact .unstarted hne hstart
    | ok _ =>
      refine Task.wp_bind.2 (Task.wp_unlessOk.2 (Task.wp_ofIo.2
        ((Program.wp_request_logged (I := Wire) (r := .openFile _)).2 ⟨fun reply hopen => ?_, ?openCut⟩)))
      case openCut => exact Course.openCut hne hstart
      cases reply with
      | error why => exact .unopened hne hstart hopen
      | ok file =>
        refine Task.wp_bind.2 (Task.wp_lift.2 (Program.wp_holding.2
          ((Program.wp_request_logged (I := Wire) (r := .feedClient _ _)).2 ⟨fun e hfed => ?_, ?feedCut⟩)))
        case feedCut => exact Course.feedCut hne hstart hopen
        refine Task.wp_ofExcept.2 ⟨?_, ?_⟩
        · intro _ hv
          exact hv ▸ .fed ⟨hne, hstart, hopen, hfed⟩
        · intro f hv
          exact hv ▸ .fed ⟨hne, hstart, hopen, hfed⟩

/-- An upload takes one of its ways. -/
theorem course_upload : Course wire config node path upload s
    (Program.runInTime wire.logged (config.upload node path upload) (s, [])).1
    (Program.runInTime wire.logged (config.upload node path upload) (s, [])).2.2 := by
  have hw := wp_upload_course wire config node path upload s
  rcases hr : Program.runInTime wire.logged (config.upload node path upload) (s, []) with ⟨_ | f | _, t⟩
  · have hcourse := Task.of_runInTime_none hw (fun _ _ hc => hc) hr
    exact hcourse
  · have hcourse := Task.of_runInTime_error hw hr
    exact hcourse
  · have hcourse := Task.of_runInTime_ok hw hr
    exact hcourse

theorem Course.of_fed {file : FileTree.Opened} {e : ClientEnd} (hf : Fed wire config node path upload s file e)
    {r : Option (Except Fault Unit)} {log : List (Entry Wire σ)} (hc : Course wire config node path upload s r log) :
    r = some (StreamConfig.verdict node e) := by
  obtain ⟨hcommand, hstart, hopen, hend⟩ := hf
  cases hc with
  | noCommand h => exact absurd h hcommand
  | startCut _ h | unstarted _ h =>
    rw [hstart] at h
    cases h
  | openCut _ _ h | unopened _ _ h =>
    rw [hopen] at h
    cases h
  | feedCut _ _ ho h =>
    obtain rfl := Except.ok.inj (Option.some.inj (hopen.symm.trans ho))
    rw [hend] at h
    cases h
  | fed hf =>
    obtain rfl := Except.ok.inj (Option.some.inj (hopen.symm.trans hf.opened))
    rw [Option.some.inj (hend.symm.trans hf.ended)]

theorem Course.fed_of_ok {log : List (Entry Wire σ)} (hc : Course wire config node path upload s (some (.ok ())) log) :
    ∃ file e, Fed wire config node path upload s file e ∧ StreamConfig.verdict node e = .ok () := by
  generalize hr : some (Except.ok ()) = r at hc
  cases hc with
  | fed hf => exact ⟨_, _, hf, (Option.some.inj hr).symm⟩
  | _ => cases hr

end

/-! ## Verdicts -/

section
variable (node : String) {c : Client} {content : Except IoError ByteArray} {written : List UInt8} {e : ClientEnd}

namespace StreamConfig

theorem verdict_of_whole (he : c.Ends content written e) (hs : c.status = 0) (hw : Whole content written) :
    verdict node e = .ok () := by
  simp [verdict, he.success.2 hs, he.copied.whole_iff.1 hw]

/-- What a client complains of comes before what has become of the copy. -/
theorem verdict_of_status (he : c.Ends content written e) (hs : c.status ≠ 0) :
    verdict node e = .error (.uploadFailed (.client node (Text.trimmed (Text.lossy c.stderr)))) := by
  have hsuccess : e.success = false := Bool.eq_false_iff.2 fun h => hs (he.success.1 h)
  simp [verdict, hsuccess, he.stderr]

theorem verdict_of_not_whole (he : c.Ends content written e) (hs : c.status = 0) (hw : ¬ Whole content written) :
    ∃ why, e.copied = .error why ∧ verdict node e = .error (.io why) := by
  cases hcopied : e.copied with
  | ok _ => exact absurd (he.copied.whole_iff.2 hcopied) hw
  | error why => exact ⟨why, rfl, by simp [verdict, he.success.2 hs, hcopied]⟩

theorem verdict_eq_ok_iff {node : String} : verdict node e = .ok () ↔ e.copied = .ok () ∧ e.success = true := by
  unfold verdict
  cases e.success <;> cases e.copied <;> simp

theorem of_verdict_eq_ok {node : String} (he : c.Ends content written e) (hv : verdict node e = .ok ()) :
    c.status = 0 ∧ Whole content written := by
  obtain ⟨hcopied, hsuccess⟩ := verdict_eq_ok_iff.1 hv
  exact ⟨he.success.1 hsuccess, he.copied.whole_iff.2 hcopied⟩

end StreamConfig

end

end Cluster

/-- Whatever program a machine feeds, it ends as some client. -/
theorem World.ends_feed {w : World} {command words : List String} (hw : w.runnable command = .ok words)
    (file : FileTree.Opened) :
    ∃ (c : Cluster.Client) (written : List UInt8), c.Ends file.content written (w.feed command file).1 := by
  unfold World.feed
  rw [hw]
  dsimp only
  generalize Shell.Machine.runCommand World.scriptFuel _ _ = m
  refine ⟨⟨(file.content.toOption.getD .empty).size - m.input.size, m.status, m.errors⟩, ?_⟩
  cases hcontent : file.content with
  | error why => exact ⟨[], .unreadable, by simp, rfl⟩
  | ok bytes =>
    have hsize : bytes.size = bytes.data.toList.length := by simp
    by_cases hfits : bytes.size ≤ bytes.size - m.input.size + World.pipeCapacity
    · obtain ⟨pipe, taken, hr⟩ := Cluster.Feeding.exists_reaches_written (hsize ▸ hfits)
      refine ⟨taken ++ pipe, ?_, by simp, rfl⟩
      simpa [World.copied, hfits, Except.toOption] using Cluster.Copies.whole hr
    · have hless : bytes.size - m.input.size < bytes.data.toList.length := by omega
      obtain ⟨left, pipe, taken, hleft, hr⟩ := Cluster.Feeding.exists_reaches_closed hless
      refine ⟨taken ++ pipe, ?_, by simp, rfl⟩
      simpa [World.copied, hfits, Except.toOption] using Cluster.Copies.closed hleft hr

namespace Cluster

/-- **An upload that succeeds has written the whole file.** Without a client program nothing is started. An upload
succeeds just if the client has been started, the file opened and read, all of it written, and the client has ended with
success. Any other status of the client is reported with the node and what the client complains of, whatever has become
of the copy; behind a success, a copy that has failed is. A client that takes all of a file gets it, and one that takes
less than the pipe makes up for is never taken for one that did. On one machine, every program ends as such a client. -/
theorem success_means_whole {σ : Type} (wire : Host Wire σ) (config : StreamConfig) (node path : String)
    (upload : Upload) (s : σ) :
    let r := Program.runInTime wire.logged (config.upload node path upload) (s, [])
    (config.command = [] → r = (some (.error (.uploadFailed .noClientCommand)), s, [])) ∧
    (r.1 = some (.ok ()) → ∃ file e, Fed wire config node path upload s file e ∧ e.copied = .ok () ∧ e.success = true ∧
      ∀ (c : Client) written, c.Ends file.content written e → c.status = 0 ∧ Whole file.content written) ∧
    (∀ file e (c : Client) written, Fed wire config node path upload s file e → c.Ends file.content written e →
      (c.status = 0 → Whole file.content written → r.1 = some (.ok ())) ∧
      (c.status ≠ 0 → ∃ text : String, Text.TrimsTo Text.isBlank (Text.lossy c.stderr).toList text.toList ∧
        r.1 = some (.error (.uploadFailed (.client node text)))) ∧
      (c.status = 0 → ¬ Whole file.content written → ∃ why, e.copied = .error why ∧ r.1 = some (.error (.io why))) ∧
      ∀ bytes, file.content = .ok bytes → (bytes.size ≤ c.takes → Whole file.content written) ∧
        (c.takes + World.pipeCapacity < bytes.size → r.1 ≠ some (.ok ()))) ∧
    (∀ text, (Fault.uploadFailed (.client node text)).message =
      "upload failed: ssh upload to node " ++ node ++ " failed: " ++ text) ∧
    ∀ (w : World) (command words : List String), w.runnable command = .ok words → ∀ file,
      ∃ (c : Client) (written : List UInt8), c.Ends file.content written (w.feed command file).1 := by
  intro r
  have hcourse : Course wire config node path upload s r.1 r.2.2 := course_upload
  refine ⟨fun hnone => ?_, fun hok => ?_, fun file e c written hf he => ⟨fun hs hw => ?_, fun hs => ?_, fun hs hw => ?_,
    fun bytes hbytes => ⟨fun hle => ?_, fun hless hok => ?_⟩⟩, fun text => rfl, fun w command words hw => World.ends_feed hw⟩
  · simp only [r, StreamConfig.upload, hnone]
    rfl
  · rw [hok] at hcourse
    obtain ⟨file, e, hf, hv⟩ := hcourse.fed_of_ok
    obtain ⟨hcopied, hsuccess⟩ := StreamConfig.verdict_eq_ok_iff.1 hv
    exact ⟨file, e, hf, hcopied, hsuccess, fun c written he => StreamConfig.of_verdict_eq_ok he hv⟩
  · rw [hcourse.of_fed hf, StreamConfig.verdict_of_whole node he hs hw]
  · refine ⟨Text.trimmed (Text.lossy c.stderr), Text.trim_eq_iff.1 (by simp [Text.trimmed]), ?_⟩
    rw [hcourse.of_fed hf, StreamConfig.verdict_of_status node he hs]
  · obtain ⟨why, hcopied, hv⟩ := StreamConfig.verdict_of_not_whole node he hs hw
    exact ⟨why, hcopied, by rw [hcourse.of_fed hf, hv]⟩
  · have hcopied := he.copied
    rw [hbytes] at hcopied ⊢
    exact hcopied.whole_of_le.1 hle
  · rw [hcourse.of_fed hf] at hok
    have hwhole := (StreamConfig.of_verdict_eq_ok he (Option.some.inj hok)).2
    have hcopied := he.copied
    rw [hbytes] at hcopied hwhole
    have hle := hcopied.whole_of_le.2 hwhole
    omega

/-- A wire whose client takes nothing of the file that it is fed with, and complains. -/
def refusing : Host Wire Unit where
  answer
    | .exchange _, s => (none, s)
    | .openFile _, s => (.ok ⟨.ok "image".toUTF8⟩, s)
    | .pause, s => ((), s)
    | .startClient _, s => (.ok (), s)
    | .feedClient _ _, s => (⟨.error .brokenPipe, false, "Permission denied\n".toUTF8⟩, s)
  answerInTime
    | .exchange _, s => (none, s)
    | .openFile _, s => (some (.ok ⟨.ok "image".toUTF8⟩), s)
    | .pause, s => (some (), s)
    | .startClient _, s => (some (.ok ()), s)
    | .feedClient _ _, s => (some ⟨.error .brokenPipe, false, "Permission denied\n".toUTF8⟩, s)
  act _ s := s
  setLimit _ s := s

/-- The complaint is what is reported, although the copy has failed, too. -/
theorem success_means_whole_refusing :
    (Program.runInTime refusing.logged (StreamConfig.default.upload "pve" "/store" ⟨"images", "disk.raw", "disk.raw", none⟩)
      ((), [])).1 = some (.error (.uploadFailed (.client "pve" "Permission denied"))) := by
  have hfed : Fed refusing .default "pve" "/store" ⟨"images", "disk.raw", "disk.raw", none⟩ () ⟨.ok "image".toUTF8⟩
      ⟨.error .brokenPipe, false, "Permission denied\n".toUTF8⟩ :=
    ⟨by decide, rfl, rfl, rfl⟩
  have hless : 0 < "image".toUTF8.data.toList.length := by decide
  obtain ⟨left, pipe, taken, hleft, hr⟩ := Feeding.exists_reaches_closed hless
  have hends : Client.Ends ⟨0, 255, "Permission denied\n".toUTF8⟩ (.ok "image".toUTF8) (taken ++ pipe)
      ⟨.error .brokenPipe, false, "Permission denied\n".toUTF8⟩ :=
    ⟨.closed hleft hr, by simp, rfl⟩
  obtain ⟨-, -, hall, -⟩ := success_means_whole refusing .default "pve" "/store"
    ⟨"images", "disk.raw", "disk.raw", none⟩ ()
  obtain ⟨text, htext, hresult⟩ := (hall _ _ _ _ hfed hends).2.1 (by decide)
  have htrim : Text.trim (Text.lossy "Permission denied\n".toUTF8).toList = "Permission denied".toList := by
    decide +kernel
  obtain rfl : text = "Permission denied" := String.toList_inj.1 ((Text.trim_eq_iff.2 htext).symm.trans htrim)
  exact hresult

end Cluster

end FilePlacement
