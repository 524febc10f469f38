import FilePlacement.Proofs.Course

/-!
# Local files while an artifact is made

Hosts that keep local files (`KeepsFiles`): a file reads as it has been written, and nobody else writes
it. The parts of resolving a source are followed by what they make of three things: the contents of the
files, the responses that downloads have ended with, and the temporary files that have been made
(`Ready`). A file that has been verified has the digest that is stated for it (`gives_verify`), and one that
has been downloaded holds the body of a sound response (`gives_download`).
-/

namespace FilePlacement

open Reconciler

variable {σ : Type}

/-- What reading each path name gives. -/
abbrev Files := String → Except IoError ByteArray

/-- What a call may answer, and what it makes of the files. Of the files that are not written to,
nothing is said while directories are made or files written. -/
def FilesConform (before after : Files) : (c : Call) → Option c.Reply → Prop
  | .here (.contents path), some reply => reply = before path ∧ after = before
  | .here (.makeTemporary ..), some (.ok path) => after path = .ok .empty
  | .here (.append path bytes), some (.ok _) => ∀ old, before path = .ok old → after path = .ok (old ++ bytes)
  | .here (.makeDirectories _), _ | .here (.makeTemporary ..), _ | .here (.append ..), _ => True
  | _, _ => after = before

/-- A host with files that nobody else writes to. -/
structure KeepsFiles (h : Host Reconciling σ) (files : σ → Files) : Prop where
  conforms : ∀ e : Entry Reconciling σ, e.Genuine h → FilesConform (files e.before) (files e.after) e.call e.answer
  setLimit : ∀ l s, files (h.setLimit l s) = files s

/-! ## Downloads and temporary files of a log -/

/-- The request that follows a response, if the response is a redirect that can be followed. -/
def hop (request : Http.Request) (response : Http.Response) : Option Http.Request :=
  (response.location? request.url).bind fun url => request.redirected response.status url

namespace Call

/-- The response of a `GET` that is not followed any further. -/
def finalGet? : (c : Call) → Option c.Reply → Option Http.Response
  | .here (.exchange request), some (some response) =>
    if request.method = .get ∧ (hop request response).isNone then some response else none
  | _, _ => none

/-- A temporary file that has been made: its directory, its stem and its path name. -/
def temporary? : (c : Call) → Option c.Reply → Option (String × String × String)
  | .here (.makeTemporary dir stem), some (.ok path) => some (dir, stem, path)
  | _, _ => none

end Call

/-- The responses that downloads have ended with. -/
def downloads (log : List (Entry Reconciling σ)) : List Http.Response :=
  log.filterMap fun e => e.call.finalGet? e.answer

/-- The temporary files that have been made. -/
def temporaries (log : List (Entry Reconciling σ)) : List (String × String × String) :=
  log.filterMap fun e => e.call.temporary? e.answer

/-- Where the files, the downloads and the temporary files have got to. -/
structure Ready (files : σ → Files) (F : Files → Prop) (answers : List Http.Response)
    (made : List (String × String × String)) (t : σ × List (Entry Reconciling σ)) : Prop where
  files : F (files t.1)
  downloads : downloads t.2 = answers
  temporaries : temporaries t.2 = made

section
variable {h : Host Reconciling σ} {files : σ → Files} {F : Files → Prop} {answers : List Http.Response}
  {made : List (String × String × String)} {t t' : σ × List (Entry Reconciling σ)}

/-- What one request within the limit does. -/
theorem KeepsFiles.step (hf : KeepsFiles h files) {c : Call} {reply : Option c.Reply}
    (ht : h.logged.answerInTime c t = (reply, t')) :
    FilesConform (files t.1) (files t'.1) c reply ∧
      downloads t'.2 = downloads t.2 ++ (c.finalGet? reply).toList ∧
      temporaries t'.2 = temporaries t.2 ++ (c.temporary? reply).toList := by
  obtain ⟨rfl, rfl⟩ := Prod.mk.inj ht
  have hone : ∀ {β : Type} (f : Entry Reconciling σ → Option β) (e : Entry Reconciling σ),
      (t.2 ++ [e]).filterMap f = t.2.filterMap f ++ (f e).toList := by
    intro β f e
    rw [List.filterMap_append]
    cases he : f e <;> simp [he]
  exact ⟨hf.conforms _ (Entry.genuine_askedInTime h c t.1), hone _ (Entry.askedInTime h c t.1),
    hone _ (Entry.askedInTime h c t.1)⟩

theorem Ready.of_step (hf : KeepsFiles h files) (hr : Ready files F answers made t) {c : Call} {reply : Option c.Reply}
    (ht : h.logged.answerInTime c t = (reply, t')) {F' : Files → Prop} (hF : F' (files t'.1))
    {answers' : List Http.Response} (ha : answers' = answers ++ (c.finalGet? reply).toList)
    {made' : List (String × String × String)} (hm : made' = made ++ (c.temporary? reply).toList) :
    Ready files F' answers' made' t' := by
  obtain ⟨-, hd, htemp⟩ := hf.step ht
  rw [hr.downloads, ← ha] at hd
  rw [hr.temporaries, ← hm] at htemp
  exact ⟨hF, hd, htemp⟩

/-- A request that leaves the files alone, downloads nothing and makes nothing temporary. -/
def Call.LeavesFiles : Call → Prop
  | .backend _ => True
  | .here (.contents _) => True
  | _ => False

theorem Ready.step (hf : KeepsFiles h files) (hr : Ready files F answers made t) {c : Call} (hc : c.LeavesFiles)
    {reply : Option c.Reply} (ht : h.logged.answerInTime c t = (reply, t')) :
    files t'.1 = files t.1 ∧ Ready files F answers made t' := by
  have hconf := (hf.step ht).1
  have hkeep : files t'.1 = files t.1 ∧ c.finalGet? reply = none ∧ c.temporary? reply = none := by
    cases c with
    | backend call => exact ⟨by cases call <;> exact hconf, rfl, rfl⟩
    | here call =>
      cases call with
      | contents path =>
        cases reply with
        | none => exact ⟨hconf, rfl, rfl⟩
        | some r => exact ⟨hconf.2, rfl, rfl⟩
      | _ => exact hc.elim
  obtain ⟨hkeep, hfinal, htemp⟩ := hkeep
  refine ⟨hkeep, hr.of_step hf ht (hkeep ▸ hr.files) ?_ ?_⟩
  · rw [hfinal]
    exact (List.append_nil answers).symm
  · rw [htemp]
    exact (List.append_nil made).symm

/-! ## Local requests -/

theorem gives_contents (hf : KeepsFiles h files) (path : String) (hr : Ready files F answers made t) :
    (Reconciling.contents path).Gives h.logged
      (fun bytes t => Ready files F answers made t ∧ files t.1 path = .ok bytes) t := by
  refine Task.wp_ofIo.2 ((Reconciling.wp_localRequest (.contents path)).2 ⟨fun r t' ht => ?_, fun _ _ => trivial⟩)
  obtain ⟨hkeep, hready⟩ := hr.step hf (c := .here (.contents path)) trivial ht
  have hread := (hf.step ht).1.1
  cases r with
  | error e => trivial
  | ok bytes => exact ⟨hready, (congrFun hkeep path).trans hread.symm⟩

theorem gives_append (hf : KeepsFiles h files) (path : String) (bytes : ByteArray) {old : ByteArray}
    (hr : Ready files (fun c => c path = .ok old) answers made t) :
    (Reconciling.append path bytes).Gives h.logged
      (fun _ t => Ready files (fun c => c path = .ok (old ++ bytes)) answers made t) t := by
  refine Task.wp_ofIo.2 ((Reconciling.wp_localRequest (.append path bytes)).2 ⟨fun r t' ht => ?_, fun _ _ => trivial⟩)
  have hconf := (hf.step ht).1
  cases r with
  | error e => trivial
  | ok u =>
    exact hr.of_step hf ht (hconf old hr.files) (List.append_nil answers).symm (List.append_nil made).symm

theorem gives_makeDirectories (hf : KeepsFiles h files) (path : String) (hr : Ready files F answers made t) :
    (Reconciling.makeDirectories path).Gives h.logged (fun _ t => Ready files (fun _ => True) answers made t) t := by
  refine Task.wp_ofIo.2 ((Reconciling.wp_localRequest (.makeDirectories path)).2
    ⟨fun r t' ht => ?_, fun _ _ => trivial⟩)
  cases r with
  | error e => trivial
  | ok u => exact hr.of_step hf ht trivial (List.append_nil answers).symm (List.append_nil made).symm

theorem gives_makeTemporary (hf : KeepsFiles h files) (dir stem : String) (hr : Ready files F answers made t) :
    (Reconciling.makeTemporary dir stem).Gives h.logged
      (fun path t => Ready files (fun c => c path = .ok .empty) answers (made ++ [(dir, stem, path)]) t) t := by
  refine Task.wp_ofIo.2 ((Reconciling.wp_localRequest (.makeTemporary dir stem)).2
    ⟨fun r t' ht => ?_, fun _ _ => trivial⟩)
  have hempty := (hf.step ht).1
  cases r with
  | error e => trivial
  | ok path => exact hr.of_step hf ht hempty (List.append_nil answers).symm rfl

/-! ## Checksums -/

/-- A file has the digest that is stated for it, if one is. -/
def Verified (c : Files) (path : String) (checksum : Option String) : Prop :=
  ∀ expected, stated checksum = some expected →
    ∃ bytes, c path = .ok bytes ∧ Artifact.sameDigits (Digest.sha256 bytes) expected = true

theorem gives_verify (hf : KeepsFiles h files) (path : String) (checksum : Option String)
    (hr : Ready files F answers made t) :
    (Artifact.verify path checksum).Gives h.logged
      (fun _ t => Ready files (fun c => F c ∧ Verified c path checksum) answers made t) t := by
  unfold Artifact.verify
  cases hs : stated checksum with
  | none =>
    have hverified : Verified (files t.1) path checksum := fun expected he => by rw [hs] at he; cases he
    exact Task.gives_pure ⟨⟨hr.files, hverified⟩, hr.downloads, hr.temporaries⟩
  | some expected =>
    refine (gives_contents hf path hr).bind fun bytes t' ⟨hready, hread⟩ => ?_
    dsimp only
    cases hsame : Artifact.sameDigits (Digest.sha256 bytes) expected with
    | false => exact Task.gives_throw
    | true =>
      have hverified : Verified (files t'.1) path checksum := by
        intro x hx
        cases hs.symm.trans hx
        exact ⟨bytes, hread, hsame⟩
      exact Task.gives_pure ⟨⟨hready.files, hverified⟩, hready.downloads, hready.temporaries⟩

/-! ## Writing files -/

theorem gives_appendAll (hf : KeepsFiles h files) (path : String) (pieces : List ByteArray) {old : ByteArray}
    (hr : Ready files (fun c => c path = .ok old) answers made t) :
    (Artifact.appendAll path pieces).Gives h.logged
      (fun _ t => Ready files (fun c => c path = .ok (pieces.foldl (· ++ ·) old)) answers made t) t := by
  induction pieces generalizing old t with
  | nil => exact hr
  | cons piece rest ih => exact (gives_append hf path piece hr).bind fun _ t' hready => ih hready

/-- A file is made, empty at first, and filled. -/
theorem gives_filled (hf : KeepsFiles h files) (tmpDir stem : String) {fill : String → Task Reconciling Unit}
    {P : String → σ × List (Entry Reconciling σ) → Prop} (hr : Ready files F answers [] t)
    (hfill : ∀ path t', Ready files (fun c => c path = .ok .empty) answers [(tmpDir, stem, path)] t' →
      (fill path).Gives h.logged (fun _ t => P path t) t') :
    (Artifact.makeTemporary tmpDir stem fill).Gives h.logged P t := by
  unfold Artifact.makeTemporary
  refine (gives_makeDirectories hf tmpDir hr).bind fun _ t' hready => ?_
  refine (gives_makeTemporary hf tmpDir stem hready).bind fun path t'' hempty => ?_
  exact ((hfill path t'' hempty).unlessOk _).bind fun _ u hu => hu

/-! ## Downloading -/

/-- A response whose bytes can be used: no error by its status, and come to its end. -/
def Sound (response : Http.Response) : Prop :=
  response.status.isClientError = false ∧ response.status.isServerError = false ∧ response.body.complete = true

theorem Ready.exchange (hf : KeepsFiles h files) (hr : Ready files F [] made t) {request : Http.Request}
    (hm : request.method = .get) {response : Http.Response}
    (ht : h.logged.answerInTime (Call.here (.exchange request)) t = (some (some response), t')) :
    Ready files F (if (hop request response).isNone then [response] else []) made t' := by
  have hkeep : files t'.1 = files t.1 := (hf.step ht).1
  refine hr.of_step hf ht (hkeep ▸ hr.files) ?_ (List.append_nil made).symm
  simp only [Call.finalGet?, hm, true_and]
  split <;> rfl

theorem wp_follow (hf : KeepsFiles h files) (left : Nat) (request : Http.Request) (hm : request.method = .get)
    (hr : Ready files F [] made t) :
    (Http.follow Reconciling.exchange left request).wp h.logged
      (fun r t => ∀ url response, r = .ok (url, response) → Ready files F [response] made t) (fun _ => True) t := by
  induction left generalizing request t with
  | zero =>
    unfold Http.follow
    refine Program.wp_bind.2 ((Reconciling.wp_localRequest (.exchange request)).2
      ⟨fun r t' ht => ?_, fun _ _ => trivial⟩)
    cases r with
    | none => rintro url last ⟨⟩
    | some response =>
      have hready := hr.exchange hf hm ht
      dsimp only
      split
      · rename_i hnone
        rw [show hop request response = none from hnone] at hready
        rintro url last ⟨⟩
        exact hready
      · rintro url last ⟨⟩
  | succ left ih =>
    unfold Http.follow
    refine Program.wp_bind.2 ((Reconciling.wp_localRequest (.exchange request)).2
      ⟨fun r t' ht => ?_, fun _ _ => trivial⟩)
    cases r with
    | none => rintro url last ⟨⟩
    | some response =>
      have hready := hr.exchange hf hm ht
      dsimp only
      split
      · rename_i hnone
        rw [show hop request response = none from hnone] at hready
        rintro url last ⟨⟩
        exact hready
      · rename_i next hsome
        rw [show hop request response = some next from hsome] at hready
        obtain ⟨url, -, hnext⟩ := Option.bind_eq_some_iff.1 hsome
        exact ih next ((method_redirected (Or.inl hm) hnext).trans hm) hready

theorem wp_fetch (hf : KeepsFiles h files) (tls : Http.TlsPolicy) (location : String)
    (hr : Ready files F [] made t) :
    (Http.fetch Reconciling.exchange .get tls location).wp h.logged
      (fun r t => ∀ response, r = .ok response → response.status.isClientError = false ∧
        response.status.isServerError = false ∧ Ready files F [response] made t) (fun _ => True) t := by
  unfold Http.fetch
  split
  · rintro response ⟨⟩
  · rename_i url _
    have hsend : (Http.send Reconciling.exchange ⟨.get, url, tls, none, none⟩).wp h.logged
        (fun r t => ∀ url response, r = .ok (url, response) → Ready files F [response] made t) (fun _ => True) t := by
      unfold Http.send
      split
      · rintro url last ⟨⟩
      · dsimp only
        split
        · rintro url last ⟨⟩
        · exact wp_follow hf _ _ (method_withCredentials _) hr
    refine Program.wp_bind.2 (Program.wp_mono hsend (fun r t hr => ?_) fun _ _ => trivial)
    split
    · rintro response ⟨⟩
    · rename_i last response
      split
      · rintro response ⟨⟩
      · rename_i hstatus
        rintro response ⟨⟩
        simp only [Bool.or_eq_true, not_or, Bool.not_eq_true] at hstatus
        exact ⟨hstatus.1, hstatus.2, hr last response rfl⟩

/-- A download is a temporary file with the bytes of a sound response. -/
theorem gives_download (hf : KeepsFiles h files) (tls : Http.TlsPolicy) (url tmpDir : String)
    (hr : Ready files F [] [] t) :
    (Artifact.download tls url tmpDir).Gives h.logged
      (fun path t => ∃ response, Sound response ∧
        Ready files (fun c => c path = .ok response.body.bytes) [response] [(tmpDir, "download", path)] t) t := by
  unfold Artifact.download
  refine (Task.gives_lift (wp_fetch hf tls url hr)).bind fun r t' hfetched => ?_
  split
  · exact Task.gives_throw
  · rename_i response
    obtain ⟨hclient, hserver, hready⟩ := hfetched response rfl
    refine gives_filled hf tmpDir "download" hready fun path t'' hempty => ?_
    refine (gives_appendAll hf path response.body.chunks hempty).bind fun _ u hfilled => ?_
    split
    · rename_i hcomplete
      exact Task.gives_pure ⟨response, ⟨hclient, hserver, hcomplete⟩, hfilled⟩
    · exact Task.gives_throw

end

end FilePlacement
