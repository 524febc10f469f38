import FilePlacement.Proofs.ClusterFiles
import FilePlacement.Proofs.Numerals
import FilePlacement.Proofs.Ownership
import FilePlacement.Proofs.TreeChanges
import FilePlacement.Proofs.UploadedBytes

/-!
# Temporary files and how they stay

On a host that keeps a file tree (`KeepsTree`), the regular files after creating are those from before, and so
they are after an artifact has been got and let go of, however either ends, if each request for a temporary file has
been answered (`files_untouched`). Outside the directory of temporary files nothing but the backend changes a file,
not even for a while.

There is one way for a temporary file to stay. It belongs to somebody once the request for it has been answered, but
work on files goes on when nobody waits for it any more. If the limit is reached while a temporary file is being made,
the file comes and is nobody's (`files_left_behind`). Such a request is the last one of its run, and but for what it
makes the files are those from before.

`Books` is the invariant of a run whose requests for temporary files have all been answered: each path name that is
owned leads to a location in the directory of temporary files where there was no file at first, and the files
elsewhere are those from before. `Ended` says where a run can end.
-/

namespace FilePlacement

open Reconciler

variable {σ : Type}

namespace Call

def isBackend : Call → Bool
  | .backend _ => true
  | .here _ => false

/-- The path name of the file that is written to. -/
def appendsTo? : Call → Option String
  | .here (.append path _) => some path
  | _ => none

/-- The directory and the stem of a temporary file that has been asked for and was not given in time. -/
def unanswered? : (c : Call) → Option c.Reply → Option (String × String)
  | .here (.makeTemporary dir stem), none => some (dir, stem)
  | _, _ => none

theorem mem_made {c : Call} {reply : Option c.Reply} {path : String} :
    path ∈ c.made reply ↔ ∃ dir stem, c.temporary? reply = some (dir, stem, path) := by
  unfold made
  cases c.temporary? reply with
  | none => simp
  | some d =>
    obtain ⟨dir, stem, p⟩ := d
    simp [eq_comm]

variable {tmpDir : String} {writable : List String} {c : Call}

theorem Permitted.appendsTo (hc : c.Permitted tmpDir writable) {path : String} (hp : c.appendsTo? = some path) :
    path ∈ writable := by
  unfold appendsTo? at hp
  split at hp
  · exact Option.some.inj hp ▸ hc
  · cases hp

theorem Permitted.temporary (hc : c.Permitted tmpDir writable) {reply : Option c.Reply} {dir stem path : String}
    (hd : c.temporary? reply = some (dir, stem, path)) : dir = tmpDir ∧ '/' ∉ stem.toList := by
  unfold temporary? at hd
  split at hd
  · cases hd
    exact ⟨hc.1, hc.2.1⟩
  · cases hd

/-- A temporary file is asked for by whoever has no other. -/
theorem Permitted.unanswered (hc : c.Permitted tmpDir writable) {reply : Option c.Reply} {dir stem : String}
    (hd : c.unanswered? reply = some (dir, stem)) : dir = tmpDir ∧ '/' ∉ stem.toList ∧ writable = [] := by
  unfold unanswered? at hd
  split at hd
  · cases hd
    exact hc
  · cases hd

theorem unanswered?_some (c : Call) (reply : c.Reply) : c.unanswered? (some reply) = none := by
  cases c with
  | backend call => rfl
  | here call => cases call <;> rfl

theorem IsPlain.unanswered (hc : c.IsPlain) (reply : Option c.Reply) : c.unanswered? reply = none := by
  unfold unanswered?
  split
  · exact hc.elim
  · rfl

end Call

/-- Directly in a directory. -/
def FileTree.IsIn (t : FileTree) (dir : String) (loc : Location) : Prop := ∃ name, loc = t.goal dir ++ [name]

/-- The locations of the files that a call may change: a new temporary file is made where its path name leads to,
appending changes the file there, and a backend may change any file. A temporary file that was not given in time may
be made all the same, somewhere in its directory. -/
def Call.Writes (before : FileTree) (c : Call) (reply : Option c.Reply) (loc : Location) : Prop :=
  c.isBackend = true ∨ (∃ path, c.appendsTo? = some path ∧ before.locate path = .ok loc) ∨
    (∃ path ∈ c.made reply, before.goal path = loc) ∨
      ∃ dir stem, c.unanswered? reply = some (dir, stem) ∧ ('/' ∉ stem.toList → before.IsIn dir loc)

/-- A host with a tree of local files, of which nothing takes a directory away, so that path names keep leading
to where they led. What is discarded is gone where its path name leads to, and a new temporary file lies in the
directory that it was made in. -/
structure KeepsTree (h : Host Reconciling σ) (tree : σ → FileTree) : Prop where
  changes : ∀ e : Entry Reconciling σ, e.Genuine h →
    (tree e.before).Changes (tree e.after) (e.call.Writes (tree e.before) e.answer)
  makes : ∀ (e : Entry Reconciling σ) (dir stem path : String), e.Genuine h →
    e.call.temporary? e.answer = some (dir, stem, path) → '/' ∉ stem.toList →
      (tree e.after).locate path = .ok ((tree e.before).goal path) ∧
        (tree e.before).IsIn dir ((tree e.before).goal path)
  discard : ∀ path s, (tree s).Changes (tree (h.act (LocalDeed.discard path) s)) ((tree s).locate path = .ok ·)
  removes : ∀ path s loc, (tree s).locate path = .ok loc →
    (tree (h.act (LocalDeed.discard path) s)).file? loc = none
  setLimit : ∀ l s, tree (h.setLimit l s) = tree s

/-- A request leaves a location to others: the backend does not change the file there, and no temporary file
takes its place. -/
def Entry.Spares (tree : σ → FileTree) (loc : Location) (e : Entry Reconciling σ) : Prop :=
  (e.call.isBackend = true → (tree e.after).file? loc = (tree e.before).file? loc) ∧
    ∀ path ∈ e.call.made e.answer, (tree e.before).goal path = loc → (tree e.before).file? loc = none

/-- A request for a temporary file that is cut off. What it makes all the same, nobody owns. -/
def Entry.abandons (e : Entry Reconciling σ) : Bool := (e.call.unanswered? e.answer).isSome

theorem Entry.abandons_of_answer {e : Entry Reconciling σ} (ha : e.answer.isSome = true) : e.abandons = false := by
  obtain ⟨reply, hreply⟩ := Option.isSome_iff_exists.1 ha
  unfold Entry.abandons
  rw [hreply, Call.unanswered?_some]
  rfl

/-- Where a run has got to that began at `s` and owns `held` now, all its temporary files having been given to it. -/
structure Books (h : Host Reconciling σ) (tree : σ → FileTree) (tmpDir : String) (s : σ) (held : List String)
    (t : σ × List (Entry Reconciling σ)) : Prop where
  goal : ∀ path, (tree t.1).goal path = (tree s).goal path
  leads : ∀ path ∈ held, (tree t.1).locate path = .ok ((tree s).goal path) ∧
    (tree s).IsIn tmpDir ((tree s).goal path)
  /-- A file that differs from the one at first is one that is owned. -/
  files : ∀ loc, (∀ e ∈ t.2, e.Spares tree loc) →
    (∀ path ∈ held, (tree s).goal path = loc → (tree s).file? loc = none) ∧
      ((tree t.1).file? loc = (tree s).file? loc ∨ ∃ path ∈ held, (tree s).goal path = loc)
  outside : ∀ loc, ¬ (tree s).IsIn tmpDir loc → Linked h (fun s => (tree s).file? loc) s t.2 t.1 ∧
    ∀ e ∈ t.2, e.call.isBackend = false → (tree e.after).file? loc = (tree e.before).file? loc
  answered : ∀ e ∈ t.2, e.abandons = false

/-- Where a run can end that began at `s` and owns `held`: with its books, or cut off while a temporary file is being
made for it, which it owns nothing besides. -/
inductive Ended (h : Host Reconciling σ) (tree : σ → FileTree) (tmpDir : String) (s : σ) :
    List String → σ × List (Entry Reconciling σ) → Prop
  | balanced {held t} (hb : Books h tree tmpDir s held t) : Ended h tree tmpDir s held t
  | abandoned {t e} (hb : Books h tree tmpDir s [] t) (hg : e.Genuine h) (he : e.before = t.1)
      (hc : e.call.Permitted tmpDir []) (ha : e.abandons = true) : Ended h tree tmpDir s [] (e.after, t.2 ++ [e])

section
variable {h : Host Reconciling σ} {tree : σ → FileTree} {tmpDir : String} {s u : σ} {held : List String}
  {t : σ × List (Entry Reconciling σ)}

theorem books_start (hu : tree u = tree s) : Books h tree tmpDir s [] (u, []) where
  goal path := by rw [hu]
  leads _ hp := absurd hp List.not_mem_nil
  files loc _ := ⟨fun _ hp => absurd hp List.not_mem_nil, .inl (by rw [hu])⟩
  outside loc _ := ⟨congrArg (FileTree.file? · loc) hu.symm, fun _ he => absurd he List.not_mem_nil⟩
  answered _ he := absurd he List.not_mem_nil

/-- Where an owned path name leads to, it leads to there only. -/
theorem Books.goal_of_locate (hb : Books h tree tmpDir s held t) {path : String} (hp : path ∈ held) {loc : Location}
    (hl : (tree t.1).locate path = .ok loc) : (tree s).goal path = loc :=
  Except.ok.inj ((hb.leads path hp).1.symm.trans hl)

section
variable (hk : KeepsTree h tree) (hb : Books h tree tmpDir s held t) {e : Entry Reconciling σ} (hg : e.Genuine h)
  (he : e.before = t.1) (hc : e.call.Permitted tmpDir held)

include hb he in
theorem Books.goal_before (path : String) : (tree e.before).goal path = (tree s).goal path := by
  rw [he]
  exact hb.goal path

include hk hb hg he hc in
/-- A new temporary file. -/
theorem Books.leads_made {path : String} (hpath : path ∈ e.call.made e.answer) :
    (tree e.after).locate path = .ok ((tree s).goal path) ∧ (tree s).IsIn tmpDir ((tree s).goal path) := by
  obtain ⟨dir, stem, hd⟩ := Call.mem_made.1 hpath
  obtain ⟨rfl, hstem⟩ := hc.temporary hd
  obtain ⟨hl, name, hname⟩ := hk.makes e dir stem path hg hd hstem
  rw [hb.goal_before he] at hl
  rw [hb.goal_before he, hb.goal_before he] at hname
  exact ⟨hl, name, hname⟩

include hb he hc in
/-- A local request writes to what is owned, or makes it, or is cut off making it. -/
theorem Books.writes {loc : Location} (hwrites : e.call.Writes (tree e.before) e.answer loc) :
    e.call.isBackend = true ∨ (∃ path ∈ held ++ e.call.made e.answer, (tree s).goal path = loc) ∨
      e.abandons = true ∧ (tree s).IsIn tmpDir loc := by
  rcases hwrites with hback | ⟨path, hp, hl⟩ | ⟨path, hp, hat⟩ | ⟨dir, stem, hd, hin⟩
  · exact .inl hback
  · have hheld := hc.appendsTo hp
    rw [he] at hl
    exact .inr (.inl ⟨path, List.mem_append_left _ hheld, hb.goal_of_locate hheld hl⟩)
  · exact .inr (.inl ⟨path, List.mem_append_right _ hp, (hb.goal_before he path).symm.trans hat⟩)
  · obtain ⟨rfl, hstem, -⟩ := hc.unanswered hd
    obtain ⟨name, hname⟩ := hin hstem
    rw [hb.goal_before he] at hname
    exact .inr (.inr ⟨Option.isSome_iff_exists.2 ⟨_, hd⟩, name, hname⟩)

include hk hb hg he hc in
theorem Books.leads_request {path : String} (hpath : path ∈ held ++ e.call.made e.answer) :
    (tree e.after).locate path = .ok ((tree s).goal path) ∧ (tree s).IsIn tmpDir ((tree s).goal path) := by
  rcases List.mem_append.1 hpath with hpath | hpath
  · obtain ⟨hl, hin⟩ := hb.leads path hpath
    rw [← he] at hl
    exact ⟨(hk.changes e hg).locate hl, hin⟩
  · exact hb.leads_made hk hg he hc hpath

include hk hb hg he hc in
theorem Books.files_request (ha : e.abandons = false) {loc : Location} (hspares : ∀ x ∈ t.2 ++ [e], x.Spares tree loc) :
    (∀ path ∈ held ++ e.call.made e.answer, (tree s).goal path = loc → (tree s).file? loc = none) ∧
      ((tree e.after).file? loc = (tree s).file? loc ∨
        ∃ path ∈ held ++ e.call.made e.answer, (tree s).goal path = loc) := by
  obtain ⟨hnone, hfile⟩ := hb.files loc fun x hx => hspares x (List.mem_append_left _ hx)
  obtain ⟨hbackend, hfresh⟩ := hspares e (List.mem_append_right _ (List.mem_singleton_self e))
  rw [← he] at hfile
  have hkept : (tree e.after).file? loc = (tree e.before).file? loc →
      ((tree e.after).file? loc = (tree s).file? loc ∨
        ∃ path ∈ held ++ e.call.made e.answer, (tree s).goal path = loc) := fun hsame =>
    hfile.imp hsame.trans fun ⟨path, hp, hat⟩ => ⟨path, List.mem_append_left _ hp, hat⟩
  refine ⟨fun path hpath hat => ?_, ?_⟩
  · rcases List.mem_append.1 hpath with hpath | hpath
    · exact hnone path hpath hat
    · -- The name is new, so that there was a file at first only if there is one owned by that name.
      rcases hfile with hsame | ⟨other, hother, hat'⟩
      · exact hsame.symm.trans (hfresh path hpath ((hb.goal_before he path).trans hat))
      · exact hnone other hother hat'
  · by_cases hwrites : e.call.Writes (tree e.before) e.answer loc
    · rcases hb.writes he hc hwrites with hback | howned | ⟨hcut, -⟩
      · exact hkept (hbackend hback)
      · exact .inr howned
      · exact absurd (ha.symm.trans hcut) Bool.false_ne_true
    · exact hkept ((hk.changes e hg).files loc hwrites)

include hk hb hg he hc in
theorem Books.outside_request {loc : Location} (hloc : ¬ (tree s).IsIn tmpDir loc) :
    Linked h (fun s => (tree s).file? loc) s (t.2 ++ [e]) e.after ∧
      ∀ x ∈ t.2 ++ [e], x.call.isBackend = false → (tree x.after).file? loc = (tree x.before).file? loc := by
  obtain ⟨hlinked, hlocal⟩ := hb.outside loc hloc
  refine ⟨linked_append.2 ⟨t.1, hlinked, congrArg (fun s => (tree s).file? loc) he.symm, hg, rfl⟩, fun x hx hx' => ?_⟩
  rcases List.mem_append.1 hx with hx | hx
  · exact hlocal x hx hx'
  · obtain rfl := List.mem_singleton.1 hx
    refine (hk.changes x hg).files loc fun hwrites => ?_
    rcases hb.writes he hc hwrites with hback | ⟨path, hpath, hat⟩ | ⟨-, hin⟩
    · exact Bool.false_ne_true (hx'.symm.trans hback)
    · exact hloc (hat ▸ (hb.leads_request hk hg he hc hpath).2)
    · exact hloc hin

include hk hb hg he hc in
/-- The next request. -/
theorem Books.request (ha : e.abandons = false) :
    Books h tree tmpDir s (held ++ e.call.made e.answer) (e.after, t.2 ++ [e]) where
  goal path := ((hk.changes e hg).goal path).trans (hb.goal_before he path)
  leads _ hpath := hb.leads_request hk hg he hc hpath
  files _ hspares := hb.files_request hk hg he hc ha hspares
  outside _ hloc := hb.outside_request hk hg he hc hloc
  answered x hx := by
    rcases List.mem_append.1 hx with hx | hx
    · exact hb.answered x hx
    · exact List.mem_singleton.1 hx ▸ ha

include hk hb hg he hc in
/-- The last request, if it is cut off. -/
theorem Books.cut (hcut : e.answer = none) : Ended h tree tmpDir s held (e.after, t.2 ++ [e]) := by
  cases ha : e.abandons with
  | false =>
    have hrequest := hb.request hk hg he hc ha
    rw [hcut, Call.made_none, List.append_nil] at hrequest
    exact .balanced hrequest
  | true =>
    obtain ⟨⟨dir, stem⟩, hd⟩ := Option.isSome_iff_exists.1 ha
    obtain ⟨-, -, rfl⟩ := hc.unanswered hd
    exact .abandoned hb hg he hc ha

end

/-- Discarding what is owned. -/
theorem Books.discard (hk : KeepsTree h tree) {path : String} {before after : List String}
    (hb : Books h tree tmpDir s (before ++ path :: after) t) :
    Books h tree tmpDir s (before ++ after) (h.act (LocalDeed.discard path) t.1, t.2) := by
  have hchanges := hk.discard path t.1
  have hpath : path ∈ before ++ path :: after := List.mem_append_right _ List.mem_cons_self
  have hsub : ∀ p ∈ before ++ after, p ∈ before ++ path :: after := by
    intro p hp
    rcases List.mem_append.1 hp with hp | hp
    · exact List.mem_append_left _ hp
    · exact List.mem_append_right _ (List.mem_cons_of_mem _ hp)
  obtain ⟨hleads, hin⟩ := hb.leads path hpath
  refine ⟨fun p => (hchanges.goal p).trans (hb.goal p), fun p hp => ?_, fun loc hspares => ?_, fun loc hloc => ?_,
    hb.answered⟩
  · exact ⟨hchanges.locate (hb.leads p (hsub p hp)).1, (hb.leads p (hsub p hp)).2⟩
  · obtain ⟨hnone, hfile⟩ := hb.files loc hspares
    refine ⟨fun p hp => hnone p (hsub p hp), ?_⟩
    by_cases hat : (tree s).goal path = loc
    · left
      rw [hk.removes path t.1 loc (hat ▸ hleads)]
      exact (hnone path hpath hat).symm
    · rw [hchanges.files loc fun hl => hat (hb.goal_of_locate hpath hl)]
      refine hfile.imp_right fun ⟨p, hp, hp'⟩ => ⟨p, ?_, hp'⟩
      have hne : p ≠ path := fun heq => hat (heq ▸ hp')
      rcases List.mem_append.1 hp with hp | hp
      · exact List.mem_append_left _ hp
      · exact List.mem_append_right _ ((List.mem_cons.1 hp).resolve_left hne)
  · obtain ⟨hlinked, hlocal⟩ := hb.outside loc hloc
    have hsame : (tree t.1).file? loc = (tree (h.act (LocalDeed.discard path) t.1)).file? loc :=
      (hchanges.files loc fun hl => hloc (hb.goal_of_locate hpath hl ▸ hin)).symm
    exact ⟨List.append_nil t.2 ▸ linked_append.2 ⟨t.1, hlinked, hsame⟩, hlocal⟩

theorem Ended.discard (hk : KeepsTree h tree) {path : String} {rest : List String}
    (hend : Ended h tree tmpDir s (path :: rest) t) :
    Ended h tree tmpDir s rest (h.act (LocalDeed.discard path) t.1, t.2) := by
  cases hend with
  | balanced hb =>
    have hfirst : Books h tree tmpDir s ([] ++ path :: rest) t := hb
    exact .balanced (hfirst.discard hk)

/-- A run whose requests for temporary files have all been answered has kept its books. -/
theorem Ended.books (hend : Ended h tree tmpDir s held t) (hanswered : ∀ e ∈ t.2, e.abandons = false) :
    Books h tree tmpDir s held t := by
  cases hend with
  | balanced hb => exact hb
  | abandoned hb hg he hc ha =>
    exact absurd ((hanswered _ List.mem_concat_self).symm.trans ha) Bool.false_ne_true

end

/-! ## Runs -/

/-- What a run from `s` to `t` with a log makes of the local files. -/
structure Tidied (h : Host Reconciling σ) (tree : σ → FileTree) (tmpDir : String) (s : σ)
    (log : List (Entry Reconciling σ)) (t : σ) : Prop where
  /-- Where neither the backend nor the name of a temporary file gets in the way, the file is that from before, if all
  requests for temporary files have been answered. -/
  unchanged : (∀ e ∈ log, e.abandons = false) →
    ∀ loc, (∀ e ∈ log, e.Spares tree loc) → (tree t).file? loc = (tree s).file? loc
  /-- A request for a temporary file that is cut off is the last one. Up to then the files are those from before, and
  what it makes of them stays. -/
  left : ∀ e ∈ log, e.abandons = true → log.getLast? = some e ∧ t = e.after ∧
    ∀ loc, (∀ x ∈ log, x.Spares tree loc) → (tree e.before).file? loc = (tree s).file? loc
  /-- Outside the directory of temporary files, a file is changed by requests to the backend only. -/
  outside : ∀ loc, ¬ (tree s).IsIn tmpDir loc → Linked h (fun s => (tree s).file? loc) s log t ∧
    ∀ e ∈ log, e.call.isBackend = false → (tree e.after).file? loc = (tree e.before).file? loc

section
variable {h : Host Reconciling σ} {tree : σ → FileTree} {tmpDir : String} {s : σ} {t : σ × List (Entry Reconciling σ)}

/-- Owning nothing, a run has left the files as they were. -/
theorem Books.file?_eq (hb : Books h tree tmpDir s [] t) {loc : Location} (hspares : ∀ e ∈ t.2, e.Spares tree loc) :
    (tree t.1).file? loc = (tree s).file? loc :=
  (hb.files loc hspares).2.resolve_right fun ⟨_, hp, _⟩ => absurd hp List.not_mem_nil

theorem Ended.tidied (hk : KeepsTree h tree) (hend : Ended h tree tmpDir s [] t) : Tidied h tree tmpDir s t.2 t.1 where
  unchanged hanswered loc hspares := (hend.books hanswered).file?_eq hspares
  left e he ha := by
    cases hend with
    | balanced hb => exact absurd ((hb.answered e he).symm.trans ha) Bool.false_ne_true
    | @abandoned t x hb hg hbefore hc hx =>
      rcases List.mem_append.1 he with he | he
      · exact absurd ((hb.answered e he).symm.trans ha) Bool.false_ne_true
      · obtain rfl := List.mem_singleton.1 he
        refine ⟨List.getLast?_concat, rfl, fun loc hspares => ?_⟩
        rw [hbefore]
        exact hb.file?_eq fun x hx => hspares x (List.mem_append_left _ hx)
  outside loc hloc := by
    cases hend with
    | balanced hb => exact hb.outside loc hloc
    | abandoned hb hg he hc ha => exact hb.outside_request hk hg he hc hloc

/-- A tidy task that keeps nothing, from a state in which nothing is owned. -/
theorem Books.runInTime (hk : KeepsTree h tree) {α : Type} {task : Task Reconciling α}
    (ht : task.Tidy tmpDir [] (fun _ => []) []) (hb : Books h tree tmpDir s [] t) :
    (∀ r u, Program.runInTime h.logged task t = (some r, u) → Books h tree tmpDir s [] u) ∧
      Ended h tree tmpDir s [] (Program.runInTime h.logged task t).2 := by
  have hanswered : ∀ c held t reply u, Call.Permitted tmpDir held c → Books h tree tmpDir s held t →
      h.logged.answerInTime c t = (some reply, u) → Books h tree tmpDir s (held ++ Call.made c (some reply)) u := by
    intro c held t reply u hc hb heq
    obtain ⟨hreply, rfl⟩ := Prod.mk.inj heq
    have ha : (Entry.askedInTime h c t.1).abandons = false :=
      Entry.abandons_of_answer (congrArg Option.isSome hreply)
    exact hreply ▸ hb.request hk (Entry.genuine_askedInTime h c t.1) rfl hc ha
  have hcut : ∀ c held t u, Call.Permitted tmpDir held c → Books h tree tmpDir s held t →
      h.logged.answerInTime c t = (none, u) → Ended h tree tmpDir s held u := by
    intro c held t u hc hb heq
    obtain ⟨hreply, rfl⟩ := Prod.mk.inj heq
    exact hb.cut hk (Entry.genuine_askedInTime h c t.1) rfl hc hreply
  obtain ⟨hdone, hleft⟩ := Program.Tidy.runInTime (h := h.logged) hanswered hcut
    (fun path before after t hb => hb.discard hk) (fun path rest t hend => hend.discard hk) ht hb
  have hbooks : ∀ r u, Program.runInTime h.logged task t = (some r, u) → Books h tree tmpDir s [] u := by
    intro r u hr
    -- Whether it fails or succeeds, the task keeps nothing.
    have hb := hdone r u hr
    cases r <;> exact hb
  refine ⟨hbooks, ?_⟩
  rcases hr : Program.runInTime h.logged task t with ⟨_ | r, u⟩
  · exact hleft u hr
  · exact .balanced (hbooks r u hr)

/-- A task that makes no temporary file keeps the books even if it is cut off. -/
theorem Books.runInTime_plain (hk : KeepsTree h tree) {α : Type} {task : Task Reconciling α}
    (ht : task.Tidy tmpDir [] (fun _ => []) []) (hplain : task.AsksOnly Call.IsPlain) (hb : Books h tree tmpDir s [] t) :
    Books h tree tmpDir s [] (Program.runInTime h.logged task t).2 := by
  refine (hb.runInTime hk ht).2.books ?_
  refine Program.of_runInTime (h := h.logged) (R := fun t => ∀ e ∈ t.2, e.abandons = false)
    (Program.wp_of_asksOnly _ (fun c u hc hu e he => ?_) (fun _ _ hu => hu) hplain hb.answered) fun _ _ hu => hu
  rcases List.mem_append.1 he with he | he
  · exact hu e he
  · obtain rfl := List.mem_singleton.1 he
    exact congrArg Option.isSome (hc.unanswered _)

theorem tidied_create (hk : KeepsTree h tree) (tmpDir : String) (spec : Spec) (s : σ) :
    Tidied h tree tmpDir s (createLog h tmpDir spec s) (create h tmpDir spec s).host := by
  have hstart : Books h tree tmpDir s [] (h.logged.setLimit spec.timeout (s, [])) :=
    books_start (hk.setLimit spec.timeout s)
  obtain ⟨hplaced, hended⟩ := hstart.runInTime hk (tidy_place spec)
  have hread (p : Placed) (t : σ × List (Entry Reconciling σ)) (hb : Books h tree tmpDir s [] t) :
      Books h tree tmpDir s [] (Program.runInTime h.logged (readBack spec p) t).2 :=
    hb.runInTime_plain hk (tidy_readBack spec p) ((asksOnly_readBack spec p).mono fun _ hc => hc.isPlain)
  have hstages := create_stages h.logged tmpDir spec (s, [])
  rw [create_logged, createLog]
  generalize create h.logged tmpDir spec (s, []) = finished at hstages
  cases hstages with
  | unplaced hplace hr =>
    rw [hplace] at hended
    exact hended.tidied hk
  | @undone p t r f u hplace hback hr =>
    have hbooks := hread p t (hplaced _ t hplace)
    rw [hback] at hbooks
    rw [rollBack_host]
    exact (Ended.balanced (hbooks.request hk (Entry.genuine_asked h (deletion spec p.volume) u.1) rfl trivial rfl)).tidied
      hk
  | @created p t state u hplace hback =>
    have hbooks := hread p t (hplaced _ t hplace)
    rw [hback] at hbooks
    exact (Ended.balanced hbooks).tidied hk

theorem tidied_resolve (hk : KeepsTree h tree) (tmpDir : String) (source : Source) (s : σ) :
    Tidied h tree tmpDir s ((Artifact.resolveAndDrop tmpDir source).runInTime h.logged (s, [])).2.2
      ((Artifact.resolveAndDrop tmpDir source).runInTime h s).2 := by
  have hstart : Books h tree tmpDir s [] (s, []) := books_start rfl
  have hend := (hstart.runInTime hk (tidy_resolveAndDrop source)).2
  have hrun := Program.runInTime_agrees (logged_agrees h) (Artifact.resolveAndDrop tmpDir source) (s, [])
  rw [show (Artifact.resolveAndDrop tmpDir source).runInTime h s = _ from hrun]
  exact hend.tidied hk

end

theorem genuine_createLog (h : Host Reconciling σ) (tmpDir : String) (spec : Spec) (s : σ) :
    ∀ e ∈ createLog h tmpDir spec s, e.Genuine h :=
  (create_linked (v := fun _ => ()) (fun _ _ => rfl) (fun _ _ => rfl) tmpDir spec s).genuine

/-! ## Worlds -/

namespace World

theorem toList_uuid (n : Nat) :
    (uuid n).toList = "00000000-0000-4000-8000-".toList ++ Text.zeroPadded 12 (Text.digits 16 n) :=
  (String.toList_append ..).trans (congrArg (_ ++ ·) String.toList_ofList)

theorem isName_temporaryName {stem : String} (hs : '/' ∉ stem.toList) (n : Nat) :
    FileTree.IsName (temporaryName stem n) := by
  have htext : (temporaryName stem n).toList =
      stem.toList ++ "-".toList ++ (uuid n).toList ++ ".tmp".toList := by
    simp only [temporaryName, String.toList_append]
  have hdigits : '/' ∉ Text.zeroPadded 12 (Text.digits 16 n) := by
    intro hmem
    rcases List.mem_append.1 hmem with hmem | hmem
    · exact absurd (List.eq_of_mem_replicate hmem) (by decide)
    · exact absurd (Text.isDigitOf_of_mem_digits (by omega) (by omega) hmem) (by decide)
  have huuid : '/' ∉ (uuid n).toList := by
    rw [toList_uuid, List.mem_append, not_or]
    exact ⟨by decide, hdigits⟩
  refine .of_length (htext ▸ ?_) (htext ▸ ?_)
  · rw [List.length_append]
    exact Nat.lt_of_lt_of_le (show 2 < ".tmp".toList.length by decide) (Nat.le_add_left _ _)
  · simp only [List.mem_append, not_or]
    exact ⟨⟨⟨hs, by decide⟩, huuid⟩, by decide⟩

variable {w : World}

theorem makes_answerLocal {dir stem path : String} (hm : (w.makeTemporary dir stem).1 = .ok path) (hs : '/' ∉ stem.toList) :
    (w.makeTemporary dir stem).2.tree.locate path = .ok (w.tree.goal path) ∧ w.tree.IsIn dir (w.tree.goal path) := by
  unfold makeTemporary at hm ⊢
  dsimp only at hm ⊢
  split at hm
  · rename_i tree hc
    obtain rfl := Except.ok.inj hm
    exact ⟨(FileTree.changes_create hc).1, _, FileTree.goal_pathIn w.tree dir (isName_temporaryName hs w.names)⟩
  · cases hm

/-- A temporary file is made where its path name leads to, or the world stays as it is. -/
theorem changes_makeTemporary (w : World) (dir stem : String) :
    (∃ path, (w.makeTemporary dir stem).1 = .ok path ∧
      w.tree.Changes (w.makeTemporary dir stem).2.tree (w.tree.goal path = ·)) ∨ (w.makeTemporary dir stem).2 = w := by
  unfold makeTemporary
  dsimp only
  split
  · rename_i tree hc
    exact .inl ⟨_, rfl, (FileTree.changes_create hc).2.mono fun _ hl => hl.symm⟩
  · exact .inr rfl

/-- What a request does to the files of a world when it is answered or when nobody waits for it any more. -/
def Does (w : World) (call : LocalCall) (reply : Option call.Reply) (u : World) : Prop :=
  u.tree = (w.answerLocal call).2.tree ∧ (reply = none ∨ reply = some (w.answerLocal call).1)

theorem tree_abandon (w : World) (call : LocalCall) : (w.abandon call).tree = (w.answerLocal call).2.tree := by
  cases call <;> rfl

theorem does_answerLocal (w : World) (call : LocalCall) :
    w.Does call (some (w.answerLocal call).1) (w.answerLocal call).2 := ⟨rfl, .inr rfl⟩

theorem does_abandon (w : World) (call : LocalCall) : w.Does call none (w.abandon call) :=
  ⟨w.tree_abandon call, .inl rfl⟩

theorem Does.changes {call : LocalCall} {reply : Option call.Reply} {u : World} (hd : w.Does call reply u) :
    w.tree.Changes u.tree (Call.Writes w.tree (.here call) reply) := by
  obtain ⟨htree, hreply⟩ := hd
  rw [htree]
  cases call with
  | exchange request => exact .refl _
  | makeDirectories path => exact (FileTree.changes_makeDirectories w.tree path).mono fun _ hf => hf.elim
  | makeTemporary dir stem =>
    change w.tree.Changes (w.makeTemporary dir stem).2.tree _
    rcases w.changes_makeTemporary dir stem with ⟨path, hm, hchanges⟩ | hsame
    · refine hchanges.mono fun loc hl => ?_
      rcases hreply with rfl | rfl
      · exact .inr (.inr (.inr ⟨dir, stem, rfl, fun hs => hl ▸ (makes_answerLocal hm hs).2⟩))
      · refine .inr (.inr (.inl ⟨path, Call.mem_made.2 ⟨dir, stem, ?_⟩, hl⟩))
        change Call.temporary? (.here (.makeTemporary dir stem)) (some (w.makeTemporary dir stem).1) = _
        rw [hm]
        rfl
    · rw [hsame]
      exact .refl _
  | append path bytes =>
    change w.tree.Changes (w.append path bytes).2.tree _
    unfold append
    split
    · rename_i tree ha
      exact (FileTree.changes_append ha).mono fun loc hl => .inr (.inl ⟨path, rfl, hl⟩)
    · exact .refl _
  | contents path => exact .refl _
  | stat path => exact .refl _

theorem Does.makes {call : LocalCall} {reply : Option call.Reply} {u : World} (hd : w.Does call reply u)
    {dir stem path : String} (ht : Call.temporary? (.here call) reply = some (dir, stem, path))
    (hs : '/' ∉ stem.toList) :
    u.tree.locate path = .ok (w.tree.goal path) ∧ w.tree.IsIn dir (w.tree.goal path) := by
  obtain ⟨htree, rfl | rfl⟩ := hd
  · cases call <;> cases ht
  · rw [htree]
    cases call with
    | makeTemporary dir' stem' =>
      change Call.temporary? (.here (.makeTemporary dir' stem')) (some (w.makeTemporary dir' stem').1) = _ at ht
      cases hm : (w.makeTemporary dir' stem').1 with
      | error e =>
        rw [hm] at ht
        cases ht
      | ok made =>
        rw [hm] at ht
        cases ht
        exact makes_answerLocal hm hs
    | _ => cases ht

theorem tree_discard (w : World) (path : String) :
    (w.discard path).tree = match w.tree.unlink path with | .ok tree => tree | .error _ => w.tree := by
  unfold discard
  cases w.tree.unlink path <;> rfl

theorem changes_discard (w : World) (path : String) :
    w.tree.Changes (w.discard path).tree (w.tree.locate path = .ok ·) := by
  rw [tree_discard]
  cases hu : w.tree.unlink path with
  | ok tree => exact FileTree.changes_unlink hu
  | error e => exact .refl _

/-- The files of a world are in the hands of some local surroundings. -/
structure KeptBy (here : Host Surroundings World) : Prop where
  answer : ∀ call w, Does w call (some (here.answer call w).1) (here.answer call w).2
  answerInTime : ∀ call w, Does w call (here.answerInTime call w).1 (here.answerInTime call w).2
  discard : ∀ path w, (here.act (LocalDeed.discard path) w).tree = (w.discard path).tree
  setLimit : ∀ l w, (here.setLimit l w).tree = w.tree

theorem keptBy_surroundings : KeptBy surroundings where
  answer call w := w.does_answerLocal call
  answerInTime call w := by
    unfold surroundings
    dsimp only
    split
    · exact w.does_abandon call
    · exact w.does_answerLocal call
  discard _ _ := rfl
  setLimit _ _ := rfl

/-- Local surroundings where each request takes the same time, in milliseconds. -/
def pacedSurroundings (pace : Nat) : Host Surroundings World where
  answer call w := ((w.answerLocal call).1, { (w.answerLocal call).2 with time := w.time.pass pace })
  answerInTime call w :=
    let (inTime, time) := w.time.passInTime pace
    if inTime then (some (w.answerLocal call).1, { (w.answerLocal call).2 with time := time })
    else (none, { w.abandon call with time := time })
  act := surroundings.act
  setLimit := surroundings.setLimit

theorem keptBy_pacedSurroundings (pace : Nat) : KeptBy (pacedSurroundings pace) where
  answer call w := ⟨rfl, .inr rfl⟩
  answerInTime call w := by
    unfold pacedSurroundings
    dsimp only
    split
    · exact ⟨rfl, .inr rfl⟩
    · exact ⟨w.tree_abandon call, .inl rfl⟩
  discard _ _ := rfl
  setLimit _ _ := rfl

end World

section
variable (backend : Host Storage σ) {here : Host Surroundings World} (hkept : World.KeptBy here) (get : σ → World)
  (put : σ → World → σ) (hget : ∀ s w, get (put s w) = w)

include hkept hget

theorem does_of_genuine {call : LocalCall} {reply : Option call.Reply} {s t : σ}
    (hg : Entry.Genuine (Host.join backend (here.zoom get put)) ⟨.here call, reply, s, t⟩) :
    (get s).Does call reply (get t) := by
  have hparts : ∀ a u, (⟨.here call, reply, s, t⟩ : Entry Reconciling σ) = ⟨.here call, a, s, u⟩ → reply = a ∧ t = u := by
    rintro a u ⟨⟩
    exact ⟨rfl, rfl⟩
  rcases hg with hg | hg <;> obtain ⟨hreply, hafter⟩ := hparts _ _ hg <;> rw [hreply, hafter]
  · change (get s).Does call (here.answerInTime call (get s)).1 (get (put s (here.answerInTime call (get s)).2))
    rw [hget]
    exact hkept.answerInTime call (get s)
  · change (get s).Does call (some (here.answer call (get s)).1) (get (put s (here.answer call (get s)).2))
    rw [hget]
    exact hkept.answer call (get s)

/-- A host whose local side has the files of a world keeps a tree, if its backend takes no directory away. -/
theorem keepsTree_join
    (hanswer : ∀ call s, (get s).tree.Changes (get (backend.answer call s).2).tree fun _ => True)
    (hinTime : ∀ call s, (get s).tree.Changes (get (backend.answerInTime call s).2).tree fun _ => True) :
    KeepsTree (Host.join backend (here.zoom get put)) fun s => (get s).tree where
  changes e hg := by
    obtain ⟨c, reply, s, t⟩ := e
    cases c with
    | backend call =>
      rcases hg with hg | hg <;> rw [hg]
      · exact (hinTime call s).mono fun _ _ => .inl rfl
      · exact (hanswer call s).mono fun _ _ => .inl rfl
    | here call => exact (does_of_genuine backend hkept get put hget hg).changes
  makes e dir stem path hg hd hs := by
    obtain ⟨c, reply, s, t⟩ := e
    cases c with
    | backend call => cases hd
    | here call => exact (does_of_genuine backend hkept get put hget hg).makes hd hs
  discard path s := by
    change (get s).tree.Changes (get (put s (here.act (LocalDeed.discard path) (get s)))).tree _
    rw [hget, hkept.discard]
    exact (get s).changes_discard path
  removes path s loc hl := by
    change (get (put s (here.act (LocalDeed.discard path) (get s)))).tree.file? loc = none
    rw [hget, hkept.discard, World.tree_discard]
    exact FileTree.file?_unlink hl
  setLimit l s := by
    change (get (put s (here.setLimit l (get s)))).tree = (get s).tree
    rw [hget, hkept.setLimit]

end

/-- Creating, and getting an artifact and letting go of it, leave the local files as they were, however they
end, but for a temporary file that the limit cuts off in the making. What a cluster as the backend does to the local
files, its client program does in a streamed upload. -/
theorem files_untouched {h : Host Reconciling σ} {tree : σ → FileTree} (hk : KeepsTree h tree) :
    (∀ tmpDir spec s, Tidied h tree tmpDir s (createLog h tmpDir spec s) (create h tmpDir spec s).host) ∧
    (∀ tmpDir source s, Tidied h tree tmpDir s
      ((Artifact.resolveAndDrop tmpDir source).runInTime h.logged (s, [])).2.2
      ((Artifact.resolveAndDrop tmpDir source).runInTime h s).2) ∧
    ∀ (c : Cluster.Connection) (wire : Host Cluster.Wire σ) (patience : σ → Time.Span),
      (∀ r s, Cluster.WireCall.isClient r = false →
        tree (wire.answer r s).2 = tree s ∧ tree (wire.answerInTime r s).2 = tree s) →
      (∀ d s, tree (wire.act d s) = tree s) →
        ∀ call s, (∀ node path upload, call ≠ .streamUpload node path upload) →
          tree ((c.host wire patience).answer call s).2 = tree s ∧
            tree ((c.host wire patience).answerInTime call s).2 = tree s :=
  ⟨tidied_create hk, tidied_resolve hk, fun c _ patience hwire hact _ s hcall => c.host_keeps hwire hact patience hcall s⟩

/-! ## On a store in memory -/

namespace Memory

theorem answer_tree (m : Memory) (call : BackendCall) : (backend.answer call m).2.world.tree = m.world.tree := by
  dsimp only [backend]
  rw [settle_world]
  rfl

theorem answerInTime_tree (m : Memory) (call : BackendCall) :
    (backend.answerInTime call m).2.world.tree = m.world.tree := by
  dsimp only [backend]
  split
  · dsimp only
    rw [settle_world]
    rfl
  · split
    · dsimp only
      rw [settle_world]
      rfl
    · rfl

/-- A store on a machine with other local surroundings. -/
def hostAmong (here : Host Surroundings World) : Host Reconciling Memory :=
  Host.join backend (here.zoom Memory.world fun m w => { m with world := w })

theorem keepsTree {here : Host Surroundings World} (hkept : World.KeptBy here) :
    KeepsTree (hostAmong here) fun m => m.world.tree :=
  keepsTree_join backend hkept Memory.world (fun m w => { m with world := w }) (fun _ _ => rfl)
    (fun call m => (answer_tree m call).symm ▸ .refl _) fun call m => (answerInTime_tree m call).symm ▸ .refl _

/-- No new temporary file has the name of another file. -/
def namesAreNew (e : Entry Reconciling Memory) : Bool :=
  (e.call.made e.answer).all fun path => (e.before.world.tree.file? (e.before.world.tree.goal path)).isNone

/-- The backend leaves the files alone, so that only a name that is not new gets in the way. -/
theorem spares {here : Host Surroundings World} {e : Entry Reconciling Memory} (hg : e.Genuine (hostAmong here))
    (hnew : namesAreNew e = true) (loc : Location) : e.Spares (fun m => m.world.tree) loc := by
  refine ⟨fun hback => ?_, fun path hpath hat => ?_⟩
  · obtain ⟨c, reply, m, n⟩ := e
    cases c with
    | here call => cases hback
    | backend call =>
      refine congrArg (FileTree.file? · loc) ?_
      rcases hg with hg | hg <;> rw [hg]
      · exact answerInTime_tree m call
      · exact answer_tree m call
  · have hnone := List.all_eq_true.1 hnew path hpath
    rw [hat] at hnone
    exact Option.isNone_iff_eq_none.1 hnone

/-- A store to which an upload takes longer than the limit, on a machine whose directory of temporary files
holds a file already. -/
def slow : Memory :=
  ⟨.ofTree ((FileTree.empty.put ["work", "tmp"] .directory).put ["work", "tmp", "kept"]
      (.file ⟨"kept".toUTF8, ⟨1700000000, 0⟩, 0o644⟩)),
    ⟨"local", .ok .minimum, some "/var/lib/vz", [], []⟩, [(.streamUpload, [⟨61000, none, false⟩])], []⟩

theorem all_isNew_slow :
    ((createLog host "tmp" (text 6) slow).all fun e => !e.abandons && namesAreNew e) = true := rfl

/-- Local surroundings where making a directory and making a file in it take longer than the limit, but neither does
alone. -/
def paced : Host Reconciling Memory := hostAmong (World.pacedSurroundings 40000)

theorem all_isNew_paced : ((createLog paced "tmp" (text 6) vacant).all namesAreNew) = true := rfl

end Memory

/-- Cut off in its upload, creating leaves all files as they were, with the temporary file that it had made. -/
theorem files_untouched_slow :
    (create Memory.host "tmp" (Memory.text 6) .slow).result = .error (.timeout (Memory.text 6).timeout) ∧
      (temporaries (createLog Memory.host "tmp" (Memory.text 6) .slow)).length = 1 ∧
      ∀ loc, (create Memory.host "tmp" (Memory.text 6) .slow).host.world.tree.file? loc =
        Memory.slow.world.tree.file? loc := by
  have hlog : ∀ e ∈ createLog Memory.host "tmp" (Memory.text 6) .slow,
      e.abandons = false ∧ Memory.namesAreNew e = true := by
    simpa using Memory.all_isNew_slow
  refine ⟨rfl, rfl, fun loc => ?_⟩
  refine ((files_untouched (Memory.keepsTree World.keptBy_surroundings)).1 "tmp" (Memory.text 6) .slow).unchanged
    (fun e he => (hlog e he).1) loc fun e he => ?_
  exact Memory.spares (genuine_createLog Memory.host _ _ _ e he) (hlog e he).2 loc

/-- Cut off while its temporary file is being made, creating leaves that file behind. -/
theorem files_left_behind :
    KeepsTree Memory.paced (fun m => m.world.tree) ∧
      (∀ e ∈ createLog Memory.paced "tmp" (Memory.text 6) .vacant, ∀ loc, e.Spares (fun m => m.world.tree) loc) ∧
      (create Memory.paced "tmp" (Memory.text 6) .vacant).result = .error (.timeout (Memory.text 6).timeout) ∧
      ∃ loc, loc = ["work", "tmp", "raw-00000000-0000-4000-8000-000000000000.tmp"] ∧
        Memory.vacant.world.tree.file? loc = none ∧
        ((create Memory.paced "tmp" (Memory.text 6) .vacant).host.world.tree.file? loc).isSome = true := by
  refine ⟨Memory.keepsTree (World.keptBy_pacedSurroundings 40000), fun e he loc => ?_, rfl, _, rfl, rfl, rfl⟩
  exact Memory.spares (genuine_createLog Memory.paced _ _ _ e he) (List.all_eq_true.1 Memory.all_isNew_paced e he) loc

end FilePlacement
