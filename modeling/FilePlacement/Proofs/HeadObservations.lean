import FilePlacement.Proofs.HttpDates
import FilePlacement.Proofs.LocalObservations
import FilePlacement.Proofs.Settling

/-!
# What is observed of a URL

The headers of an answer tell a length, a moment and a tag, or leave them out (`Headline`). The observation of the URL
is made of just these three (`Drift.ofResponse_of_told`), and a record of them reports a change just if it is complete
and one of the three is different (`Headline.hasChanged_iff`): the zone in which the moment is spelled, and whether the
tag is a weak one, make no difference.

A date that cannot be read is no change. It is a fault, of the observation and of whatever observes.
-/

namespace FilePlacement

/-- What the headers of an answer tell. -/
structure Headline where
  length : Option Int
  date : Option Time.Instant
  tag : Option String
deriving DecidableEq

namespace Http

/-- A response has a header with this text, which is printable ASCII, or no header of this name. -/
def Response.Gives (r : Response) (name : String) : Option String → Prop
  | none => r.header? name = none
  | some text => r.header? name = some (text.toList.map fun c => c.toNat.toUInt8) ∧
      ∀ c ∈ text.toList, 0x20 ≤ c.toNat ∧ c.toNat ≤ 0x7E

theorem Response.gives_of_all {r : Response} {name text : String}
    (h : r.header? name = some (text.toList.map fun c => c.toNat.toUInt8))
    (hascii : text.toList.all (fun c => 0x20 ≤ c.toNat && c.toNat ≤ 0x7E) = true) : r.Gives name (some text) := by
  refine ⟨h, fun c hc => ?_⟩
  simpa using List.all_eq_true.1 hascii c hc

theorem toNat_toUInt8 {c : Char} (hc : 0x20 ≤ c.toNat ∧ c.toNat ≤ 0x7E) : c.toNat.toUInt8.toNat = c.toNat := by
  rw [Nat.toUInt8, UInt8.toNat_ofNat']
  omega

theorem headerText_of_gives {r : Response} {name : String} {text : Option String} (h : r.Gives name text) :
    r.headerText name = text.getD "" := by
  cases text with
  | none =>
    have hnone : r.header? name = none := h
    unfold Response.headerText
    rw [hnone]
    rfl
  | some text =>
    obtain ⟨hsome, hplain⟩ := h
    have hbytes : (text.toList.map fun c => c.toNat.toUInt8).all isPlainByte = true := by
      rw [List.all_eq_true]
      intro b hb
      obtain ⟨c, hc, rfl⟩ := List.mem_map.1 hb
      have hvalue := toNat_toUInt8 (hplain c hc)
      have hrange := hplain c hc
      simp only [isPlainByte, Bool.or_eq_true, Bool.and_eq_true, decide_eq_true_eq, UInt8.le_iff_toNat_le, hvalue]
      exact Or.inr hrange
    have htext : (text.toList.map fun c => c.toNat.toUInt8).map (fun b => Char.ofNat b.toNat) = text.toList := by
      rw [List.map_map]
      refine (List.map_congr_left fun c hc => ?_).trans (List.map_id _)
      simp only [Function.comp_apply, toNat_toUInt8 (hplain c hc), Char.ofNat_toNat, id]
    unfold Response.headerText
    rw [hsome]
    simp only [hbytes, if_true, htext, String.ofList_toList, Option.getD_some]

end Http

namespace Headline

/-- The length is a decimal number that fits its place. -/
inductive TellsLength : Option String → Option Int → Prop
  | absent : TellsLength none none
  | decimal {text : String} {n : Int} (hn : Text.ofSigned? text.toList = some n) (hlow : Int64.minValue.toInt ≤ n)
      (hhigh : n ≤ Int64.maxValue.toInt) : TellsLength (some text) (some n)

/-- The date is one that can be read. -/
inductive TellsDate : Option String → Option Time.Instant → Prop
  | absent : TellsDate none none
  | valid {text : String} {t : Time.Instant} (ht : Time.HttpDate.parse text = .ok t) : TellsDate (some text) (some t)

/-- The tag stands in quotes, with or without the mark of a weak one in front. -/
inductive TellsTag : Option String → Option String → Prop
  | absent : TellsTag none none
  | strong {tag : String} (htag : '"' ∉ tag.toList) : TellsTag (some ("\"" ++ tag ++ "\"")) (some tag)
  | weak {tag : String} (htag : '"' ∉ tag.toList) : TellsTag (some ("W/\"" ++ tag ++ "\"")) (some tag)

/-- The headers of a response tell this, and leave out what is not told. -/
structure IsToldBy (d : Headline) (r : Http.Response) : Prop where
  length : ∃ text, r.Gives "content-length" text ∧ TellsLength text d.length
  date : ∃ text, r.Gives "last-modified" text ∧ TellsDate text d.date
  tag : ∃ text, r.Gives "etag" text ∧ TellsTag text d.tag

/-- The observation that what is told leads to. -/
def observation (d : Headline) : Observation :=
  ⟨(d.date.map Time.Instant.rfc3339).getD "", Int64.ofInt (d.length.getD 0), d.tag.getD ""⟩

end Headline

/-! ## Reading the headers -/

/-- There is no white space in a number. -/
theorem Text.isBlank_of_ofSigned? {cs : List Char} {n : Int} (h : ofSigned? cs = some n) {c : Char} (hc : c ∈ cs) :
    isBlank c = false := by
  cases cs with
  | nil => cases hc
  | cons d ds =>
    by_cases hminus : d = '-'
    · subst hminus
      rw [ofSigned?_minus] at h
      obtain ⟨m, hm, -⟩ := Option.map_eq_some_iff.1 h
      rcases List.mem_cons.1 hc with rfl | hc
      · decide
      · exact isBlank_of_ofDigits? hm hc
    · by_cases hplus : d = '+'
      · subst hplus
        rw [ofSigned?_plus] at h
        obtain ⟨m, hm, -⟩ := Option.map_eq_some_iff.1 h
        rcases List.mem_cons.1 hc with rfl | hc
        · decide
        · exact isBlank_of_ofDigits? hm hc
      · rw [ofSigned?_of_ne hminus hplus] at h
        obtain ⟨m, hm, -⟩ := Option.map_eq_some_iff.1 h
        exact isBlank_of_ofDigits? hm hc

namespace Drift

open Headline

theorem lengthOfHeader_of_tells {text : Option String} {n : Option Int} (h : TellsLength text n) :
    lengthOfHeader (text.getD "") = Int64.ofInt (n.getD 0) := by
  cases h with
  | absent => rfl
  | @decimal text n hn hlow hhigh =>
    have htrim : Text.trim text.toList = text.toList := Text.trimBy_eq_self fun c hc => Text.isBlank_of_ofSigned? hn hc
    unfold lengthOfHeader
    simp only [Option.getD_some, htrim, hn]
    exact if_pos (by simp only [Bool.and_eq_true, decide_eq_true_eq]; exact ⟨hlow, hhigh⟩)

theorem dateOfHeader_of_tells {text : Option String} {t : Option Time.Instant} (h : TellsDate text t) :
    dateOfHeader (text.getD "") = .ok ((t.map Time.Instant.rfc3339).getD "") := by
  cases h with
  | absent => rfl
  | valid ht => exact Time.HttpDate.dateOfHeader_of_parse ht

theorem tagOfHeader_of_tells {text tag : Option String} (h : TellsTag text tag) :
    tagOfHeader (text.getD "") = tag.getD "" := by
  -- What stands in front of the first quote does not matter.
  have hquoted : ∀ (front tag : List Char), '"' ∉ front → '"' ∉ tag →
      Text.pieces '"' (front ++ '"' :: (tag ++ '"' :: [])) = [front, tag, []] := by
    intro front tag hfront htag
    rw [Text.pieces_append, Text.pieces_append, Text.pieces_of_not_mem hfront, Text.pieces_of_not_mem htag]
    rfl
  cases h with
  | absent => rfl
  | @strong tag htag =>
    have hpieces := hquoted [] tag.toList (by simp) htag
    have htext : ("\"" ++ tag ++ "\"").toList = [] ++ '"' :: (tag.toList ++ '"' :: []) := by simp
    unfold tagOfHeader
    simp only [Option.getD_some, htext, hpieces, String.ofList_toList]
  | @weak tag htag =>
    have hpieces := hquoted ['W', '/'] tag.toList (by decide) htag
    have htext : ("W/\"" ++ tag ++ "\"").toList = ['W', '/'] ++ '"' :: (tag.toList ++ '"' :: []) := by simp
    unfold tagOfHeader
    simp only [Option.getD_some, htext, hpieces, String.ofList_toList]

theorem ofResponse_of_told {r : Http.Response} {d : Headline} (h : d.IsToldBy r) :
    ofResponse r = .ok d.observation := by
  obtain ⟨⟨length, hlength, hd⟩, ⟨date, hdate, hd'⟩, ⟨tag, htag, hd''⟩⟩ := h
  unfold ofResponse
  rw [Http.headerText_of_gives hlength, Http.headerText_of_gives hdate, Http.headerText_of_gives htag,
    lengthOfHeader_of_tells hd, dateOfHeader_of_tells hd', tagOfHeader_of_tells hd'']
  rfl

end Drift

/-! ## Comparing what is told -/

namespace Headline

/-- The length fits its place, and the date is a moment that there is. -/
structure IsProper (d : Headline) : Prop where
  length : Int64.minValue.toInt ≤ d.length.getD 0 ∧ d.length.getD 0 ≤ Int64.maxValue.toInt
  date : ∀ t ∈ d.date, t.IsRegular

theorem IsToldBy.isProper {d : Headline} {r : Http.Response} (h : d.IsToldBy r) : d.IsProper where
  length := by
    obtain ⟨text, -, hlength⟩ := h.length
    generalize d.length = length at hlength
    cases hlength with
    | absent => decide
    | decimal hn hlow hhigh => exact ⟨hlow, hhigh⟩
  date := by
    obtain ⟨text, -, hdate⟩ := h.date
    generalize d.date = date at hdate
    cases hdate with
    | absent => nofun
    | valid ht =>
      intro t hmem
      obtain rfl := Option.some.inj hmem
      exact Time.HttpDate.isRegular_of_parse ht

theorem dateText_inj {t u : Option Time.Instant} (ht : ∀ x ∈ t, x.IsRegular) (hu : ∀ x ∈ u, x.IsRegular) :
    (t.map Time.Instant.rfc3339).getD "" = (u.map Time.Instant.rfc3339).getD "" ↔ t = u := by
  refine ⟨fun h => ?_, fun h => h ▸ rfl⟩
  cases t with
  | none =>
    cases u with
    | none => rfl
    | some u => exact absurd h.symm (Time.Instant.rfc3339_ne_empty u)
  | some t =>
    cases u with
    | none => exact absurd h (Time.Instant.rfc3339_ne_empty t)
    | some u => exact congrArg some (Time.Instant.eq_of_rfc3339_eq (ht t rfl) (hu u rfl) h)

section
variable {d e : Headline} (hd : d.IsProper)

include hd

theorem toInt_size_observation : d.observation.size.toInt = d.length.getD 0 := by
  obtain ⟨hlow, hhigh⟩ := hd.length
  rw [Int64.toInt_minValue] at hlow
  rw [Int64.toInt_maxValue] at hhigh
  exact Int64.toInt_ofInt_of_le (by omega) (by omega)

theorem observation_eq_iff (he : e.IsProper) : d.observation = e.observation ↔
    d.length.getD 0 = e.length.getD 0 ∧ d.date = e.date ∧ d.tag.getD "" = e.tag.getD "" := by
  have hsize : d.observation.size = e.observation.size ↔ d.length.getD 0 = e.length.getD 0 := by
    rw [← Int64.toInt_inj, toInt_size_observation hd, toInt_size_observation he]
  have hdate := dateText_inj hd.date he.date
  constructor
  · intro h
    obtain ⟨hdates, hsizes, htags⟩ := Observation.mk.inj h
    exact ⟨hsize.1 hsizes, hdate.1 hdates, htags⟩
  · rintro ⟨hlength, hdates, htag⟩
    unfold observation
    rw [hlength, hdates, htag]

/-- Everything is known of a source whose server tells a length, a date and a tag. -/
theorem isComplete_observation :
    d.observation.isComplete = true ↔ d.length.getD 0 ≠ 0 ∧ d.date.isSome = true ∧ d.tag.getD "" ≠ "" := by
  have hsize : d.observation.size = 0 ↔ d.length.getD 0 = 0 := by
    rw [← Int64.toInt_inj, toInt_size_observation hd, Int64.toInt_zero]
  have hdate : d.observation.modificationDate ≠ "" ↔ d.date.isSome = true := by
    unfold observation
    cases d.date with
    | none => simp
    | some t => simpa using Time.Instant.rfc3339_ne_empty t
  have htag : d.observation.tag = d.tag.getD "" := rfl
  simp only [Observation.isComplete, Bool.and_eq_true, Bool.not_eq_true', bne_iff_ne, String.isEmpty_eq_false_iff,
    ne_eq] at hdate ⊢
  rw [hsize, hdate, htag, and_comm (a := _ = true), and_assoc]

theorem hasChanged_iff (he : e.IsProper) : d.observation.hasChanged e.observation = true ↔
    (d.length.getD 0 ≠ 0 ∧ d.date.isSome = true ∧ d.tag.getD "" ≠ "") ∧
      (d.length.getD 0 ≠ e.length.getD 0 ∨ d.date ≠ e.date ∨ d.tag.getD "" ≠ e.tag.getD "") := by
  rw [FilePlacement.hasChanged_iff, isComplete_observation hd, ne_eq d.observation, observation_eq_iff hd he,
    not_and_or, not_and_or]

end

end Headline

/-! ## Observing -/

section
variable {σ : Type} {h : Host Reconciling σ} {f : SourceFile} {r : Http.Response} {s t : σ}

/-- Within its limit, the host gets an answer to the request for the headers of a URL. -/
def Answers (h : Host Reconciling σ) (f : SourceFile) (s : σ) (r : Http.Response) (t : σ) : Prop :=
  f.isUrl = true ∧ ∃ tls, Artifact.tlsPolicy f = .ok tls ∧
    Program.runInTime h (Http.fetch Reconciling.exchange .head tls f.path) s = (some (.ok r), t)

theorem Drift.runInTime_observe_url (ha : Answers h f s r t) :
    Program.runInTime h (Drift.observe f) s = (some (Drift.ofResponse r), t) := by
  obtain ⟨hurl, tls, htls, hfetch⟩ := ha
  have hlift := Task.runInTime_lift h (Http.fetch Reconciling.exchange .head tls f.path) s
  rw [hfetch] at hlift
  unfold Drift.observe
  rw [hurl, htls]
  refine (Task.runInTime_bind_ok (Task.runInTime_ofExcept h (.ok tls) s) _).trans ?_
  unfold Drift.observeUrl
  exact (Task.runInTime_bind_ok hlift _).trans (Task.runInTime_ofExcept h _ t)

/-- A response has a date, and it cannot be read. -/
def HasBadDate (r : Http.Response) : Prop :=
  r.headerText "last-modified" ≠ "" ∧ ∀ t, Time.HttpDate.parse (r.headerText "last-modified") ≠ .ok t

theorem Drift.ofResponse_of_badDate (hr : HasBadDate r) :
    Drift.ofResponse r = .error (.invalidDateHeader (r.headerText "last-modified")) := by
  obtain ⟨hne, hparse⟩ := hr
  have hdate : Drift.dateOfHeader (r.headerText "last-modified") =
      .error (.invalidDateHeader (r.headerText "last-modified")) := by
    unfold Drift.dateOfHeader
    rw [if_neg (by simpa using hne), Time.HttpDate.parse_eq_error_of_ne hparse]
    rfl
  unfold Drift.ofResponse
  rw [hdate]
  rfl

end

/-! ## Faults of what is observed -/

section
open Reconciler

variable {σ : Type} {h : Host Reconciling σ} {spec : Spec} {file : SourceFile} {state : State} {listing : List Listed}
  {v : VolumeId} {fault : Fault}

/-- A record of a listed file is not refreshed while its source cannot be observed. -/
theorem Sight.refresh_eq_error (hfile : spec.sourceFile = some file)
    (hlisted : ∃ entry ∈ listing, entry.volumeId = state.id) (hv : VolumeId.parse state.id = .ok v) :
    Sight.refresh spec ⟨.ok listing, .error fault⟩ state = .error fault := by
  obtain ⟨entry, hentry, hid⟩ := hlisted
  obtain ⟨found, hfind⟩ : ∃ found, listing.find? (fun entry => entry.volumeId = state.id) = some found :=
    Option.isSome_iff_exists.1 (List.find?_isSome.2 ⟨entry, hentry, decide_eq_true hid⟩)
  have hfound : found.volumeId = state.id := of_decide_eq_true (List.find?_some hfind :)
  have hobserved : Sight.observed spec ⟨.ok listing, .error fault⟩ = .error fault := by
    unfold Sight.observed
    rw [hfile]
    rfl
  unfold Sight.refresh
  simp only [bind, Except.bind, hfind, hfound, hv, hobserved]

theorem create_eq_error {tmpDir : String} {p : Placed} {s t u : σ}
    (hplace : (place tmpDir spec).runInTime h (h.setLimit spec.timeout s) = (some (.ok p), t))
    (hrefresh : (refresh spec (p.state spec)).runInTime h t = (some (.error fault), u)) :
    (create h tmpDir spec s).result = .error fault := by
  have hback : (readBack spec p).runInTime h t = (some (.error fault), u) := Task.runInTime_bind_error hrefresh _
  unfold create
  rw [hplace]
  simp only [hback]
  exact rollBack_result _ _ _ _ _

/-- A file is listed, and its source answers with a date that cannot be read. -/
structure MeetsBadDate (h : Host Reconciling σ) (spec : Spec) (id : String) (s : σ) (r : Http.Response) : Prop where
  isReadable : ∃ v, VolumeId.parse id = .ok v
  isListed : ∃ (listing : List Listed) (t : σ),
    h.answerInTime (Call.backend (.listFiles spec.nodeName spec.datastoreId)) s = (some (.ok listing), t) ∧
    (∃ entry ∈ listing, entry.volumeId = id) ∧
    ∃ file u, spec.sourceFile = some file ∧ Answers h file t r u
  hasBadDate : HasBadDate r

theorem MeetsBadDate.runInTime_refresh (state : State) {r : Http.Response} {s : σ}
    (hm : MeetsBadDate h spec state.id s r) :
    ∃ u, (refresh spec state).runInTime h s =
      (some (.error (.invalidDateHeader (r.headerText "last-modified"))), u) := by
  obtain ⟨v, hv⟩ := hm.isReadable
  obtain ⟨listing, t, hlisting, hlisted, file, u, hfile, ha⟩ := hm.isListed
  have hshows : Shows h spec s ⟨.ok listing, .error (.invalidDateHeader (r.headerText "last-modified"))⟩ := by
    refine ⟨t, hlisting, fun file' hfile' => ⟨u, ?_⟩⟩
    obtain rfl := Option.some.inj (hfile.symm.trans hfile')
    rw [Drift.runInTime_observe_url ha, Drift.ofResponse_of_badDate hm.hasBadDate]
  rw [← Sight.refresh_eq_error hfile hlisted hv]
  exact FilePlacement.runInTime_refresh hshows state

theorem MeetsBadDate.read_eq {r : Http.Response} {s : σ} (hm : MeetsBadDate h.patient spec state.id s r) :
    (read h spec state s).result = .error (.invalidDateHeader (r.headerText "last-modified")) := by
  obtain ⟨u, hu⟩ := MeetsBadDate.runInTime_refresh state hm
  rw [Program.runInTime_patient] at hu
  have hrun : (Program.run h (refresh spec state) s).1 = .error (.invalidDateHeader (r.headerText "last-modified")) :=
    Option.some.inj (congrArg Prod.fst hu)
  unfold Reconciler.read
  rcases hr : Program.run h (refresh spec state) s with ⟨next, w⟩
  rw [hr] at hrun
  obtain rfl : next = _ := hrun
  rfl

/-- **Drift of a URL is exact up to spelling.** Between two answers a change is reported just if the first one tells a
length, a date and a tag, and the second one another length, another moment or another tag; every spelling of a moment
tells that moment. A date that cannot be read is a fault of whatever observes the source, and never a change. -/
theorem head_drift_exact (h : Host Reconciling σ) :
    (∀ (f g : SourceFile) (a b : Http.Response) (d e : Headline) (s s' t t' : σ),
      Answers h f s a t → Answers h g s' b t' → d.IsToldBy a → e.IsToldBy b →
        ∃ o o' : Observation, Program.runInTime h (Drift.observe f) s = (some (.ok o), t) ∧
          Program.runInTime h (Drift.observe g) s' = (some (.ok o'), t') ∧
          (o.hasChanged o' = true ↔
            (d.length.getD 0 ≠ 0 ∧ d.date.isSome = true ∧ d.tag.getD "" ≠ "") ∧
              (d.length.getD 0 ≠ e.length.getD 0 ∨ d.date ≠ e.date ∨ d.tag.getD "" ≠ e.tag.getD ""))) ∧
    (∀ (text : String) (x : Time.Instant) (z : Time.HttpDate.Zone), Time.HttpDate.Spells text x z →
      Headline.TellsDate (some text) (some x)) ∧
    (∀ (f : SourceFile) (r : Http.Response) (s t : σ), Answers h f s r t → HasBadDate r →
      Program.runInTime h (Drift.observe f) s =
        (some (.error (.invalidDateHeader (r.headerText "last-modified"))), t)) ∧
    (∀ (spec : Spec) (state : State) (r : Http.Response) (s : σ), MeetsBadDate h.patient spec state.id s r →
      (read h spec state s).result = .error (.invalidDateHeader (r.headerText "last-modified"))) ∧
    (∀ (tmpDir : String) (spec : Spec) (p : Placed) (r : Http.Response) (s t : σ),
      (place tmpDir spec).runInTime h (h.setLimit spec.timeout s) = (some (.ok p), t) →
      MeetsBadDate h spec p.volume.format t r →
        (create h tmpDir spec s).result = .error (.invalidDateHeader (r.headerText "last-modified"))) := by
  refine ⟨fun f g a b d e s s' t t' ha hb hd he => ?_, fun text x z hx => .valid (Time.HttpDate.parse_of_spells hx),
    fun f r s t ha hr => ?_, fun spec state r s hm => hm.read_eq, fun tmpDir spec p r s t hplace hm => ?_⟩
  · refine ⟨d.observation, e.observation, ?_, ?_, Headline.hasChanged_iff hd.isProper he.isProper⟩
    · rw [Drift.runInTime_observe_url ha, Drift.ofResponse_of_told hd]
    · rw [Drift.runInTime_observe_url hb, Drift.ofResponse_of_told he]
  · rw [Drift.runInTime_observe_url ha, Drift.ofResponse_of_badDate hr]
  · obtain ⟨u, hu⟩ := MeetsBadDate.runInTime_refresh (p.state spec) hm
    exact create_eq_error hplace hu

end

namespace Memory

/-- `a.iso` of a web server. -/
def imageUrl : Url := ⟨"http", none, some (.ipv4 0x0A000001), none, .segments ["a.iso"], none, none⟩

/-- `a.iso` of a web server is to be uploaded. -/
def image : SourceFile := ⟨"http://10.0.0.1/a.iso", none, none, false, none⟩

/-- The answer with these headers. -/
def answer (headers : List (String × ByteArray)) : Http.Response := ⟨200, headers, ⟨[], true⟩⟩

/-- A store that lists these entries and has been called so, on a machine that reaches a web server, which gives this
answer. -/
def serving (entries : List Listed) (calls : List CallRecord) (headers : List (String × ByteArray)) : Memory :=
  ⟨{ World.ofTree .empty with network := ⟨some "10.0.0.1", [some (answer headers)], []⟩ },
    ⟨"local", .ok .minimum, none, [], entries⟩, [], calls⟩

theorem parse_image : Url.parse image.path = .ok imageUrl := by
  have hparse : (Url.parse image.path).toOption = some imageUrl := by decide +kernel
  exact eq_ok_of_toOption hparse

/-- `a.iso` is to be uploaded from the web server. -/
def imageSpec : Spec := ⟨"node", "local", none, some image, none, none, true, 60⟩

/-- The request for the headers of the image. -/
def imageRequest : Http.Request := ⟨.head, imageUrl, ⟨.v13, false⟩, none, none⟩

/-- The machine once the answer has been given. -/
def served (entries : List Listed) (calls : List CallRecord) : Memory :=
  ⟨{ World.ofTree .empty with network := ⟨some "10.0.0.1", [], [imageRequest]⟩ },
    ⟨"local", .ok .minimum, none, [], entries⟩, [], calls⟩

theorem answers_image (entries : List Listed) (calls : List CallRecord) (headers : List (String × ByteArray)) :
    Answers host.patient image (serving entries calls headers) (answer headers) (served entries calls) := by
  have hfollow : Program.runInTime host.patient (Http.follow Reconciling.exchange 10 imageRequest)
      (serving entries calls headers) = (some (.ok (imageUrl, answer headers)), served entries calls) := by
    unfold Http.follow
    rw [Program.runInTime_bind]
    rfl
  have hsend : Http.send Reconciling.exchange imageRequest = Http.follow Reconciling.exchange 10 imageRequest := rfl
  refine ⟨by decide, _, rfl, ?_⟩
  unfold Http.fetch
  rw [parse_image]
  refine (Program.runInTime_bind _ (Http.send Reconciling.exchange imageRequest) _ _).trans ?_
  rw [hsend, hfollow]
  rfl

/-- The headers of the image: its length, the beginning of 1970, and a tag. -/
def headers (length date tag : String) : List (String × ByteArray) :=
  [("Content-Length", length.toUTF8), ("Last-Modified", date.toUTF8), ("ETag", tag.toUTF8)]

end Memory

/-- The same image in other words has not changed, a longer one has, and one of no day at all is not read. -/
theorem head_drift_exact_image :
    ∃ o same longer : Observation,
      (Program.runInTime Memory.host.patient (Drift.observe Memory.image)
        (.serving [] [] (Memory.headers "4" "Thu, 01 Jan 1970 00:00:00 GMT" "\"v1\""))).1 = some (.ok o) ∧
      (Program.runInTime Memory.host.patient (Drift.observe Memory.image)
        (.serving [] [] (Memory.headers "4" "Wed, 31 Dec 1969 23:00:00 -0100" "W/\"v1\""))).1 = some (.ok same) ∧
      (Program.runInTime Memory.host.patient (Drift.observe Memory.image)
        (.serving [] [] (Memory.headers "5" "Thu, 01 Jan 1970 00:00:00 GMT" "\"v1\""))).1 = some (.ok longer) ∧
      o.hasChanged same = false ∧ o.hasChanged longer = true ∧
      (Reconciler.read Memory.host.patient Memory.imageSpec { State.blank with id := "local:iso/a.iso" }
        (.serving [⟨"local:iso/a.iso", "iso"⟩] [] (Memory.headers "4" "yesterday" "\"v1\""))).result =
          .error (.invalidDateHeader "yesterday") := by
  have hgmt : Time.HttpDate.parse "Thu, 01 Jan 1970 00:00:00 GMT" = .ok ⟨0, false⟩ := rfl
  have hoffset : Time.HttpDate.parse "Wed, 31 Dec 1969 23:00:00 -0100" = .ok ⟨0, false⟩ := rfl
  have hquoted : "\"" ++ "v1" ++ "\"" = "\"v1\"" := by decide
  have hweak : "W/\"" ++ "v1" ++ "\"" = "W/\"v1\"" := by decide
  have hfirst : Headline.IsToldBy ⟨some 4, some ⟨0, false⟩, some "v1"⟩
      (Memory.answer (Memory.headers "4" "Thu, 01 Jan 1970 00:00:00 GMT" "\"v1\"")) :=
    ⟨⟨some "4", Http.Response.gives_of_all (by decide +kernel) (by decide), .decimal rfl (by decide) (by decide)⟩,
      ⟨some "Thu, 01 Jan 1970 00:00:00 GMT", Http.Response.gives_of_all (by decide +kernel) (by decide), .valid hgmt⟩,
      ⟨some "\"v1\"", Http.Response.gives_of_all (by decide +kernel) (by decide), hquoted ▸ .strong (by decide)⟩⟩
  have hsame : Headline.IsToldBy ⟨some 4, some ⟨0, false⟩, some "v1"⟩
      (Memory.answer (Memory.headers "4" "Wed, 31 Dec 1969 23:00:00 -0100" "W/\"v1\"")) :=
    ⟨⟨some "4", Http.Response.gives_of_all (by decide +kernel) (by decide), .decimal rfl (by decide) (by decide)⟩,
      ⟨some "Wed, 31 Dec 1969 23:00:00 -0100", Http.Response.gives_of_all (by decide +kernel) (by decide),
        .valid hoffset⟩,
      ⟨some "W/\"v1\"", Http.Response.gives_of_all (by decide +kernel) (by decide), hweak ▸ .weak (by decide)⟩⟩
  have hlonger : Headline.IsToldBy ⟨some 5, some ⟨0, false⟩, some "v1"⟩
      (Memory.answer (Memory.headers "5" "Thu, 01 Jan 1970 00:00:00 GMT" "\"v1\"")) :=
    ⟨⟨some "5", Http.Response.gives_of_all (by decide +kernel) (by decide), .decimal rfl (by decide) (by decide)⟩,
      ⟨some "Thu, 01 Jan 1970 00:00:00 GMT", Http.Response.gives_of_all (by decide +kernel) (by decide), .valid hgmt⟩,
      ⟨some "\"v1\"", Http.Response.gives_of_all (by decide +kernel) (by decide), hquoted ▸ .strong (by decide)⟩⟩
  obtain ⟨hdrift, -, -, hread, -⟩ := head_drift_exact Memory.host.patient
  obtain ⟨o, same, ho, hs, hunchanged⟩ := hdrift _ _ _ _ _ _ _ _ _ _ (Memory.answers_image [] [] _)
    (Memory.answers_image [] [] _) hfirst hsame
  obtain ⟨o', longer, ho', hl, hchanged⟩ := hdrift _ _ _ _ _ _ _ _ _ _ (Memory.answers_image [] [] _)
    (Memory.answers_image [] [] _) hfirst hlonger
  obtain rfl : o' = o := by
    rw [ho] at ho'
    exact Except.ok.inj (Option.some.inj (Prod.mk.inj ho').1).symm
  have htext : (Memory.answer (Memory.headers "4" "yesterday" "\"v1\"")).headerText "last-modified" = "yesterday" := by
    decide +kernel
  have hrefused : Time.HttpDate.parse "yesterday" = .error (.invalidDateHeader "yesterday") := rfl
  have hbad : HasBadDate (Memory.answer (Memory.headers "4" "yesterday" "\"v1\"")) := by
    unfold HasBadDate
    rw [htext, hrefused]
    exact ⟨by decide, fun t => nofun⟩
  have hmeets : MeetsBadDate Memory.host.patient.patient Memory.imageSpec "local:iso/a.iso"
      (.serving [⟨"local:iso/a.iso", "iso"⟩] [] (Memory.headers "4" "yesterday" "\"v1\""))
      (Memory.answer (Memory.headers "4" "yesterday" "\"v1\"")) :=
    ⟨⟨_, rfl⟩, ⟨_, _, rfl, ⟨_, List.mem_singleton_self _, rfl⟩, Memory.image, _, rfl, Memory.answers_image _ _ _⟩, hbad⟩
  refine ⟨o', same, longer, congrArg Prod.fst ho, congrArg Prod.fst hs, congrArg Prod.fst hl, ?_, ?_, ?_⟩
  · exact Bool.eq_false_iff.2 fun h => absurd (hunchanged.1 h).2 (by decide)
  · exact hchanged.2 (by decide)
  · exact (hread _ { State.blank with id := "local:iso/a.iso" } _ _ hmeets).trans (by rw [htext])

end FilePlacement
