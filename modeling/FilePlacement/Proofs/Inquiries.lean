import FilePlacement.Proofs.ClusterTraffic

/-!
# What a cluster is asked

An `Inquiry` is one of the things that the web service of a cluster is asked. Whatever the client makes of its
request, an inquiry comes to data, to the verdict that something is not there, to a complaint of the cluster, or to a
failed request, and which one it is depends on nothing but that answer (`settle_eq_ok_iff`, `settle_eq_notFound_iff`,
`settle_eq_backend_iff`, `settle_eq_requestFailed_iff`).

`Requested requests log` says that the exchanges of a log are those of some requests, one after the other: the request
itself first, and another exchange only behind a redirect. Without redirects these are just the requests that can be
sent (`Requested.exchanges`), and a form is sent once in any case (`Requested.posts`).
-/

namespace FilePlacement

theorem Text.contains_iff {needle s : List Char} : Text.contains needle s = true ↔ needle <:+: s := by
  induction s with
  | nil => simp [Text.contains, List.isEmpty_iff]
  | cons c r ih => simp [Text.contains, ih, List.infix_cons_iff]

namespace Http

/-- Whether a request can be put together and its URL be asked for. -/
def Request.canBeSent (r : Request) : Bool := isSendable (r.authorization.getD "") && isAskable r.withCredentials.url

theorem form_withCredentials (r : Request) : r.withCredentials.form = r.form := by
  unfold Request.withCredentials
  split <;> rfl

/-- What is posted is a form. -/
def Request.PostsForm (r : Request) : Prop := r.method = .post → r.form.isSome = true

theorem postsForm_withCredentials {r : Request} (hf : r.PostsForm) : r.withCredentials.PostsForm := by
  unfold Request.PostsForm
  rwa [method_withCredentials, form_withCredentials]

/-- Behind a redirect a form is not sent again. -/
theorem method_ne_post_of_redirected {r next : Request} {status : Status} {url : Url} (hf : r.PostsForm)
    (hr : r.redirected status url = some next) : next.method ≠ .post := by
  unfold Request.redirected at hr
  by_cases hkeeps : status.keepsMethod = true
  · simp only [hkeeps, if_true] at hr
    split at hr
    · cases hr
    · rename_i hnone
      cases hr
      exact fun hpost => hnone (hf hpost)
  · simp only [hkeeps, if_false, Bool.false_eq_true, Option.some.injEq] at hr
    subst hr
    dsimp only
    split <;> exact nofun

end Http

namespace Cluster

variable {σ : Type}

/-- What the client makes of a request: the last URL with its response, or why there is none. -/
abbrev Answer := Except Http.Failure (Url × Http.Response)

inductive Inquiry where
  | content (node storage : String)
  | datastore (name : String)
  | release
  | upload (node storage : String) (form : Http.Form)
  | task (node id : String)
  | deletion (node storage volumeId : String)

namespace Inquiry

def method : Inquiry → Http.Method
  | upload .. => .post
  | deletion .. => .delete
  | _ => .get

def segments : Inquiry → List String
  | content node storage => ["nodes", node, "storage", storage, "content"]
  | datastore name => ["storage", name]
  | release => ["version"]
  | upload node storage _ => ["nodes", node, "storage", storage, "upload"]
  | task node id => ["nodes", node, "tasks", id, "status"]
  | deletion node storage volumeId => ["nodes", node, "storage", storage, "content", volumeId]

def form : Inquiry → Option Http.Form
  | upload _ _ form => some form
  | _ => none

/-- How faults name it. -/
def what : Inquiry → String
  | content node storage => "content of datastore " ++ storage ++ " on node " ++ node
  | datastore name => "datastore " ++ name
  | release => "version"
  | upload _ storage form => "upload of " ++ form.fileName ++ " to datastore " ++ storage
  | task _ id => "task " ++ id
  | deletion _ _ volumeId => "file " ++ volumeId

/-- What is asked for. -/
def Data : Inquiry → Type
  | content .. => List Listed
  | datastore _ => Datastore
  | release | upload .. => String
  | task .. => TaskStatus
  | deletion .. => Unit

def read : (q : Inquiry) → Json.Draft → Except Json.Flaw q.Data
  | content .. => Json.Draft.asList readListed
  | datastore _ => readDatastore
  | release => readReleaseText
  | upload .. => Json.Draft.asText
  | task .. => readTaskStatus
  | deletion .. => Json.Draft.checkAny Json.depthLimit

def request (q : Inquiry) (api : Api) : Http.Request := api.request q.method q.segments q.form

def send (q : Inquiry) (api : Api) : Program Wire Answer := Http.send Wire.exchange (q.request api)

def ask (q : Inquiry) (api : Api) : Task Wire q.Data := Api.ask (q.request api) q.what q.read

/-- What an inquiry comes to. -/
def settle (q : Inquiry) : Answer → Except Fault q.Data
  | .error why => .error (.requestFailed q.what why)
  | .ok (_, response) => Api.dataOf q.what q.read response

theorem ask_eq (q : Inquiry) (api : Api) :
    q.ask api = Task.ofProgram ((q.send api).bind fun a => .done (q.settle a)) := by
  refine (Program.bind_assoc (q.send api) _ _).trans (congrArg (Program.bind (q.send api)) (funext fun a => ?_))
  cases a with
  | error why => rfl
  | ok found =>
    change Task.ofExcept (Api.dataOf q.what q.read found.2) = Program.done (Api.dataOf q.what q.read found.2)
    cases Api.dataOf q.what q.read found.2 <;> rfl

/-! ## Answers -/

section
variable {q : Inquiry} {a : Answer}

/-- The answer is a success, its body has come to its end and holds the data. -/
def Carries (q : Inquiry) (a : Answer) (data : q.Data) : Prop :=
  ∃ url response, a = .ok (url, response) ∧ response.status.isSuccess = true ∧ response.body.complete = true ∧
    Json.decodeBytes (readEnvelope q.read) response.body.bytes = .ok data

end

end Inquiry

/-- The answer is no success, and says by its status or by its text that something is not there. -/
def SaysAbsent (a : Answer) : Prop :=
  ∃ url response, a = .ok (url, response) ∧ response.status.isSuccess = false ∧
    (response.status = 404 ∨ "does not exist".toList <:+: (Api.bodyText response.body).toList)

/-- The answer is no success for another reason, with a status and a text. -/
def Refuses (a : Answer) (status : Http.Status) (text : String) : Prop :=
  ∃ url response, a = .ok (url, response) ∧ response.status.isSuccess = false ∧ ¬ SaysAbsent a ∧
    response.status = status ∧ Text.trimmed (Api.bodyText response.body) = text

/-- There is no answer, or it is a success without the data. -/
def Inquiry.Misses (q : Inquiry) (a : Answer) (why : Http.Failure) : Prop :=
  a = .error why ∨ why = .undecodable ∧ ∃ url response, a = .ok (url, response) ∧ response.status.isSuccess = true ∧
    ¬ ∃ data, q.Carries a data

theorem saysAbsent_ok_iff {url : Url} {response : Http.Response} (hs : response.status.isSuccess = false) :
    SaysAbsent (.ok (url, response)) ↔ Api.saysAbsent response = true := by
  unfold Api.saysAbsent
  rw [Bool.or_eq_true, decide_eq_true_eq, Text.contains_iff]
  constructor
  · rintro ⟨_, _, heq, -, habsent⟩
    cases heq
    exact habsent
  · exact fun habsent => ⟨url, response, rfl, hs, habsent⟩

namespace Inquiry

section
variable {q : Inquiry} {a : Answer}

/-- What an answer means to an inquiry. -/
inductive Means (q : Inquiry) (a : Answer) : Except Fault q.Data → Prop
  | data {data} (hc : q.Carries a data) : Means q a (.ok data)
  | absent (hs : SaysAbsent a) : Means q a (.error (.notFound q.what))
  | refused {status text} (hr : Refuses a status text) :
      Means q a (.error (.backend (.refused q.what status text)))
  | missed {why} (hm : q.Misses a why) : Means q a (.error (.requestFailed q.what why))

theorem means_settle (q : Inquiry) (a : Answer) : q.Means a (q.settle a) := by
  cases a with
  | error why => exact .missed (.inl rfl)
  | ok found =>
    obtain ⟨url, response⟩ := found
    simp only [settle, Api.dataOf]
    cases hs : response.status.isSuccess with
    | true =>
      simp only [if_true]
      cases hd : (if response.body.complete then Json.decodeBytes (readEnvelope q.read) response.body.bytes
          else .error .truncated) with
      | ok data =>
        cases hc : response.body.complete with
        | true =>
          simp only [hc, if_true] at hd
          exact .data ⟨url, response, rfl, hs, hc, hd⟩
        | false =>
          simp only [hc, Bool.false_eq_true, if_false, reduceCtorEq] at hd
      | error flaw =>
        refine .missed (.inr ⟨rfl, url, response, rfl, hs, ?_⟩)
        rintro ⟨data, _, _, heq, -, hc, hdata⟩
        cases heq
        simp only [hc, if_true, hdata, reduceCtorEq] at hd
    | false =>
      simp only [Bool.false_eq_true, if_false]
      cases habsent : Api.saysAbsent response with
      | true => exact .absent ((saysAbsent_ok_iff hs).2 habsent)
      | false =>
        refine .refused ⟨url, response, rfl, hs, ?_, rfl, rfl⟩
        rw [saysAbsent_ok_iff hs, habsent]
        exact Bool.false_ne_true

theorem settle_of_means {r : Except Fault q.Data} (hm : q.Means a r) : q.settle a = r := by
  cases hm with
  | data hc =>
    obtain ⟨url, response, rfl, hs, hc, hd⟩ := hc
    simp [settle, Api.dataOf, hs, hc, hd]
  | absent habsent =>
    obtain ⟨url, response, rfl, hs, -⟩ := id habsent
    rw [saysAbsent_ok_iff hs] at habsent
    simp [settle, Api.dataOf, hs, habsent]
  | refused hr =>
    obtain ⟨url, response, rfl, hs, hno, rfl, rfl⟩ := hr
    rw [saysAbsent_ok_iff hs] at hno
    simp [settle, Api.dataOf, hs, hno]
  | missed hm =>
    rcases hm with rfl | ⟨rfl, url, response, rfl, hs, hno⟩
    · rfl
    · simp only [settle, Api.dataOf, hs, if_true]
      split
      · rename_i data hd
        split at hd
        · rename_i hc
          exact absurd ⟨data, url, response, rfl, hs, hc, hd⟩ hno
        · cases hd
      · rfl

/-- An answer means one thing. -/
theorem settle_eq_iff {r : Except Fault q.Data} : q.settle a = r ↔ q.Means a r :=
  ⟨fun h => h ▸ means_settle q a, settle_of_means⟩

theorem settle_eq_ok_iff {data : q.Data} : q.settle a = .ok data ↔ q.Carries a data := by
  rw [settle_eq_iff]
  refine ⟨fun h => ?_, .data⟩
  cases h with
  | data hc => exact hc

theorem settle_eq_notFound_iff {name : String} :
    q.settle a = .error (.notFound name) ↔ name = q.what ∧ SaysAbsent a := by
  rw [settle_eq_iff]
  constructor
  · intro h
    cases h with
    | absent hs => exact ⟨rfl, hs⟩
  · rintro ⟨rfl, hs⟩
    exact .absent hs

theorem settle_eq_backend_iff {complaint : Complaint} : q.settle a = .error (.backend complaint) ↔
    ∃ status text, complaint = .refused q.what status text ∧ Refuses a status text := by
  rw [settle_eq_iff]
  constructor
  · intro h
    cases h with
    | refused hr => exact ⟨_, _, rfl, hr⟩
  · rintro ⟨status, text, rfl, hr⟩
    exact .refused hr

theorem settle_eq_requestFailed_iff {name : String} {why : Http.Failure} :
    q.settle a = .error (.requestFailed name why) ↔ name = q.what ∧ q.Misses a why := by
  rw [settle_eq_iff]
  constructor
  · intro h
    cases h with
    | missed hm => exact ⟨rfl, hm⟩
  · rintro ⟨rfl, hm⟩
    exact .missed hm

end

/-! ## Runs -/

section
variable (q : Inquiry) (wire : Host Wire σ) (api : Api) (s : σ)

/-- What the client makes of the request of an inquiry. -/
def answer : Answer := ((q.send api).run wire s).1

/-- The wire behind an inquiry. -/
def after : σ := ((q.send api).run wire s).2

theorem run_ask : Program.run wire (q.ask api) s = (q.settle (q.answer wire api s), q.after wire api s) := by
  rw [ask_eq, Task.ofProgram, Program.run_bind]
  rfl

theorem runInTime_ask : Program.runInTime wire (q.ask api) s =
    (((q.send api).runInTime wire s).1.map q.settle, ((q.send api).runInTime wire s).2) := by
  rw [ask_eq, Task.ofProgram, Program.runInTime_bind]
  rcases (q.send api).runInTime wire s with ⟨_ | a, t⟩ <;> rfl

end

end Inquiry

/-! ## The exchanges of a request -/

/-- The request of an exchange. -/
def WireCall.exchange? : WireCall → Option Http.Request
  | .exchange request => some request
  | _ => none

/-- What a request makes of a log: nothing if it cannot be sent. Otherwise the request comes first, and another
exchange only behind a redirect, where no form is posted again. -/
structure Hops (r : Http.Request) (log : List (Entry Wire σ)) : Prop where
  chain : Chain r.withCredentials log
  sent : log ≠ [] ↔ r.canBeSent = true
  once : r.PostsForm → ∀ e ∈ log.tail, WireCall.sends .post e.request = false

/-- The log has grown by an exchange, and by no other one that posts a form. -/
def Begun (r : Http.Request) (log now : List (Entry Wire σ)) : Prop :=
  ∃ e new, now = log ++ e :: new ∧ (r.PostsForm → ∀ x ∈ new, WireCall.sends .post x.request = false)

theorem asksOnly_redirected {r next : Http.Request} {status : Http.Status} {url : Url}
    (hr : r.redirected status url = some next) (left : Nat) :
    (Http.follow Wire.exchange left next).AsksOnly fun x => r.PostsForm → WireCall.sends .post x = false := by
  by_cases hf : r.PostsForm
  · have hget := Http.method_ne_post_of_redirected hf hr
    exact (avoids_follow (.inl rfl) left hget).mono fun _ hx _ => hx
  · exact (Program.asksOnly_true _).mono fun _ _ hform => absurd hform hf

theorem wp_follow_begun (h : Host Wire σ) (left : Nat) (r : Http.Request) (s : σ) (log : List (Entry Wire σ)) :
    (Http.follow Wire.exchange left r).wp h.logged (fun _ t => Begun r log t.2) (fun t => Begun r log t.2)
      (s, log) := by
  have hone : Begun r log (log ++ [.askedInTime h (WireCall.exchange r) s]) := ⟨_, [], rfl, by simp⟩
  cases left with
  | zero =>
    unfold Http.follow
    refine Program.wp_bind.2 (wp_exchange (fun reply t ht => ?_) fun t ht => hone)
    split
    · exact hone
    · split <;> exact hone
  | succ left =>
    unfold Http.follow
    refine Program.wp_bind.2 (wp_exchange (fun reply t ht => ?_) fun t ht => hone)
    split
    · exact hone
    · split
      · exact hone
      · rename_i next hnext
        obtain ⟨url, -, hnext⟩ := Option.bind_eq_some_iff.1 hnext
        have hbegun : ∀ u : σ × List (Entry Wire σ),
            Grown (fun x => r.PostsForm → WireCall.sends .post x = false)
              (log ++ [.askedInTime h (WireCall.exchange r) s]) u.2 → Begun r log u.2 := by
          rintro u ⟨new, hnow, hnew⟩
          refine ⟨.askedInTime h (WireCall.exchange r) s, new, ?_, fun hf x hx => hnew x hx hf⟩
          rw [hnow, List.append_assoc, List.singleton_append]
        exact Program.wp_mono (wp_grown h (asksOnly_redirected hnext left) (t, _)) (fun _ u hu => hbegun u hu)
          fun u hu => hbegun u hu

/-- A request makes its hops and nothing else, whatever the wire answers and when. -/
theorem wp_send_hops (h : Host Wire σ) (r : Http.Request) (s : σ × List (Entry Wire σ)) :
    (Http.send Wire.exchange r).wp h.logged (fun _ t => ∃ new, t.2 = s.2 ++ new ∧ Hops r new)
      (fun t => ∃ new, t.2 = s.2 ++ new ∧ Hops r new) s := by
  have hnone (hno : r.canBeSent = false) : ∃ new, s.2 = s.2 ++ new ∧ Hops r new := by
    refine ⟨[], (List.append_nil s.2).symm, chain_nil _, ?_, fun _ _ he => absurd he List.not_mem_nil⟩
    simp [hno]
  have hboth : ∀ t : σ × List (Entry Wire σ), r.canBeSent = true →
      Chained r.withCredentials s.2 t.2 ∧ Begun r.withCredentials s.2 t.2 → ∃ new, t.2 = s.2 ++ new ∧ Hops r new := by
    rintro t hsent ⟨⟨new, hnow, hchain⟩, e, rest, hrest, honce⟩
    obtain rfl : new = e :: rest := List.append_cancel_left (hnow.symm.trans hrest)
    refine ⟨_, hnow, hchain, ⟨fun _ => hsent, fun _ => List.cons_ne_nil e rest⟩, fun hf => ?_⟩
    exact honce (Http.postsForm_withCredentials hf)
  unfold Http.send
  cases hsendable : Http.isSendable (r.authorization.getD "") with
  | false => exact hnone (by simp [Http.Request.canBeSent, hsendable])
  | true =>
    cases haskable : Http.isAskable r.withCredentials.url with
    | false =>
      simp only [Bool.not_true, Bool.false_eq_true, if_false, haskable, Bool.not_false, if_true]
      exact hnone (by simp [Http.Request.canBeSent, haskable])
    | true =>
      have hsent : r.canBeSent = true := by simp [Http.Request.canBeSent, hsendable, haskable]
      simp only [Bool.not_true, Bool.false_eq_true, if_false, haskable]
      have hfollow := Program.wp_and (wp_follow h Http.maxRedirects r.withCredentials s.1 s.2)
        (wp_follow_begun h Http.maxRedirects r.withCredentials s.1 s.2)
      exact Program.wp_mono hfollow (fun _ t ht => hboth t hsent ht) fun t ht => hboth t hsent ht

/-! ## The requests of a log -/

/-- The exchanges of a log are those of some requests, one after the other. -/
inductive Requested : List Http.Request → List (Entry Wire σ) → Prop
  | nil : Requested [] []
  | other {requests log e} (hl : Requested requests log) (he : WireCall.exchange? e.request = none) :
      Requested requests (log ++ [e])
  | hops {requests log r new} (hl : Requested requests log) (hn : Hops r new) :
      Requested (requests ++ [r]) (log ++ new)

/-- A request that can be sent comes first, and one that cannot leaves nothing. -/
theorem Hops.first {r : Http.Request} {log : List (Entry Wire σ)} (hr : Hops r log) :
    (log = [] ∧ r.canBeSent = false) ∨
      ∃ e rest, log = e :: rest ∧ e.request = .exchange r.withCredentials ∧ r.canBeSent = true := by
  obtain ⟨⟨hfirst, -⟩, hsent, -⟩ := hr
  cases log with
  | nil => exact .inl ⟨rfl, Bool.eq_false_iff.2 fun h => absurd rfl (hsent.2 h)⟩
  | cons e rest => exact .inr ⟨e, rest, rfl, hfirst e rfl, hsent.1 (List.cons_ne_nil e rest)⟩

theorem Hops.exchange? {r : Http.Request} {log : List (Entry Wire σ)} (hr : Hops r log)
    (hdirect : ∀ e ∈ log, WireCall.redirects e.request e.reply = false) :
    log.filterMap (fun e => WireCall.exchange? e.request) = ([r].filter Http.Request.canBeSent).map (·.withCredentials) := by
  rcases hr.first with ⟨rfl, hno⟩ | ⟨e, rest, rfl, he, hyes⟩
  · simp [hno]
  · cases rest with
    | nil => simp [he, WireCall.exchange?, hyes]
    | cons d rest =>
      have hredirects := hr.1.2 e (by simp)
      rw [hdirect e List.mem_cons_self] at hredirects
      cases hredirects

/-- **Without redirects** what is exchanged are just the requests that can be sent. -/
theorem Requested.exchanges {requests : List Http.Request} {log : List (Entry Wire σ)} (hl : Requested requests log)
    (hdirect : ∀ e ∈ log, WireCall.redirects e.request e.reply = false) :
    log.filterMap (fun e => WireCall.exchange? e.request) =
      (requests.filter Http.Request.canBeSent).map (·.withCredentials) := by
  induction hl with
  | nil => rfl
  | other hl he ih =>
    rw [List.filterMap_append, ih fun x hx => hdirect x (List.mem_append_left _ hx)]
    simp [he]
  | hops hl hn ih =>
    rw [List.filterMap_append, ih fun x hx => hdirect x (List.mem_append_left _ hx),
      hn.exchange? fun x hx => hdirect x (List.mem_append_right _ hx), List.filter_append, List.map_append]

theorem Hops.posts {r : Http.Request} {log : List (Entry Wire σ)} (hr : Hops r log) (hf : r.PostsForm) :
    log.countP (fun e => WireCall.sends .post e.request) = [r].countP fun r => r.canBeSent && r.method = .post := by
  rcases hr.first with ⟨rfl, hno⟩ | ⟨e, rest, rfl, he, hyes⟩
  · simp [hno]
  · obtain ⟨-, -, honce⟩ := hr
    have hrest : rest.countP (fun e => WireCall.sends .post e.request) = 0 :=
      List.countP_eq_zero.2 fun x hx => Bool.eq_false_iff.1 (honce hf x hx)
    rw [List.countP_cons, hrest]
    simp [he, hyes, WireCall.sends, method_withCredentials]

/-- **With redirects** a form is still posted once. -/
theorem Requested.posts {requests : List Http.Request} {log : List (Entry Wire σ)} (hl : Requested requests log)
    (hf : ∀ r ∈ requests, r.PostsForm) :
    log.countP (fun e => WireCall.sends .post e.request) =
      requests.countP fun r => r.canBeSent && r.method = .post := by
  induction hl with
  | nil => rfl
  | other hl he ih =>
    rename_i e
    have hno : WireCall.sends .post e.request = false := by
      cases hrequest : e.request with
      | exchange request => rw [hrequest] at he; cases he
      | _ => rfl
    rw [List.countP_append, ih hf]
    simp [hno]
  | hops hl hn ih =>
    rw [List.countP_append, ih fun x hx => hf x (List.mem_append_left _ hx),
      hn.posts (hf _ (List.mem_append_right _ (List.mem_singleton_self _))), List.countP_append]

namespace Inquiry

variable (q : Inquiry) (api : Api)

theorem postsForm : (q.request api).PostsForm := by
  cases q <;> first | exact fun _ => rfl | exact nofun

/-- An inquiry adds its request, also where it is cut off. -/
theorem leads_ask (wire : Host Wire σ) {requests : List Http.Request} {s : σ × List (Entry Wire σ)}
    (hl : Requested requests s.2) :
    (q.ask api).Leads wire.logged (fun t => Requested (requests ++ [q.request api]) t.2) s := by
  have hgrown : ∀ t : σ × List (Entry Wire σ), (∃ new, t.2 = s.2 ++ new ∧ Hops (q.request api) new) →
      Requested (requests ++ [q.request api]) t.2 := by
    rintro t ⟨new, hnow, hnew⟩
    exact hnow ▸ hl.hops hnew
  rw [ask_eq]
  refine Program.wp_bind.2 (Program.wp_mono (wp_send_hops wire (q.request api) s) (fun a t ht => ?_) hgrown)
  cases hr : q.settle a <;> exact hgrown t ht

/-- With all the time it wants, an inquiry adds its request and comes to what its answer means. -/
theorem run_ask_logged (wire : Host Wire σ) {requests : List Http.Request} {log : List (Entry Wire σ)}
    (hl : Requested requests log) (s : σ) :
    ∃ now, Requested (requests ++ [q.request api]) now ∧
      Program.run wire.logged (q.ask api) (s, log) = (q.settle (q.answer wire api s), q.after wire api s, now) := by
  have hled := (q.leads_ask api wire.patient (s := (s, log)) hl).host fun _ _ ht => ht
  rw [patient_logged, Program.runInTime_patient] at hled
  have hrun := Program.run_agrees (logged_agrees wire) (q.ask api).run (s, log)
  rw [ExceptT.run, run_ask, Prod.mk.injEq] at hrun
  exact ⟨_, hled, Prod.ext hrun.1.symm (Prod.ext hrun.2.symm rfl)⟩

end Inquiry

/-! ## The requests of a call -/

section
variable {wire : Host Wire σ} {requests : List Http.Request} {s : σ × List (Entry Wire σ)}

/-- Who exchanges nothing adds no request. -/
theorem leads_requested {α : Type} {t : Task Wire α} (ht : t.AsksOnly fun r => WireCall.exchange? r = none)
    (hl : Requested requests s.2) : t.Leads wire.logged (fun u => Requested requests u.2) s :=
  Task.leads_of_asksOnly (h := wire.logged) (fun u => Requested requests u.2) (fun _ _ hr hu => hu.other hr)
    (fun _ _ hu => hu) ht hl

theorem leads_pollTask (api : Api) (node task : String) (patience : Time.Span) (looks : Nat)
    (hl : Requested requests s.2) :
    (api.pollTask node task patience looks).Leads wire.logged
      (fun t => ∃ n, Requested (requests ++ List.replicate n ((Inquiry.task node task).request api)) t.2) s := by
  induction looks generalizing requests s with
  | zero => exact ⟨0, by simpa using hl⟩
  | succ looks ih =>
    have hlook := (Inquiry.task node task).leads_ask api wire hl
    have hone : ∀ t : σ × List (Entry Wire σ), Requested (requests ++ [(Inquiry.task node task).request api]) t.2 →
        ∃ n, Requested (requests ++ List.replicate n ((Inquiry.task node task).request api)) t.2 :=
      fun t ht => ⟨1, ht⟩
    refine Task.wp_bind.2 (Task.wp_mono hlook (fun status t ht => ?_) (fun _ => hone) hone)
    split
    · have hpause : Task.AsksOnly (I := Wire) (fun r => WireCall.exchange? r = none) Wire.pause :=
        Task.AsksOnly.lift ⟨rfl, fun _ => trivial⟩
      refine Task.wp_bind.2 (Task.wp_mono (leads_requested hpause ht) (fun _ u hu => ?_) (fun _ => hone) hone)
      refine Task.wp_mono (ih hu) (fun _ v hv => ?_) (fun _ v hv => ?_) fun v hv => ?_ <;>
      · obtain ⟨n, hv⟩ := hv
        refine ⟨n + 1, ?_⟩
        rwa [List.append_assoc, List.singleton_append, ← List.replicate_succ] at hv
    · split
      · exact Task.wp_pure.2 (hone t ht)
      · exact Task.wp_throw.2 (hone t ht)

end

end Cluster

/-- What the cluster is asked for a call that goes through its web service with one request. -/
def BackendCall.inquiry? : BackendCall → Option Cluster.Inquiry
  | listFiles node storage => some (.content node storage)
  | datastore name => some (.datastore name)
  | release => some .release
  | deleteFile node storage volumeId => some (.deletion node storage volumeId)
  | apiUpload .. | streamUpload .. => none

namespace Cluster

section
variable {wire : Host Wire σ} {requests : List Http.Request} {s : σ × List (Entry Wire σ)}

/-- An upload opens its file, sends its form and looks at its task. -/
theorem leads_upload_of {J R : σ × List (Entry Wire σ) → Prop} (api : Api) (node storage : String) (upload : Upload)
    (patience : Time.Span) (hl : Requested requests s.2)
    (hopen : (Wire.openFile upload.localPath).wp wire.logged (fun _ t => J t) (fun _ _ => True) (fun _ => True) s)
    (hpost : ∀ form t, J t → ((Inquiry.upload node storage form).ask api).wp wire.logged (fun _ u => J u)
      (fun _ _ => True) (fun _ => True) t)
    (hnone : ∀ t, Requested requests t.2 → R t)
    (hone : ∀ form t, Requested (requests ++ [(Inquiry.upload node storage form).request api]) t.2 → R t)
    (hpoll : ∀ form task t, J t → Requested (requests ++ [(Inquiry.upload node storage form).request api]) t.2 →
      (api.pollTask node task patience (Api.looksWithin patience)).Leads wire.logged R t) :
    (api.upload node storage upload patience).Leads wire.logged R s := by
  have hquiet : Task.AsksOnly (I := Wire) (fun r => WireCall.exchange? r = none) (Wire.openFile upload.localPath) :=
    Task.AsksOnly.ofIo ⟨rfl, fun _ => trivial⟩
  refine Task.wp_bind.2 (Task.wp_mono (Task.wp_and (leads_requested hquiet hl) hopen) (fun file t ht => ?_)
    (fun _ t ht => hnone t ht.1) fun t ht => hnone t ht.1)
  cases file.content with
  | error e => exact Task.wp_throw.2 (hnone t ht.1)
  | ok bytes =>
    have hposted := (Inquiry.upload node storage (Api.uploadForm upload bytes)).leads_ask api wire ht.1
    refine Task.wp_bind.2 (Task.wp_mono (Task.wp_and hposted (hpost _ t ht.2)) (fun task u hu => ?_)
      (fun _ u hu => hone _ u hu.1) fun u hu => hone _ u hu.1)
    exact hpoll _ task u hu.2 hu.1

theorem leads_upload (api : Api) (node storage : String) (upload : Upload) (patience : Time.Span)
    (hl : Requested requests s.2) :
    (api.upload node storage upload patience).Leads wire.logged
      (fun t => ∃ qs : List Inquiry, Requested (requests ++ qs.map (·.request api)) t.2) s := by
  have htrue {α : Type} (t : Task Wire α) (u : σ × List (Entry Wire σ)) :
      t.wp wire.logged (fun _ _ => True) (fun _ _ => True) (fun _ => True) u :=
    Task.wp_of_asksOnly (fun _ => True) (fun _ _ _ _ => trivial) (fun _ _ _ => trivial) (Program.asksOnly_true t.run)
      trivial
  refine leads_upload_of (J := fun _ => True) api node storage upload patience hl (htrue _ _) (fun _ _ _ => htrue _ _)
    (fun t ht => ⟨[], by simpa using ht⟩) (fun form t ht => ⟨[_], ht⟩) fun form task t _ ht => ?_
  refine Task.wp_mono (leads_pollTask api node task patience (Api.looksWithin patience) ht) (fun _ v hv => ?_)
    (fun _ v hv => ?_) fun v hv => ?_ <;>
  · obtain ⟨n, hv⟩ := hv
    refine ⟨.upload node storage form :: List.replicate n (.task node task), ?_⟩
    simpa using hv

theorem leads_serve (c : Connection) (patience : Time.Span) {call : BackendCall}
    (hcall : ∀ node datastore upload, call ≠ .apiUpload node datastore upload) (hl : Requested requests s.2) :
    (c.serve patience call).Leads wire.logged
      (fun t => Requested (requests ++ call.inquiry?.toList.map (·.request c.api)) t.2) s := by
  cases call with
  | listFiles node datastore => exact (Inquiry.content node datastore).leads_ask c.api wire hl
  | datastore name => exact (Inquiry.datastore name).leads_ask c.api wire hl
  | deleteFile node datastore id => exact (Inquiry.deletion node datastore id).leads_ask c.api wire hl
  | release =>
    refine Task.wp_bind.2 (Task.wp_mono (Inquiry.release.leads_ask c.api wire hl) (fun text t ht => ?_)
      (fun _ _ ht => ht) fun _ ht => ht)
    exact Task.wp_ofExcept.2 ⟨fun _ _ => ht, fun _ _ => ht⟩
  | apiUpload node datastore upload => exact absurd rfl (hcall node datastore upload)
  | streamUpload node path upload =>
    have hquiet : (c.stream.upload node path upload).AsksOnly fun r => WireCall.exchange? r = none :=
      StreamConfig.asksOnly_upload (fun _ => rfl) (fun _ => rfl) (fun _ _ => rfl) c.stream node path upload
    rw [← List.append_nil requests] at hl
    exact leads_requested hquiet hl

/-- Whatever a call exchanges are the requests of inquiries. -/
theorem leads_inquiries (c : Connection) (patience : Time.Span) (call : BackendCall) (hl : Requested requests s.2) :
    (c.serve patience call).Leads wire.logged
      (fun t => ∃ qs : List Inquiry, Requested (requests ++ qs.map (·.request c.api)) t.2) s := by
  by_cases hcall : ∃ node datastore upload, call = .apiUpload node datastore upload
  · obtain ⟨node, datastore, upload, rfl⟩ := hcall
    exact leads_upload c.api node datastore upload patience hl
  · have hother : ∀ node datastore upload, call ≠ .apiUpload node datastore upload :=
      fun node datastore upload heq => hcall ⟨node, datastore, upload, heq⟩
    have hled : (c.serve patience call).Leads wire.logged _ s := leads_serve c patience hother hl
    exact Task.wp_mono hled (fun _ t ht => ⟨_, ht⟩) (fun _ t ht => ⟨_, ht⟩) fun t ht => ⟨_, ht⟩

end

end Cluster

end FilePlacement
