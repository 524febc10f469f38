import FilePlacement.Cluster.Backend
import FilePlacement.Proofs.Course

/-!
# What goes over the wire

A log of the wire says what the calls of a reconciler come to at a cluster (`Connection.traced`); what is run
with it is what is run without it (`traced_agrees`).

Only the upload service is sent a `POST` and only deleting sends a `DELETE` (`avoids_serve`), also behind
redirects. One request makes a chain of exchanges: the request itself is the first one, and every exchange but
the last is answered by a redirect (`wp_follow`).
-/

namespace FilePlacement

/-! ## Logs of a program -/

theorem Program.run_agrees {I : Interface} {α σ τ : Type} {h : Host I σ} {k : Host I τ} {f : σ → τ} (ha : h.Agrees k f)
    (p : Program I α) (s : σ) : p.run k (f s) = ((p.run h s).1, f (p.run h s).2) := by
  induction p generalizing s with
  | done a => rfl
  | ask r due next ih => simp only [run, ha.answer]; exact ih _ _
  | act d next ih => simp only [run, ha.act]; exact ih _

/-- The log has grown by requests that satisfy `P`. -/
def Grown {I : Interface} {σ : Type} (P : I.Request → Prop) (log now : List (Entry I σ)) : Prop :=
  ∃ new, now = log ++ new ∧ ∀ e ∈ new, P e.request

section
variable {I : Interface} {α σ : Type} {P : I.Request → Prop} {log now later : List (Entry I σ)}

theorem Grown.refl (P : I.Request → Prop) (log : List (Entry I σ)) : Grown P log log :=
  ⟨[], (List.append_nil log).symm, by simp⟩

theorem Grown.trans (hnow : Grown P log now) (hlater : Grown P now later) : Grown P log later := by
  obtain ⟨new, rfl, hnew⟩ := hnow
  obtain ⟨more, rfl, hmore⟩ := hlater
  exact ⟨new ++ more, List.append_assoc .., fun e he => (List.mem_append.1 he).elim (hnew e) (hmore e)⟩

theorem Grown.entry {e : Entry I σ} (he : P e.request) : Grown P log (log ++ [e]) :=
  ⟨[e], rfl, by simpa using he⟩

/-- What a program asks for is what its log grows by. -/
theorem wp_grown (h : Host I σ) {p : Program I α} (hp : p.AsksOnly P) (s : σ × List (Entry I σ)) :
    p.wp h.logged (fun _ t => Grown P s.2 t.2) (fun t => Grown P s.2 t.2) s :=
  Program.wp_of_asksOnly (h := h.logged) (fun t => Grown P s.2 t.2) (fun _ _ hr ht => ht.trans (.entry hr))
    (fun _ _ ht => ht) hp (.refl P s.2)

theorem grown_runInTime (h : Host I σ) {p : Program I α} (hp : p.AsksOnly P) (s : σ × List (Entry I σ)) :
    Grown P s.2 (p.runInTime h.logged s).2.2 :=
  Program.of_runInTime (h := h.logged) (R := fun t => Grown P s.2 t.2) (wp_grown h hp s) fun _ _ ht => ht

/-- The log of a host that never reaches its limit is that of a run without one. -/
theorem grown_run (h : Host I σ) {p : Program I α} (hp : p.AsksOnly P) (s : σ × List (Entry I σ)) :
    Grown P s.2 (p.run h.logged s).2.2 := by
  have hgrown := grown_runInTime h.patient hp s
  rwa [patient_logged, Program.runInTime_patient] at hgrown

/-- Entries that grow a log, one after the other, grow it. -/
theorem Linked.grown {J : Interface} {τ : Type} {h : Host J τ} {v : τ → List (Entry I σ)} {s t : τ}
    {entries : List (Entry J τ)} (hl : Linked h v s entries t)
    (hgrown : ∀ e ∈ entries, e.Genuine h → Grown P (v e.before) (v e.after)) : Grown P (v s) (v t) := by
  induction entries generalizing s with
  | nil => exact hl ▸ .refl P (v s)
  | cons e entries ih =>
    obtain ⟨hs, hg, hrest⟩ := hl
    rw [hs]
    exact (hgrown e List.mem_cons_self hg).trans (ih hrest fun x hx => hgrown x (List.mem_cons_of_mem e hx))

end

/-! ## Methods -/

namespace Http

/-- A redirect leaves the method or makes it one that only reads. -/
theorem method_of_redirected {r next : Request} {status : Status} {url : Url}
    (hr : r.redirected status url = some next) : next.method = r.method ∨ next.method = .head ∨ next.method = .get := by
  unfold Request.redirected at hr
  by_cases hkeeps : status.keepsMethod = true
  · simp only [hkeeps, if_true] at hr
    split at hr
    · cases hr
    · cases hr
      exact .inl rfl
  · simp only [hkeeps, if_false, Bool.false_eq_true, Option.some.injEq] at hr
    subst hr
    dsimp only
    split
    · exact .inr (.inl rfl)
    · exact .inr (.inr rfl)

theorem isRedirect_of_location? {response : Response} {url next : Url} (h : response.location? url = some next) :
    response.status.isRedirect = true := by
  unfold Response.location? at h
  split at h
  · assumption
  · cases h

end Http

namespace Cluster

variable {σ α : Type} {m : Http.Method}

/-- Sends a request by a method. -/
def WireCall.sends (m : Http.Method) : WireCall → Bool
  | .exchange request => request.method = m
  | _ => false

/-- A task that sends no request by a method. -/
def Avoids (m : Http.Method) (t : Task Wire α) : Prop := t.AsksOnly fun r => WireCall.sends m r = false

section
variable (hm : m = .post ∨ m = .delete)

include hm

theorem avoids_follow (left : Nat) {request : Http.Request} (hr : request.method ≠ m) :
    (Http.follow Wire.exchange left request).AsksOnly fun r => WireCall.sends m r = false := by
  have hsends {r : Http.Request} (hr : r.method ≠ m) : WireCall.sends m (.exchange r) = false := decide_eq_false hr
  induction left generalizing request with
  | zero =>
    unfold Http.follow
    refine Program.AsksOnly.bind ⟨hsends hr, fun _ => trivial⟩ fun reply => ?_
    split
    · trivial
    · split <;> trivial
  | succ left ih =>
    unfold Http.follow
    refine Program.AsksOnly.bind ⟨hsends hr, fun _ => trivial⟩ fun reply => ?_
    split
    · trivial
    · split
      · trivial
      · rename_i next hnext
        obtain ⟨url, -, hnext⟩ := Option.bind_eq_some_iff.1 hnext
        refine ih ?_
        rcases Http.method_of_redirected hnext with h | h | h
        · exact h ▸ hr
        · rcases hm with rfl | rfl <;> simp [h]
        · rcases hm with rfl | rfl <;> simp [h]

/-- A request is a chain of exchanges, whatever it asks for. -/
theorem avoids_ask {request : Http.Request} (hr : request.method ≠ m) (what : String)
    (read : Json.Draft → Except Json.Flaw α) : Avoids m (Api.ask request what read) := by
  unfold Api.ask
  refine Task.AsksOnly.bind (Task.AsksOnly.lift ?_) fun r => ?_
  · unfold Http.send
    split
    · trivial
    · dsimp only
      split
      · trivial
      · exact avoids_follow hm _ (by rwa [method_withCredentials])
  · split
    · exact Task.asksOnly_throw _
    · exact Task.asksOnly_ofExcept _

theorem avoids_get {api : Api} (segments : List String) (what : String) (read : Json.Draft → Except Json.Flaw α) :
    Avoids m (Api.ask (api.request .get segments none) what read) :=
  avoids_ask hm (by rcases hm with rfl | rfl <;> exact nofun) what read

theorem avoids_pollTask (api : Api) (node task : String) (patience : Time.Span) (looks : Nat) :
    Avoids m (api.pollTask node task patience looks) := by
  induction looks with
  | zero => exact Task.asksOnly_throw _
  | succ looks ih =>
    refine Task.AsksOnly.bind (avoids_get hm _ _ _) fun status => ?_
    split
    · exact Task.AsksOnly.bind (Task.AsksOnly.lift ⟨rfl, fun _ => trivial⟩) fun _ => ih
    · split
      · exact Task.asksOnly_pure _
      · exact Task.asksOnly_throw _

end

end Cluster

/-- The method by which a call changes something through the web service. -/
def BackendCall.method? : BackendCall → Option Http.Method
  | apiUpload .. => some .post
  | deleteFile .. => some .delete
  | _ => none

def Call.method? : Call → Option Http.Method
  | backend call => call.method?
  | here _ => none

namespace Cluster

variable {σ α : Type} {m : Http.Method}

/-- An upload through the client program starts it, opens a file and feeds it. -/
theorem StreamConfig.asksOnly_upload {P : WireCall → Prop} (hstart : ∀ command, P (.startClient command))
    (hopen : ∀ path, P (.openFile path)) (hfeed : ∀ command file, P (.feedClient command file)) (stream : StreamConfig)
    (node path : String) (upload : Upload) : (stream.upload node path upload).AsksOnly P := by
  unfold StreamConfig.upload
  split
  · exact Task.asksOnly_throw _
  · refine Task.AsksOnly.bind (Task.AsksOnly.ofIo ⟨hstart _, fun _ => trivial⟩) fun _ => ?_
    refine Task.AsksOnly.bind (Task.AsksOnly.unlessOk (Task.AsksOnly.ofIo ?_) _) fun file => ?_
    · exact ⟨hopen _, fun _ => trivial⟩
    · refine Task.AsksOnly.bind (Task.AsksOnly.lift (Program.AsksOnly.holding ?_ _)) fun e => ?_
      · exact ⟨hfeed _ _, fun _ => trivial⟩
      · exact Task.asksOnly_ofExcept _

theorem Connection.avoids_serve (c : Connection) (hm : m = .post ∨ m = .delete) {call : BackendCall}
    (hcall : call.method? ≠ some m) (patience : Time.Span) : Avoids m (c.serve patience call) := by
  cases call with
  | listFiles node datastore => exact avoids_get hm _ _ _
  | datastore name => exact avoids_get hm _ _ _
  | release => exact Task.AsksOnly.bind (avoids_get hm _ _ _) fun _ => Task.asksOnly_ofExcept _
  | deleteFile node datastore id => exact avoids_ask hm (fun h => hcall (congrArg some h)) _ _
  | apiUpload node datastore upload =>
    refine Task.AsksOnly.bind (Task.AsksOnly.ofIo ⟨rfl, fun _ => trivial⟩) fun file => ?_
    dsimp only
    split
    · exact Task.asksOnly_throw _
    · refine Task.AsksOnly.bind (avoids_ask hm (fun h => hcall (congrArg some h)) _ _) fun task => ?_
      exact avoids_pollTask hm _ _ _ _ _
  | streamUpload node path upload =>
    exact StreamConfig.asksOnly_upload (fun _ => rfl) (fun _ => rfl) (fun _ _ => rfl) c.stream node path upload

/-! ## Chains of exchanges -/

/-- A request that was answered by a redirect. -/
def WireCall.redirects : (r : WireCall) → Option r.Reply → Bool
  | .exchange _, some (some response) => response.status.isRedirect
  | _, _ => false

/-- The exchanges of a request, if there are any: the request itself first, and another one only behind a redirect. -/
def Chain (request : Http.Request) (log : List (Entry Wire σ)) : Prop :=
  (∀ e, log.head? = some e → e.request = .exchange request) ∧
    ∀ e ∈ log.dropLast, WireCall.redirects e.request e.reply = true

theorem chain_nil (request : Http.Request) : Chain request ([] : List (Entry Wire σ)) := by simp [Chain]

theorem chain_singleton {request : Http.Request} {e : Entry Wire σ} (he : e.request = .exchange request) :
    Chain request [e] := ⟨fun _ h => (Option.some.inj h) ▸ he, by simp⟩

theorem Chain.cons {request next : Http.Request} {e : Entry Wire σ} {log : List (Entry Wire σ)}
    (he : e.request = .exchange request) (hredirects : WireCall.redirects e.request e.reply = true)
    (hlog : Chain next log) : Chain request (e :: log) := by
  refine ⟨fun _ h => (Option.some.inj h) ▸ he, fun x hx => ?_⟩
  cases log with
  | nil => cases hx
  | cons d log =>
    rcases List.mem_cons.1 hx with rfl | hx
    · exact hredirects
    · exact hlog.2 x hx

/-- The log has grown by the exchanges of a request. -/
def Chained (request : Http.Request) (log now : List (Entry Wire σ)) : Prop :=
  ∃ new, now = log ++ new ∧ Chain request new

theorem chained_singleton (h : Host Wire σ) (request : Http.Request) (s : σ) (log : List (Entry Wire σ)) :
    Chained request log (log ++ [.askedInTime h (WireCall.exchange request) s]) := ⟨_, rfl, chain_singleton rfl⟩

theorem Chained.cons {request next : Http.Request} {e : Entry Wire σ} {log now : List (Entry Wire σ)}
    (he : e.request = .exchange request) (hredirects : WireCall.redirects e.request e.reply = true)
    (hnow : Chained next (log ++ [e]) now) : Chained request log now := by
  obtain ⟨new, rfl, hnew⟩ := hnow
  exact ⟨e :: new, by simp, hnew.cons he hredirects⟩

/-- With a log there is one more entry after an exchange. -/
theorem wp_exchange {h : Host Wire σ} {request : Http.Request} {s : σ} {log : List (Entry Wire σ)}
    {Q : Option Http.Response → σ × List (Entry Wire σ) → Prop} {C : σ × List (Entry Wire σ) → Prop}
    (hQ : ∀ reply t, h.answerInTime (WireCall.exchange request) s = (some reply, t) →
      Q reply (t, log ++ [.askedInTime h (WireCall.exchange request) s]))
    (hC : ∀ t, h.answerInTime (WireCall.exchange request) s = (none, t) →
      C (t, log ++ [.askedInTime h (WireCall.exchange request) s])) :
    (Wire.exchange request).wp h.logged Q C (s, log) := by
  refine Program.wp_ask.2 ⟨fun reply t ht => ?_, fun t ht => ?_⟩ <;>
    simp only [Host.logged, Prod.mk.injEq] at ht <;> obtain ⟨hreply, rfl⟩ := ht
  · exact hQ reply _ (Prod.ext hreply rfl)
  · exact hC _ (Prod.ext hreply rfl)

/-- Following redirects is a chain of exchanges. -/
theorem wp_follow (h : Host Wire σ) (left : Nat) (request : Http.Request) (s : σ) (log : List (Entry Wire σ)) :
    (Http.follow Wire.exchange left request).wp h.logged
      (fun _ t => Chained request log t.2) (fun t => Chained request log t.2) (s, log) := by
  induction left generalizing request s log with
  | zero =>
    unfold Http.follow
    refine Program.wp_bind.2 (wp_exchange (fun reply t ht => ?_) fun t ht => chained_singleton h request s log)
    split
    · exact chained_singleton h request s log
    · split <;> exact chained_singleton h request s log
  | succ left ih =>
    unfold Http.follow
    refine Program.wp_bind.2 (wp_exchange (fun reply t ht => ?_) fun t ht => chained_singleton h request s log)
    split
    · exact chained_singleton h request s log
    · rename_i response
      split
      · exact chained_singleton h request s log
      · rename_i next hnext
        obtain ⟨url, hurl, -⟩ := Option.bind_eq_some_iff.1 hnext
        have hredirects : WireCall.redirects (.exchange request)
            (h.answerInTime (WireCall.exchange request) s).1 = true := by
          rw [ht]
          exact Http.isRedirect_of_location? hurl
        refine Program.wp_mono (ih next t _) ?_ ?_
        · exact fun _ u hu => hu.cons rfl hredirects
        · exact fun u hu => hu.cons rfl hredirects

/-- Whatever can be sent is sent with the credentials of its URL. -/
theorem wp_send (h : Host Wire σ) (request : Http.Request) (s : σ × List (Entry Wire σ)) :
    (Http.send Wire.exchange request).wp h.logged (fun _ t => Chained request.withCredentials s.2 t.2)
      (fun t => Chained request.withCredentials s.2 t.2) s := by
  have hnone : Chained request.withCredentials s.2 s.2 := ⟨[], (List.append_nil s.2).symm, chain_nil _⟩
  unfold Http.send
  split
  · exact hnone
  · dsimp only
    split
    · exact hnone
    · exact wp_follow h _ _ s.1 s.2

theorem wp_ask_chained (h : Host Wire σ) (request : Http.Request) (what : String)
    (read : Json.Draft → Except Json.Flaw α) (s : σ × List (Entry Wire σ)) :
    (Api.ask request what read).wp h.logged (fun _ t => Chained request.withCredentials s.2 t.2)
      (fun _ t => Chained request.withCredentials s.2 t.2) (fun t => Chained request.withCredentials s.2 t.2) s := by
  unfold Api.ask
  refine Task.wp_bind.2 (Task.wp_lift.2 (Program.wp_mono (wp_send h request s) (fun r t ht => ?_) fun _ ht => ht))
  split
  · exact ht
  · exact Task.wp_ofExcept.2 ⟨fun _ _ => ht, fun _ _ => ht⟩

/-- A request is a chain of exchanges, whatever it comes to. -/
theorem chained_ask (h : Host Wire σ) (request : Http.Request) (what : String)
    (read : Json.Draft → Except Json.Flaw α) (s : σ × List (Entry Wire σ)) :
    Chained request.withCredentials s.2 (Program.runInTime h.logged (Api.ask request what read) s).2.2 := by
  refine Program.of_runInTime (h := h.logged) (R := fun t => Chained request.withCredentials s.2 t.2) ?_
    fun _ _ ht => ht
  refine Program.wp_mono (wp_ask_chained h request what read s) (fun r t ht => ?_) fun _ ht => ht
  cases r <;> exact ht

/-! ## Traces -/

/-- A cluster reached through some wire, with a log of what goes over it, and local surroundings of the same state. -/
def Connection.traced (c : Connection) (wire : Host Wire σ) (here : Host Surroundings σ) (patience : σ → Time.Span) :
    Host Reconciling (σ × List (Entry Wire σ)) :=
  Host.join (c.host wire.logged fun t => patience t.1) (here.zoom Prod.fst fun t s => (s, t.2))

theorem traced_agrees (c : Connection) (wire : Host Wire σ) (here : Host Surroundings σ) (patience : σ → Time.Span) :
    (c.traced wire here patience).Agrees (Host.join (c.host wire patience) here) Prod.fst where
  answer r s := by
    cases r with
    | backend call => exact Program.run_agrees (logged_agrees wire) _ s
    | here call => rfl
  answerInTime r s := by
    cases r with
    | backend call => exact Program.runInTime_agrees (logged_agrees wire) _ s
    | here call => rfl
  act _ _ := rfl
  setLimit _ _ := rfl

section
variable {c : Connection} {wire : Host Wire σ} {here : Host Surroundings σ} {patience : σ → Time.Span}

/-- What is sent for a request of a reconciler. -/
theorem grown_entry {e : Entry Reconciling (σ × List (Entry Wire σ))} (hg : e.Genuine (c.traced wire here patience))
    (hm : m = .post ∨ m = .delete) (hcall : e.call.method? ≠ some m) :
    Grown (fun r => WireCall.sends m r = false) e.before.2 e.after.2 := by
  obtain ⟨r, reply, before, after⟩ := e
  cases r with
  | here call => rcases hg with hg | hg <;> rw [hg] <;> exact .refl _ _
  | backend call =>
    have hserve := c.avoids_serve hm hcall (patience before.1)
    rcases hg with hg | hg <;> rw [hg]
    · exact grown_runInTime wire hserve before
    · exact grown_run wire hserve before

end

end Cluster

end FilePlacement
