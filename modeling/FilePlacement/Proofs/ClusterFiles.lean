import FilePlacement.Cluster.Backend
import FilePlacement.Proofs.Program

/-!
# The files that a cluster is reached from

A cluster is reached through its web service and, for a streamed upload, through a client program. So no
other call than a streamed upload can do anything to the local files that the client program would have to do
(`host_keeps`).
-/

namespace FilePlacement

namespace Http

variable {I : Interface} {P : I.Request → Prop} {exchange : Request → Program I (Option Response)}
  (hx : ∀ r, (exchange r).AsksOnly P)

include hx

theorem asksOnly_follow (left : Nat) (request : Request) : (follow exchange left request).AsksOnly P := by
  induction left generalizing request with
  | zero =>
    unfold follow
    refine (hx request).bind fun reply => ?_
    split
    · trivial
    · split <;> trivial
  | succ left ih =>
    unfold follow
    refine (hx request).bind fun reply => ?_
    split
    · trivial
    · split
      · trivial
      · exact ih _

theorem asksOnly_send (request : Request) : (send exchange request).AsksOnly P := by
  unfold send
  split
  · trivial
  · dsimp only
    split
    · trivial
    · exact asksOnly_follow hx _ _

end Http

/-- A view that neither what a program asks for nor a deed changes is the same after it. -/
theorem Program.runInTime_keeps {I : Interface} {α β σ : Type} {h : Host I σ} {v : σ → β} {P : I.Request → Prop}
    (hask : ∀ r s, P r → v (h.answerInTime r s).2 = v s) (hact : ∀ d s, v (h.act d s) = v s) {p : Program I α}
    (hp : p.AsksOnly P) (s : σ) : v (p.runInTime h s).2 = v s := by
  have hw := Program.wp_of_asksOnly (h := h) (s := s) (fun t => v t = v s)
    (fun r t hr ht => (hask r t hr).trans ht) (fun d t ht => (hact d t).trans ht) hp rfl
  rcases hr : p.runInTime h s with ⟨_ | a, t⟩
  · exact Program.of_runInTime_none (C := fun t => v t = v s) hw (fun d t ht => (hact d t).trans ht) hr
  · exact Program.of_runInTime_some (Q := fun _ t => v t = v s) hw hr

namespace Cluster

/-- A request to the client program. -/
def WireCall.isClient : WireCall → Bool
  | .startClient _ | .feedClient .. => true
  | _ => false

/-- A task that leaves the client program alone. -/
def NoClient {α : Type} (t : Task Wire α) : Prop := t.AsksOnly fun r => WireCall.isClient r = false

theorem asksOnly_exchange (r : Http.Request) : (Wire.exchange r).AsksOnly fun r => WireCall.isClient r = false :=
  ⟨rfl, fun _ => trivial⟩

namespace Api

variable {α : Type} {api : Api}

theorem noClient_ask (request : Http.Request) (what : String) (read : Json.Draft → Except Json.Flaw α) :
    NoClient (ask request what read) := by
  unfold ask
  refine Task.AsksOnly.bind (Task.AsksOnly.lift (Http.asksOnly_send asksOnly_exchange request)) fun r => ?_
  split
  · exact Task.asksOnly_throw _
  · exact Task.asksOnly_ofExcept _

theorem noClient_pollTask (node task : String) (patience : Time.Span) (looks : Nat) :
    NoClient (api.pollTask node task patience looks) := by
  induction looks with
  | zero => exact Task.asksOnly_throw _
  | succ looks ih =>
    refine Task.AsksOnly.bind (noClient_ask _ _ _) fun status => ?_
    split
    · exact Task.AsksOnly.bind (Task.AsksOnly.lift ⟨rfl, fun _ => trivial⟩) fun _ => ih
    · split
      · exact Task.asksOnly_pure _
      · exact Task.asksOnly_throw _

theorem noClient_upload (node storage : String) (upload : Upload) (patience : Time.Span) :
    NoClient (api.upload node storage upload patience) := by
  unfold Api.upload
  refine Task.AsksOnly.bind (Task.AsksOnly.ofIo ⟨rfl, fun _ => trivial⟩) fun file => ?_
  dsimp only
  split
  · exact Task.asksOnly_throw _
  · exact Task.AsksOnly.bind (noClient_ask _ _ _) fun task => noClient_pollTask _ _ _ _

end Api

namespace Connection

theorem noClient_serve (c : Connection) (patience : Time.Span) {call : BackendCall}
    (hcall : ∀ node path upload, call ≠ .streamUpload node path upload) : NoClient (c.serve patience call) := by
  cases call with
  | streamUpload node path upload => exact absurd rfl (hcall node path upload)
  | apiUpload node datastore upload => exact Api.noClient_upload _ _ _ _
  | release => exact Task.AsksOnly.bind (Api.noClient_ask _ _ _) fun _ => Task.asksOnly_ofExcept _
  | _ => exact Api.noClient_ask _ _ _

/-- What only the client program changes, no other call than a streamed upload changes. -/
theorem host_keeps {σ β : Type} (c : Connection) {wire : Host Wire σ} {v : σ → β}
    (hwire : ∀ r s, WireCall.isClient r = false →
      v (wire.answer r s).2 = v s ∧ v (wire.answerInTime r s).2 = v s)
    (hact : ∀ d s, v (wire.act d s) = v s) (patience : σ → Time.Span) {call : BackendCall}
    (hcall : ∀ node path upload, call ≠ .streamUpload node path upload) (s : σ) :
    v ((c.host wire patience).answer call s).2 = v s ∧ v ((c.host wire patience).answerInTime call s).2 = v s := by
  have hserve := noClient_serve c (patience s) hcall
  have hrun := Program.runInTime_keeps (h := wire.patient) (fun r s hr => (hwire r s hr).1) hact hserve s
  rw [Program.runInTime_patient] at hrun
  exact ⟨hrun, Program.runInTime_keeps (fun r s hr => (hwire r s hr).2) hact hserve s⟩

end Connection

end Cluster

end FilePlacement
