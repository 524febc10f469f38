import FilePlacement.Http.Message

/-!
# Networks

A network in which at most one server listens. It answers the requests that reach it from a script,
one response each; nothing else answers at all.
-/

namespace FilePlacement.Http

structure Network where
  /-- Host and port of the server that listens, if there is one. -/
  server : Option String
  /-- The responses that are left; none where the server closes without answering. -/
  script : List (Option Response)
  /-- The requests that have reached the server. -/
  seen : List Request

namespace Network

/-- Nobody listens. -/
def silent : Network := ⟨none, [], []⟩

/-- The response of a server that has nothing left to say. -/
def outOfScript : Response := ⟨500, [], ⟨["no scripted response".toUTF8], true⟩⟩

/-- Whether a request reaches the server, which speaks no TLS. -/
def reaches (n : Network) (request : Request) : Bool :=
  request.url.scheme = "http" && n.server = some request.url.authority

def exchange (n : Network) (request : Request) : Option Response × Network :=
  if n.reaches request then
    match n.script with
    | [] => (some outOfScript, { n with seen := n.seen ++ [request] })
    | r :: rest => (r, { n with script := rest, seen := n.seen ++ [request] })
  else (none, n)

end Network

end FilePlacement.Http
