import FilePlacement.Cluster.Api
import FilePlacement.Cluster.Stream

/-!
# A cluster as a backend

How a cluster answers the calls of a reconciler: all of them through its web service but streamed
uploads, which go through the client program.
-/

namespace FilePlacement.Cluster

structure Connection where
  api : Api
  stream : StreamConfig

namespace Connection

/-- The program behind a call. Tasks of the cluster are waited for with the patience given. -/
def serve (c : Connection) (patience : Time.Span) : (call : BackendCall) → Task Wire call.Result
  | .listFiles node datastore => c.api.listContent node datastore
  | .datastore name => c.api.storage name
  | .release => c.api.release
  | .apiUpload node datastore upload => c.api.upload node datastore upload patience
  | .streamUpload node path upload => c.stream.upload node path upload
  | .deleteFile node datastore volumeId => c.api.deleteContent node datastore volumeId

/-- A backend that reaches a cluster through some wire. How long tasks are waited for, the state of
the wire says. -/
def host {σ : Type} (c : Connection) (wire : Host Wire σ) (patience : σ → Time.Span) : Host Storage σ where
  answer call s := Program.run wire (c.serve (patience s) call) s
  answerInTime call s := Program.runInTime wire (c.serve (patience s) call) s
  act d _ := nomatch d
  setLimit := wire.setLimit

end Connection

end FilePlacement.Cluster
