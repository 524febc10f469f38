import FilePlacement.Cluster.Answers
import FilePlacement.Cluster.Wire
import FilePlacement.Http.Fetch

/-!
# The web service of a cluster

An `Api` knows where the web service is and which token it takes. Every request is answered with
data, or fails: an answer with status 404, or one that says of something that it does not exist,
is `Fault.notFound`; every other unsuccessful status is a complaint of the cluster; what got no
usable answer, or one whose body is not the data asked for, has failed as a request.
-/

namespace FilePlacement.Cluster

structure Api where
  base : Url
  token : String
  insecure : Bool

namespace Api

/-- An endpoint has to be a URL whose path has segments. -/
def new (endpoint token : String) (insecure : Bool) : Except Fault Api :=
  match Url.parse endpoint with
  | .error why => .error (.backend (.invalidEndpoint endpoint (some why)))
  | .ok base => if base.isOpaque then .error (.backend (.invalidEndpoint endpoint none)) else .ok ⟨base, token, insecure⟩

/-- Where some segments are below the endpoint. -/
def url (api : Api) (segments : List String) : Url := api.base.extend (["api2", "json"] ++ segments)

def request (api : Api) (method : Http.Method) (segments : List String) (form : Option Http.Form) : Http.Request :=
  ⟨method, api.url segments, ⟨.v12, api.insecure⟩, some ("PVEAPIToken=" ++ api.token), form⟩

/-- The text of a body; one that breaks off has none. -/
def bodyText (body : Http.Body) : String := if body.complete then Text.lossy body.bytes else ""

/-- Whether an unsuccessful answer says that something is not there. -/
def saysAbsent (response : Http.Response) : Bool :=
  response.status = 404 || Text.contains "does not exist".toList (bodyText response.body).toList

/-- The data of a response. -/
def dataOf {α : Type} (what : String) (read : Json.Draft → Except Json.Flaw α) (response : Http.Response) : Except Fault α :=
  if response.status.isSuccess then
    match if response.body.complete then Json.decodeBytes (readEnvelope read) response.body.bytes else .error .truncated with
    | .ok data => .ok data
    | .error _ => .error (.requestFailed what .undecodable)
  else if saysAbsent response then .error (.notFound what)
  else .error (.backend (.refused what response.status (Text.trimmed (bodyText response.body))))

/-- Sends a request and reads the data of its answer. -/
def ask {α : Type} (request : Http.Request) (what : String) (read : Json.Draft → Except Json.Flaw α) : Task Wire α := do
  match ← Task.lift (Http.send Wire.exchange request) with
  | .error why => throw (.requestFailed what why)
  | .ok (_, response) => Task.ofExcept (dataOf what read response)

/-! ## Requests -/

def listContent (api : Api) (node storage : String) : Task Wire (List Listed) :=
  ask (api.request .get ["nodes", node, "storage", storage, "content"] none)
    ("content of datastore " ++ storage ++ " on node " ++ node) (Json.Draft.asList readListed)

def storage (api : Api) (name : String) : Task Wire Datastore :=
  ask (api.request .get ["storage", name] none) ("datastore " ++ name) readDatastore

def release (api : Api) : Task Wire Release := do
  Task.ofExcept (Release.parse (← ask (api.request .get ["version"] none) "version" readReleaseText))

def deleteContent (api : Api) (node storage volumeId : String) : Task Wire Unit :=
  ask (api.request .delete ["nodes", node, "storage", storage, "content", volumeId] none) ("file " ++ volumeId)
    (Json.Draft.checkAny Json.depthLimit)

/-- Looks at a task. -/
def taskStatus (api : Api) (node task : String) : Task Wire TaskStatus :=
  ask (api.request .get ["nodes", node, "tasks", task, "status"] none) ("task " ++ task) readTaskStatus

/-- Looks at a task at most so many times, once a second, until it has stopped. -/
def pollTask (api : Api) (node task : String) (patience : Time.Span) : Nat → Task Wire Unit
  | 0 => throw (.timeout patience)
  | looks + 1 => do
    let status ← api.taskStatus node task
    if status.isRunning then do
      Wire.pause
      api.pollTask node task patience looks
    else if status.succeeded then pure ()
    else throw (.uploadFailed (.task task status.exitStatus))

/-- The looks at a task that fit into a span. -/
def looksWithin (patience : Time.Span) : Nat := patience.milliseconds / 1000 + 1

/-- Waits until a task has stopped, for so long at most. -/
def waitForTask (api : Api) (node task : String) (patience : Time.Span) : Task Wire Unit :=
  api.pollTask node task patience (looksWithin patience)

/-- The form that uploads a file. -/
def uploadForm (upload : Upload) (bytes : ByteArray) : Http.Form :=
  ⟨"content", upload.contentType, "filename", upload.fileName, bytes⟩

/-- Uploads a file and waits for the task that puts it into its place. -/
def upload (api : Api) (node storage : String) (upload : Upload) (patience : Time.Span) : Task Wire Unit := do
  let file ← Wire.openFile upload.localPath
  let what := "upload of " ++ upload.fileName ++ " to datastore " ++ storage
  let segments := ["nodes", node, "storage", storage, "upload"]
  match file.content with
  | .error _ => throw (.requestFailed what (.unanswered (api.url segments).text))
  | .ok bytes =>
    let task ← ask (api.request .post segments (some (uploadForm upload bytes))) what Json.Draft.asText
    api.waitForTask node task patience

end Api

end FilePlacement.Cluster
