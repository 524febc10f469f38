import FilePlacement.CommandLine.Arguments
import FilePlacement.Records
import FilePlacement.Session

/-!
# Running a command

What a command does in a world, and what it says in the end. A command that works on a cluster
first reads its files, then looks at its settings; taking a file over needs no cluster at all.
-/

namespace FilePlacement

open Json

/-- An outcome as JSON: the value, and a summary for each warning. -/
def Outcome.toJson {α : Type} (write : α → Value) (o : Outcome α) : Value := .object
  [("value", write o.value), ("diagnostics", .array (o.warnings.map fun w => .object [("summary", .text w)]))]

namespace CommandLine

/-- What is taken where the arguments say nothing. -/
structure Environment where
  endpoint : Option String
  apiToken : Option String
  /-- The directory for temporary files. -/
  tmpDir : String

/-- Why a command that was understood did not succeed. -/
inductive Trouble where
  | unreadable (path : String)
  /-- A file is not the record that it has to be. -/
  | unparsable (path : String)
  | noEndpoint
  | noApiToken
  | fault (why : Fault)
deriving DecidableEq, Repr

def Trouble.message : Trouble → String
  | unreadable path => "failed to read " ++ path
  | unparsable path => "failed to parse " ++ path
  | noEndpoint => "--endpoint (or PVE_ENDPOINT) is required"
  | noApiToken => "--api-token (or PVE_API_TOKEN) is required"
  | fault why => why.message

/-- Reads a record from a file. -/
def load {α : Type} (tree : FileTree) (read : Draft → Except Flaw α) (path : String) : Except Trouble α :=
  match tree.contents path with
  | .error _ => .error (.unreadable path)
  | .ok bytes =>
    match decodeBytes read bytes with
    | .ok a => .ok a
    | .error _ => .error (.unparsable path)

/-- The cluster that the settings lead to. -/
def connection (env : Environment) (s : Settings) : Except Trouble Cluster.Connection := do
  let endpoint ← (s.endpoint.or env.endpoint).elim (.error .noEndpoint) .ok
  let apiToken ← (s.apiToken.or env.apiToken).elim (.error .noApiToken) .ok
  let nodes ← (NodeAddresses.parse s.sshNodes).mapError .fault
  let api ← (Cluster.Api.new endpoint apiToken s.insecure).mapError .fault
  let base := Cluster.StreamConfig.default
  return ⟨api, { base with
    user := s.sshUser.getD base.user, port := s.sshPort.getD base.port, identity := s.sshIdentity, nodes := nodes }⟩

/-- The end of a command: what it prints, or why it did not succeed, and the events on the way. -/
structure Ended where
  result : Except Trouble Value
  events : List AuditEvent
  world : World

/-- A command that has not reached the cluster. -/
def Ended.early (why : Trouble) (w : World) : Ended := ⟨.error why, [], w⟩

/-- The end of an operation of the reconciler. -/
def Ended.ofFinished {α : Type} (write : α → Value) (f : Finished World α) : Ended :=
  ⟨(f.result.map (Outcome.toJson write)).mapError .fault, f.events, f.host⟩

def writeOptional : Option State → Value
  | some state => state.toJson
  | none => .null

/-- A command on a desired state and a record that is there. -/
def onRecord (env : Environment) (s : Settings) (specPath statePath : String) (w : World)
    (work : Cluster.Connection → Spec → State → Ended) : Ended :=
  let loaded : Except Trouble (Cluster.Connection × Spec × State) := do
    let spec ← load w.tree Spec.ofDraft specPath
    let state ← load w.tree State.ofDraft statePath
    return (← connection env s, spec, state)
  match loaded with
  | .ok (c, spec, state) => work c spec state
  | .error why => .early why w

def perform (env : Environment) (i : Invocation) (w : World) : Ended :=
  match i.command with
  | .create specPath =>
    let loaded : Except Trouble (Cluster.Connection × Spec) := do
      let spec ← load w.tree Spec.ofDraft specPath
      return (← connection env i.settings, spec)
    match loaded with
    | .ok (c, spec) =>
      .ofFinished State.toJson (Reconciler.create (World.host c) (i.settings.tmpDir.getD env.tmpDir) spec w)
    | .error why => .early why w
  | .read specPath statePath => onRecord env i.settings specPath statePath w fun c spec state =>
    .ofFinished writeOptional (Reconciler.read (World.host c) spec state w)
  | .update specPath statePath => onRecord env i.settings specPath statePath w fun _ spec state =>
    .ofFinished State.toJson ⟨Reconciler.update spec state, [], w⟩
  | .delete specPath statePath => onRecord env i.settings specPath statePath w fun c spec state =>
    .ofFinished (fun _ => .null) (Reconciler.delete (World.host c) spec state w)
  | .importFile id => ⟨((Reconciler.importState id).map State.toJson).mapError .fault, [], w⟩

/-- What a run of the program leaves to whoever started it. -/
structure Ending where
  status : UInt32
  output : String
  /-- The lines for the standard error stream. -/
  complaints : List String

def usage : String := "usage: [options] create|read|update|delete|import [options]"

def eventLine (event : AuditEvent) : String := (if event.isError then "ERROR " else "INFO ") ++ event.message

def Ended.ending (e : Ended) : Ending :=
  let log := e.events.map eventLine
  match e.result with
  | .ok value => ⟨0, value.toPrettyText ++ "\n", log⟩
  | .error why => ⟨1, "", log ++ ["Error: " ++ why.message]⟩

/-- Runs the program: misuse ends with status 2, trouble with status 1. -/
def run (env : Environment) (args : List String) (w : World) : Ending × World :=
  match Invocation.parse args with
  | .error why => (⟨2, "", [why.message, usage]⟩, w)
  | .ok invocation =>
    let e := perform env invocation w
    (e.ending, e.world)

end CommandLine

end FilePlacement
