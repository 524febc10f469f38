import FilePlacement.Artifact
import FilePlacement.Time.HttpDate

/-!
# Observing sources

What can be told about a source without reading it. A local file is known by its size and the time
of its last change, a URL by what its server tells about it. A local file that is not there is
observed as unknown.
-/

namespace FilePlacement.Drift

/-- The hexadecimal digits of a number of 64 bits, negative ones in two's complement. -/
def hexadecimal64 (n : Int) : String := Text.hexadecimal (BitVec.ofInt 64 n).toNat

/-- A local file as it is observed. -/
def ofStat (s : FileStat) : Observation :=
  ⟨(Time.Instant.ofUnix s.changed.seconds).rfc3339, Int64.ofInt s.size,
    hexadecimal64 s.changed.seconds ++ "-" ++ hexadecimal64 s.size⟩

def observeLocal (path : String) : Task Reconciling Observation := do
  match ← Task.lift (Reconciling.stat path) with
  | .ok s => return ofStat s
  | .error .notFound => return .unknown
  | .error e => throw (.io e)

/-- The length that a header tells; zero if it tells none. -/
def lengthOfHeader (value : String) : Int64 :=
  match Text.ofSigned? (Text.trim value.toList) with
  | some n => if Int64.minValue.toInt ≤ n && n ≤ Int64.maxValue.toInt then Int64.ofInt n else 0
  | none => 0

/-- The date that a header tells; empty if there is no header. -/
def dateOfHeader (value : String) : Except Fault String :=
  if value.isEmpty then .ok "" else (Time.HttpDate.parse value).map Time.Instant.rfc3339

/-- What stands between the first two quotes of a header. -/
def tagOfHeader (value : String) : String :=
  match Text.pieces '"' value.toList with
  | _ :: tag :: _ => String.ofList tag
  | _ => ""

/-- A URL as it is observed in the response to a HEAD request. -/
def ofResponse (r : Http.Response) : Except Fault Observation := do
  let size := lengthOfHeader (r.headerText "content-length")
  let date ← dateOfHeader (r.headerText "last-modified")
  return ⟨date, size, tagOfHeader (r.headerText "etag")⟩

def observeUrl (tls : Http.TlsPolicy) (url : String) : Task Reconciling Observation := do
  match ← Task.lift (Http.fetch Reconciling.exchange .head tls url) with
  | .error why => throw (.metadataFailed url why)
  | .ok response => Task.ofExcept (ofResponse response)

/-- Observes a source. -/
def observe (f : SourceFile) : Task Reconciling Observation :=
  if f.isUrl then do
    let tls ← Task.ofExcept (Artifact.tlsPolicy f)
    observeUrl tls f.path
  else observeLocal f.path

end FilePlacement.Drift
