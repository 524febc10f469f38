import FilePlacement.Files.PathName
import FilePlacement.Spec
import FilePlacement.Tls
import FilePlacement.Url.Basic

/-!
# Sources

Where the bytes of a file come from: a local file, a URL, or the desired state itself. Everything
here is decided without touching a file or the network: which source is meant (`Spec.source`), the
name that it gives the file (`Source.fileName`), and whether it can be used at all
(`Source.validate`).
-/

namespace FilePlacement

/-- Exactly one source. -/
inductive Source where
  | file (f : SourceFile)
  | raw (r : SourceRaw)
deriving DecidableEq, Repr

/-- Whether a path is the URL of a web server. -/
def isWebUrl (path : String) : Bool := "http://".toList.isPrefixOf path.toList || "https://".toList.isPrefixOf path.toList

namespace SourceFile

def isUrl (f : SourceFile) : Bool := isWebUrl f.path

/-- The oldest version of TLS that this source may be fetched over. -/
def minimumTls (f : SourceFile) : Except Fault TlsVersion := TlsVersion.parseMinimum (f.minTls.getD "")

/-- The name that the path itself gives the file: the last segment of a URL, the last component of
a local path. -/
def ownName? (f : SourceFile) : Option String :=
  if f.isUrl then
    match Url.parse f.path with
    | .ok u => stated u.lastSegment?
    | .error _ => none
  else (PathName.fileName? f.path.toList).map String.ofList

end SourceFile

namespace SourceRaw

/-- The bytes of the data, as UTF-8. -/
def bytes (r : SourceRaw) : ByteArray := r.data.toUTF8

/-- How many spaces follow the data. Data is never cut, and asking for no more bytes than there are
is an error. -/
def padding (r : SourceRaw) : Except Fault Nat :=
  if r.resize = 0 then .ok 0
  else if r.resize.toNat ≤ r.bytes.size then .error (.resizeTooSmall r.bytes.size r.resize.toNat)
  else .ok (r.resize.toNat - r.bytes.size)

end SourceRaw

namespace Source

/-- The name under which the file is stored. -/
def fileName : Source → Except Fault String
  | .file f =>
    match stated f.fileName with
    | some name => .ok name
    | none =>
      match f.ownName? with
      | some name => .ok name
      | none => .error (.unresolvableFileName f.path)
  | .raw r => if r.fileName.isEmpty then .error (.unresolvableFileName "source_raw") else .ok r.fileName

/-- Checks everything that can be checked without touching anything. -/
def validate (s : Source) : Except Fault Unit := do
  let _ ← s.fileName
  match s with
  | .file f => let _ ← f.minimumTls
  | .raw r => let _ ← r.padding

end Source

/-- The one source that a desired state has to have. -/
def sourceOf (file : Option SourceFile) (raw : Option SourceRaw) : Except Fault Source :=
  match file, raw with
  | some _, some _ => .error .conflictingSource
  | some f, none => .ok (.file f)
  | none, some r => .ok (.raw r)
  | none, none => .error .missingSource

def Spec.source (spec : Spec) : Except Fault Source := sourceOf spec.sourceFile spec.sourceRaw

end FilePlacement
