import FilePlacement.Calls
import FilePlacement.Digest
import FilePlacement.Http.Fetch
import FilePlacement.Source

/-!
# Artifacts

An artifact is a source as one local file. A local source is used in place; a download and raw
data become temporary files. A source that names a checksum has to have it. Whoever gets a
temporary artifact removes it (`Artifact.deeds`); when resolving fails or is cut off, nothing
temporary is left.
-/

namespace FilePlacement

structure Artifact where
  path : String
  fileName : String
  isTemporary : Bool
deriving DecidableEq, Repr

namespace Artifact

/-- What has to be done once the artifact is no longer needed. -/
def deeds (a : Artifact) : List LocalDeed := if a.isTemporary then [.discard a.path] else []

/-- Whether two texts are the same in upper or lower case of ASCII. -/
def sameDigits (a b : String) : Bool := a.toList.map Char.toLower == b.toList.map Char.toLower

/-- Fails unless a file has the digest that is stated for it, if one is. -/
def verify (path : String) (checksum : Option String) : Task Reconciling Unit :=
  match stated checksum with
  | none => pure ()
  | some expected => do
    let computed := Digest.sha256 (← Reconciling.contents path)
    if sameDigits computed expected then pure () else throw (.checksumMismatch computed expected)

/-- Appends pieces to a file one after the other. -/
def appendAll (path : String) : List ByteArray → Task Reconciling Unit
  | [] => pure ()
  | piece :: rest => do
    Reconciling.append path piece
    appendAll path rest

/-- Makes a temporary file and fills it; it does not outlive a failure. -/
def makeTemporary (tmpDir stem : String) (fill : String → Task Reconciling Unit) : Task Reconciling String := do
  Reconciling.makeDirectories tmpDir
  let path ← Reconciling.makeTemporary tmpDir stem
  Task.unlessOk (I := Reconciling) (LocalDeed.discard path) (fill path)
  return path

/-- What connections for a source have to fulfil. -/
def tlsPolicy (f : SourceFile) : Except Fault Http.TlsPolicy := f.minimumTls.map fun minimum => ⟨minimum, f.insecure⟩

/-- Downloads a URL into a temporary file. -/
def download (tls : Http.TlsPolicy) (url tmpDir : String) : Task Reconciling String := do
  match ← Task.lift (Http.fetch Reconciling.exchange .get tls url) with
  | .error why => throw (.downloadFailed url why)
  | .ok response =>
    makeTemporary tmpDir "download" fun path => do
      appendAll path response.body.chunks
      if response.body.complete then pure () else throw (.downloadFailed url .undecodable)

/-- So many spaces. -/
def spaces (n : Nat) : ByteArray := ⟨Array.replicate n 0x20⟩

/-- Turns a source into a local file. -/
def resolve (tmpDir : String) (source : Source) : Task Reconciling Artifact := do
  let fileName ← Task.ofExcept source.fileName
  match source with
  | .file f =>
    if f.isUrl then
      let tls ← Task.ofExcept (tlsPolicy f)
      let path ← download tls f.path tmpDir
      Task.unlessOk (I := Reconciling) (LocalDeed.discard path) (verify path f.checksum)
      return ⟨path, fileName, true⟩
    else
      verify f.path f.checksum
      return ⟨f.path, fileName, false⟩
  | .raw r =>
    let padding ← Task.ofExcept r.padding
    let path ← makeTemporary tmpDir "raw" fun path =>
      appendAll path (if padding = 0 then [r.bytes] else [r.bytes, spaces padding])
    return ⟨path, fileName, true⟩

end Artifact

end FilePlacement
