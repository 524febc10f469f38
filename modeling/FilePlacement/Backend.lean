import FilePlacement.FileMode
import FilePlacement.Program
import FilePlacement.Release

/-!
# Storage backends

The calls by which a reconciler works on a storage cluster, whatever answers them.
-/

namespace FilePlacement

/-- One entry of the listing of a datastore. -/
structure Listed where
  volumeId : String
  contentType : String
deriving DecidableEq, Repr

/-- What is known of a datastore. -/
structure Datastore where
  name : String
  /-- Where the nodes see its files, if it has files. -/
  path : Option String
  /-- The names of the content kinds that it is meant for. -/
  content : List String
deriving DecidableEq, Repr

/-- A local file that is to be placed on a datastore. -/
structure Upload where
  /-- The content kind for the cluster's upload service, the directory for a streamed upload. -/
  contentType : String
  fileName : String
  localPath : String
  mode : Option FileMode
deriving DecidableEq

inductive BackendCall where
  | listFiles (node datastore : String)
  | datastore (name : String)
  | release
  | apiUpload (node datastore : String) (upload : Upload)
  | streamUpload (node path : String) (upload : Upload)
  /-- Fails with `Fault.notFound` if there is no such volume. -/
  | deleteFile (node datastore volumeId : String)
deriving DecidableEq

/-- What a call gives when it succeeds. -/
def BackendCall.Result : BackendCall → Type
  | listFiles .. => List Listed
  | datastore _ => Datastore
  | release => Release
  | apiUpload .. | streamUpload .. | deleteFile .. => Unit

def Storage : Interface where
  Request := BackendCall
  Reply call := Except Fault call.Result
  Deed := Empty

end FilePlacement
