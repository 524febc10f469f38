import FilePlacement.Fault
import FilePlacement.Text.Pieces

/-!
# Volume identities

Every file on a datastore is known by `datastore:directory/name`. An identity that is to be
imported has its node in front: `node/datastore:directory/name`. A text is cut at the first colon
and then at the first slash, so the name may hold both delimiters and the middle part colons;
reading refuses an empty part.
-/

namespace FilePlacement

structure VolumeId where
  datastore : String
  /-- The middle part, the name of a content kind where the cluster wrote it. -/
  contentType : String
  fileName : String
deriving DecidableEq, Repr

namespace VolumeId

/-- The written form. -/
def format (v : VolumeId) : String := v.datastore ++ ":" ++ v.contentType ++ "/" ++ v.fileName

/-- The three parts of a written identity. -/
def split? (id : List Char) : Option (List Char × List Char × List Char) :=
  match Text.cutProper ':' id with
  | none => none
  | some (datastore, rest) => (Text.cutProper '/' rest).map fun (kind, name) => (datastore, kind, name)

def parse (id : String) : Except Fault VolumeId :=
  match split? id.toList with
  | some (datastore, kind, name) => .ok ⟨String.ofList datastore, String.ofList kind, String.ofList name⟩
  | none => .error (.malformedIdentity id .volume)

/-- Reads an identity that has its node in front. -/
def parseOnNode (id : String) : Except Fault (String × VolumeId) :=
  match Text.cutProper '/' id.toList with
  | some (node, rest) => (parse (String.ofList rest)).map fun v => (String.ofList node, v)
  | none => .error (.malformedIdentity id .onNode)

end VolumeId

end FilePlacement
