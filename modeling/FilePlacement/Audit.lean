import FilePlacement.Text.Quoted

/-!
# Audit events

What a reconciler did to the files of a datastore, as events that say so in one line each and name
the objects that they are about.
-/

namespace FilePlacement

/-- How an upload gets to its datastore. -/
inductive Transport where
  /-- The upload service of the cluster. -/
  | api
  /-- A stream into the directory on a node. -/
  | stream
deriving DecidableEq, Repr

def Transport.name : Transport → String
  | api => "api"
  | stream => "stream"

inductive AuditEvent where
  | uploaded (node volume : String) (transport : Transport)
  | overwritten (node volume : String)
  | deleted (node volume : String)
  /-- What a failed attempt had uploaded is gone again. -/
  | rolledBack (node volume : String)
  | uploadFailed (node fileName reason : String)
deriving DecidableEq, Repr

namespace AuditEvent

def isError : AuditEvent → Bool
  | uploadFailed .. => true
  | _ => false

def message : AuditEvent → String
  | uploaded _ volume transport => "File '" ++ volume ++ "' uploaded via " ++ transport.name
  | overwritten _ volume => "Existing file '" ++ volume ++ "' overwritten"
  | deleted _ volume => "File '" ++ volume ++ "' deleted"
  | rolledBack _ volume => "File '" ++ volume ++ "' removed after failed create"
  | uploadFailed _ fileName reason => "Upload of '" ++ fileName ++ "' failed: " ++ reason

/-- The node and the volume or file name. -/
def objects : AuditEvent → List String
  | uploaded node volume _ | overwritten node volume | deleted node volume | rolledBack node volume => [node, volume]
  | uploadFailed node fileName _ => [node, fileName]

end AuditEvent

end FilePlacement
