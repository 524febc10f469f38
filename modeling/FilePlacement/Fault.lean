import FilePlacement.Files.IoError
import FilePlacement.Http.Failure
import FilePlacement.Time.Span
import FilePlacement.Url.Invalid

/-!
# Faults

Everything that can stop an operation, by cause. `Fault.kind` tells a caller whether trying again
can help, `Fault.message` is the one place where the causes get their words.
-/

namespace FilePlacement

/-- What a caller can do about a fault. -/
inductive FaultKind where
  /-- The desired state has to change. -/
  | configuration
  /-- The source is not what its checksum promises. -/
  | integrity
  /-- The name is taken and must not be overwritten. -/
  | collision
  /-- Something on the way failed; a later attempt may succeed. -/
  | transport
  | notFound
deriving DecidableEq, Repr

/-- The two written forms of an identity. -/
inductive IdentityForm where
  | volume
  /-- A volume with its node in front. -/
  | onNode
deriving DecidableEq, Repr

def IdentityForm.pattern : IdentityForm → String
  | .volume => "datastore_id:content_type/file_name"
  | .onNode => "node/datastore_id:content_type/file_name"

/-- What the cluster, or a text that is about the cluster, gets wrong. -/
inductive Complaint where
  | invalidRelease (text : String)
  | invalidEndpoint (text : String) (why : Option Url.Invalid)
  /-- The cluster answered a request with an unsuccessful status. -/
  | refused (what : String) (status : Http.Status) (answer : String)
  | other (text : String)
deriving DecidableEq, Repr

def Complaint.message : Complaint → String
  | .invalidRelease text => "invalid version \"" ++ text ++ "\""
  | .invalidEndpoint text none => "invalid endpoint \"" ++ text ++ "\""
  | .invalidEndpoint text (some why) => "invalid endpoint \"" ++ text ++ "\": " ++ why.message
  | .refused what status answer => what ++ ": " ++ status.description ++ " " ++ answer
  | .other text => text

/-- Why an upload that was under way did not succeed. -/
inductive UploadFailure where
  | noClientCommand
  /-- The client program for a node ended unsuccessfully and left this text. -/
  | client (node stderr : String)
  /-- The upload's task stopped with another status than success. -/
  | task (id : String) (exitStatus : Option String)
  | other (text : String)
deriving DecidableEq, Repr

def UploadFailure.message : UploadFailure → String
  | .noClientCommand => "no ssh command configured"
  | .client node stderr => "ssh upload to node " ++ node ++ " failed: " ++ stderr
  | .task id exitStatus => "task " ++ id ++ " failed: " ++ exitStatus.getD "unknown exit status"
  | .other text => text

inductive Fault where
  | malformedIdentity (input : String) (expected : IdentityForm)
  | conflictingSource
  | missingSource
  | unresolvableFileName (source : String)
  | unknownContentKind (name : String)
  | undeterminedContentKind (fileName : String)
  | invalidTlsVersion (text : String)
  | invalidNodeAddress (text : String)
  | invalidFileMode (text : String)
  | resizeTooSmall (size target : Nat)
  | checksumMismatch (computed expected : String)
  | alreadyExists (volume : String)
  | downloadFailed (url : String) (why : Http.Failure)
  | metadataFailed (url : String) (why : Http.Failure)
  | invalidDateHeader (value : String)
  | noDestinationPath (datastore : String)
  | uploadFailed (why : UploadFailure)
  | timeout (limit : Time.Span)
  | readBackFailed (volume : String)
  | notFound (what : String)
  | requestFailed (what : String) (why : Http.Failure)
  | backend (why : Complaint)
  | io (why : IoError)
deriving DecidableEq, Repr

namespace Fault

def kind : Fault → FaultKind
  | malformedIdentity .. | conflictingSource | missingSource | unresolvableFileName _ | unknownContentKind _
  | undeterminedContentKind _ | invalidTlsVersion _ | invalidNodeAddress _ | invalidFileMode _ | resizeTooSmall ..
  | noDestinationPath _ => .configuration
  | checksumMismatch .. => .integrity
  | alreadyExists _ => .collision
  | notFound _ => .notFound
  | downloadFailed .. | metadataFailed .. | invalidDateHeader _ | uploadFailed _ | timeout _ | readBackFailed _
  | requestFailed .. | backend _ | io _ => .transport

def message : Fault → String
  | malformedIdentity input expected => "unexpected format of ID (" ++ input ++ "), expected " ++ expected.pattern
  | conflictingSource => "please specify \"source_file.path\" or \"source_raw\" - not both"
  | missingSource => "missing argument \"source_file.path\" or \"source_raw\""
  | unresolvableFileName source => "failed to determine file name from the source \"" ++ source ++ "\""
  | unknownContentKind name =>
    "unknown content type \"" ++ name ++ "\", must be one of: backup, images, import, iso, snippets, vztmpl"
  | undeterminedContentKind fileName =>
    "cannot determine the content type of source \"" ++ fileName
      ++ "\" - please manually define the \"content_type\" argument"
  | invalidTlsVersion text =>
    "unsupported minimum TLS version \"" ++ text ++ "\", supported values: 1.0|1.1|1.2|1.3"
  | invalidNodeAddress text => "invalid node address \"" ++ text ++ "\", expected <node>=<address>"
  | invalidFileMode text =>
    "invalid file mode \"" ++ text ++ "\", expected an octal value such as \"0700\" or \"600\""
  | resizeTooSmall size target =>
    "cannot resize " ++ Text.decimal size ++ " bytes to " ++ Text.decimal target ++ " bytes"
  | checksumMismatch computed expected =>
    "the calculated SHA256 checksum \"" ++ computed ++ "\" does not match source checksum \"" ++ expected ++ "\""
  | alreadyExists volume => "file \"" ++ volume ++ "\" already exists"
  | downloadFailed url why => "failed to download \"" ++ url ++ "\": " ++ why.message
  | metadataFailed url why => "failed to HEAD \"" ++ url ++ "\": " ++ why.message
  | invalidDateHeader value => "failed to parse Last-Modified header \"" ++ value ++ "\""
  | noDestinationPath datastore => "failed to determine the path of datastore \"" ++ datastore ++ "\""
  | uploadFailed why => "upload failed: " ++ why.message
  | timeout limit => "operation timed out after " ++ limit.text
  | readBackFailed volume => "failed to read file from \"" ++ volume ++ "\""
  | notFound what => what ++ " does not exist"
  | requestFailed what why => "backend request for " ++ what ++ " failed: " ++ why.message
  | backend why => "backend request failed: " ++ why.message
  | io why => "I/O error: " ++ why.message

end Fault

end FilePlacement
