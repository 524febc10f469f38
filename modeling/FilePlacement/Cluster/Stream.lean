import FilePlacement.Backend
import FilePlacement.Cluster.Wire
import FilePlacement.NodeAddresses
import FilePlacement.Shell.Word
import FilePlacement.Text.Blank
import FilePlacement.Text.Utf8

/-!
# Streaming to a node

A streamed upload starts a client program that runs a script on the node and feeds it the file:
the script makes the directory, writes its input to the file, and sets the mode if one is asked
for. The upload has succeeded if the file could be opened, all of it was written to the client,
and the client ended successfully.
-/

namespace FilePlacement.Cluster

structure StreamConfig where
  /-- The client program and its first arguments. -/
  command : List String
  user : String
  port : UInt16
  identity : Option String
  nodes : NodeAddresses

namespace StreamConfig

def default : StreamConfig := ⟨["ssh"], "root", 22, none, .empty⟩

/-- A path name without the slashes at its end. -/
def withoutSlashes (path : String) : String := String.ofList (Text.dropTrailing (· = '/') path.toList)

/-- The directory of an upload. -/
def directoryOf (path : String) (upload : Upload) : String := withoutSlashes path ++ "/" ++ upload.contentType

/-- The file of an upload. -/
def destinationOf (path : String) (upload : Upload) : String := directoryOf path upload ++ "/" ++ upload.fileName

/-- The script that a node runs for an upload. -/
def script (path : String) (upload : Upload) : String :=
  "mkdir -p " ++ Shell.quoted (directoryOf path upload) ++ " && cat > " ++ Shell.quoted (destinationOf path upload)
    ++ match upload.mode with
      | some mode => " && chmod " ++ mode.format ++ " " ++ Shell.quoted (destinationOf path upload)
      | none => ""

/-- The arguments of the client behind those of the configuration. -/
def clientArguments (config : StreamConfig) (node script : String) : List String :=
  ["-o", "BatchMode=yes", "-p", Text.decimal config.port.toNat]
    ++ (match config.identity with | some file => ["-i", file] | none => [])
    ++ [config.user ++ "@" ++ config.nodes.address node, script]

/-- What the end of a client says about an upload. -/
def verdict (node : String) (e : ClientEnd) : Except Fault Unit :=
  if !e.success then .error (.uploadFailed (.client node (Text.trimmed (Text.lossy e.stderr))))
  else match e.copied with
    | .ok () => .ok ()
    | .error why => .error (.io why)

/-- Streams a file to a node. The client is started before the file is opened. -/
def upload (config : StreamConfig) (node path : String) (upload : Upload) : Task Wire Unit :=
  match config.command with
  | [] => throw (.uploadFailed .noClientCommand)
  | program :: leading => do
    let command := program :: leading ++ config.clientArguments node (script path upload)
    Wire.startClient command
    let file ← Task.unlessOk (I := Wire) WireDeed.killClient (Wire.openFile upload.localPath)
    let e ← Task.lift (Program.holding (I := Wire) WireDeed.killClient (Wire.feedClient command file))
    Task.ofExcept (verdict node e)

end StreamConfig

end FilePlacement.Cluster
