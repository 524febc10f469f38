import FilePlacement.Files.Tree
import FilePlacement.Http.Message
import FilePlacement.Program

/-!
# What reaching a cluster asks for

The requests behind a call to a real cluster: exchanges with its web service, the local file of an
upload, pauses between looks at a task, and a client program that is fed the file.
-/

namespace FilePlacement.Cluster

/-- How a client program ended. -/
structure ClientEnd where
  /-- Whether all of the file could be read and written to the client. -/
  copied : Except IoError Unit
  success : Bool
  stderr : ByteArray

inductive WireCall where
  | exchange (request : Http.Request)
  | openFile (path : String)
  /-- Lets the second between two looks at a task pass. -/
  | pause
  /-- Starts a program with its arguments. -/
  | startClient (command : List String)
  /-- Copies an open file to the program that has been started, and waits for its end. -/
  | feedClient (command : List String) (file : FileTree.Opened)

def WireCall.Reply : WireCall → Type
  | exchange _ => Option Http.Response
  | openFile _ => Except IoError FileTree.Opened
  | pause => Unit
  | startClient _ => Except IoError Unit
  | feedClient .. => ClientEnd

inductive WireDeed where
  /-- Ends the program that has been started. -/
  | killClient
deriving DecidableEq, Repr

def Wire : Interface where
  Request := WireCall
  Reply := WireCall.Reply
  Deed := WireDeed

namespace Wire

def exchange (request : Http.Request) : Program Wire (Option Http.Response) :=
  Program.request (I := Wire) (.exchange request)

def openFile (path : String) : Task Wire FileTree.Opened := Task.ofIo (Program.request (I := Wire) (.openFile path))

def pause : Task Wire Unit := Task.lift (Program.request (I := Wire) .pause)

def startClient (command : List String) : Task Wire Unit :=
  Task.ofIo (Program.request (I := Wire) (.startClient command))

def feedClient (command : List String) (file : FileTree.Opened) : Program Wire ClientEnd :=
  Program.request (I := Wire) (.feedClient command file)

end Wire

end FilePlacement.Cluster
