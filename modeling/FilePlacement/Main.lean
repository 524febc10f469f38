import FilePlacement.CommandLine.Run

/-!
# The program

Takes the files that the command names, runs the command on them, and prints what it says. There is
no network here: a cluster that a command asks for is out of reach.
-/

open FilePlacement

/-- A file tree with the files that the arguments name. -/
def namedFiles (args : List String) : IO FileTree := do
  let paths : List String := match CommandLine.Invocation.parse args with
    | .ok invocation => invocation.command.paths
    | .error _ => []
  let mut tree := FileTree.empty
  for path in paths do
    try
      let bytes ← IO.FS.readBinFile path
      tree := tree.supply path ⟨bytes, tree.now, FileTree.defaultMode⟩
    catch _ => pure ()
  return tree

def main (args : List String) : IO UInt32 := do
  let environment : CommandLine.Environment :=
    ⟨← IO.getEnv "PVE_ENDPOINT", ← IO.getEnv "PVE_API_TOKEN", (← IO.getEnv "TMPDIR").getD "/tmp"⟩
  let (ending, _) := CommandLine.run environment args (World.ofTree (← namedFiles args))
  IO.print ending.output
  for line in ending.complaints do
    IO.eprintln line
  return ending.status
