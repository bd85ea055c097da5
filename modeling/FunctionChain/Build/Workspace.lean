import FunctionChain.Files.Action

/-!
# Workspaces

Every job works in a directory of its own, which holds the source file and the artifact. Its name has
the job's id and a number that makes it new.
-/

namespace FunctionChain

namespace Build

open Files (Action)

/-- The directory of one job. -/
structure Workspace where
  path : Bytes
deriving Repr, DecidableEq

namespace Workspace

/-- The name of the source file. -/
def sourceName : Bytes := bytes "program.cpp"

/-- The name of the artifact. -/
def artifactName : Bytes := bytes "program"

/-- The source file. -/
def sourcePath (workspace : Workspace) : Bytes := Path.join [workspace.path, sourceName]

/-- The artifact. -/
def artifactPath (workspace : Workspace) : Bytes := Path.join [workspace.path, artifactName]

/-- Make a workspace below a root directory, or below `temporary` when none is named. -/
def create (temporary root jobId : Bytes) : Action Workspace := do
  let root := Path.absolute (← get).herePath (if root.isEmpty then temporary else root)
  (Files.makeDirectories root 0o755).labelled (bytes "creating workspace root")
  let path ← (Files.makeTemporaryDirectory root (bytes "job-" ++ jobId ++ bytes "-")).labelled
    (bytes "creating workspace")
  return ⟨path⟩

/-- Write the source file. -/
def writeSource (workspace : Workspace) (source : Bytes) : Action Unit :=
  Files.replaceFile workspace.sourcePath source 0o644

/-- Take away the workspace and all in it. -/
def remove (workspace : Workspace) : Action Unit :=
  if workspace.path.isEmpty then pure () else Files.removeAll workspace.path

end Workspace

end Build

end FunctionChain
