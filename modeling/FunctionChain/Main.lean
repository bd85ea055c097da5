import FunctionChain.Build.Database
import FunctionChain.Command.Run
import FunctionChain.Command.Standard
import Std.Time.DateTime.Timestamp

/-!
# The program

The command line on a real machine. The files and directories that the words and the environment name are
read into a tree, the program runs on that tree, and what it changed there is written back. Compilers and
compiled programs are scripts, which run on the tree too.
-/

namespace FunctionChain

namespace Terminal

/-- The text of bytes that come from the system or go to it. -/
def textOf (content : Bytes) : String :=
  (String.fromUTF8? ⟨(Utf8.sanitized content).toArray⟩).getD ""

/-- The current directory. -/
def here : IO Bytes := return bytes (toString (← IO.currentDir))

/-- Whether there is a directory at a path. -/
def isDirectory (path : Bytes) : IO Bool := do (← IO.FS.realPath (textOf path)).isDir

/-- Whether there is anything at a path. -/
def isThere (path : Bytes) : IO Bool := do (← IO.FS.realPath (textOf path)).pathExists

/-- Read what stands at a rooted path into a tree, to a depth. Files count as programs when they start with
the mark of a script. -/
def readInto : Nat → Bytes → Files.Tree → IO Files.Tree
  | 0, _, tree => return tree
  | depth + 1, path, tree => do
    if !(← isThere path) then return tree
    let location := Files.Tree.steps path
    if ← isDirectory path then
      let tree := tree.put location (.directory 0o755)
      (← (← IO.FS.realPath (textOf path)).readDir).foldlM
        (fun tree entry => readInto depth (Files.inside path (bytes entry.fileName)) tree) tree
    else
      let content := (← IO.FS.readBinFile (textOf path)).toList
      return tree.put location (.file (if Bytes.startsWith content (bytes "#!") then 0o755 else 0o644) content)

/-- The directories that lead to a location. -/
def ancestors (location : Files.Location) : List Files.Location :=
  (List.range location.length).map location.take

/-- How deep directories are read. -/
def depth : Nat := 8

/-- The paths that a word may name. -/
def pathsIn (word : Bytes) : List Bytes :=
  (word :: ((Bytes.cut? word (byte '=')).map (·.2)).toList).filter (!·.isEmpty)

/-- The tree of the files that words name. -/
def gather (words : List Bytes) : IO Files.Tree := do
  let current ← here
  let start : Files.Tree := { Script.installed Files.Tree.empty with here := Files.Tree.steps current }
  let start := (ancestors start.here ++ [start.here]).foldl
    (fun tree location => if location.isEmpty then tree else tree.put location (.directory 0o755)) start
  (words.flatMap pathsIn).foldlM (fun tree word => do
    let path := Path.absolute current word
    let mut tree := tree
    for location in ancestors (Files.Tree.steps path) do
      if !location.isEmpty && (tree.get? location).isNone
          && (← isDirectory (Path.ofNames true location)) then
        tree := tree.put location (.directory 0o755)
    readInto depth path tree) start

/-- Write back what differs from the tree that was read. -/
def settle (before after : Files.Tree) : IO Unit := do
  for (location, node) in before.nodes do
    if (after.get? location).isNone && !node.isDirectory then
      IO.FS.removeFile (textOf (Path.ofNames true location))
  for (location, node) in after.nodes do
    if before.get? location != some node then
      let path := textOf (Path.ofNames true location)
      match node with
      | .directory _ => IO.FS.createDirAll path
      | .file _ content => IO.FS.writeBinFile path ⟨content.toArray⟩

/-- The environment variables that matter. -/
def environment : IO (List (Bytes × Bytes)) := do
  let names := bytes "TMPDIR" :: Command.options.map (Command.variableName ·.name)
  names.filterMapM fun name => do
    return (← IO.getEnv (textOf name)).map fun value => (name, bytes value)

/-- An id for a job. -/
def freshId : IO Bytes := do
  let digits (n : Nat) : IO Bytes := return Hex.padded (← IO.rand 0 (Nat.pow 16 n - 1)) n
  return Bytes.joined (bytes "-") [← digits 8, ← digits 4, bytes "4" ++ (← digits 3),
    bytes "8" ++ (← digits 3), ← digits 12]

/-- Whether a command line reads standard input: it names no other document. -/
def readsInput (words : List Bytes) : Bool :=
  match Command.readWords words [] with
  | .task (.compile words _) _ | .task (.generate words) _ =>
    words.head?.all (· == Command.stdinWord)
  | _ => false

/-- The time on the clock. -/
def clock : IO Timestamp := do
  let seconds := (← Std.Time.Timestamp.now).toSecondsSinceUnixEpoch.val
  let epoch : Calendar.Date := ⟨1970, 1, 1⟩
  return ⟨seconds + Calendar.dayNumber epoch * Timestamp.daySeconds, 0, 0⟩

end Terminal

end FunctionChain

open FunctionChain in
/-- Run the program on the command line's words. -/
def main (arguments : List String) : IO UInt32 := do
  let words := arguments.map bytes
  let environment ← Terminal.environment
  let stdin ← if Terminal.readsInput words then
      some <$> (← IO.getStdin).readToEnd
    else pure none
  let tree ← Terminal.gather (words ++ environment.map (·.2))
  let invocation : Command.Invocation :=
    { words, environment, stdin := stdin.map bytes, isCancelled := false,
      now := ← Terminal.clock, jobId := ← Terminal.freshId }
  let (ended, after) :=
    @Command.run Build.Database.library Command.standardLibrary invocation tree
  Terminal.settle tree after
  (← IO.getStdout).write ⟨ended.stdout.toArray⟩
  (← IO.getStderr).write ⟨ended.stderr.toArray⟩
  if let some error := ended.error then
    (← IO.getStderr).write ⟨(error.text ++ [byte '\n']).toArray⟩
  return ended.exitCode.toNat.toUInt32
