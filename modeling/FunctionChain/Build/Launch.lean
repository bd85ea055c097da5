import FunctionChain.Script.Run

/-!
# Launching programs

Starting a program file and waiting for it. A program can be started when it is a file with the right
to execute it that is either a program of the system or a script for one. Its time may be bounded: a program
whose time is up is stopped, and what it has done to files until then stays done.
-/

namespace FunctionChain

namespace Build

namespace Launch

/-- A program to start. -/
structure Request where
  /-- A path, or a name to look up. -/
  command : Bytes
  arguments : List Bytes
  /-- The directory in which it runs. -/
  directory : Bytes
  /-- The variables it sees, each as a name, an equals sign and a value. -/
  environment : List Bytes

/-- What became of a program. -/
inductive Outcome where
  | completed (exitCode : Int) (stdout stderr : Bytes)
  | notStarted
  | interrupted
deriving Repr, DecidableEq

/-- The directories in which names are looked up. -/
def searchPath : List Bytes := bytes "/usr/local/bin" :: Script.systemDirectories

/-- The path of a command: itself when it is one, else the first place where its name is found. -/
def find? (tree : Files.Tree) (command : Bytes) : Option Bytes :=
  if command.contains Path.slash then some command
  else if command.isEmpty then none
  else (searchPath.map fun directory => Files.inside directory command).find? (Script.isProgramAt tree)

/-- Whether a command can be found and may be executed. -/
def isAvailable (tree : Files.Tree) (command : Bytes) : Bool :=
  match find? tree command with
  | some path => Script.isProgramAt tree path
  | none => false

/-- The time it takes to start a program. -/
def startup : Nat := Duration.millisecond

/-- What a run of the shell amounts to. -/
def outcomeOf (ending : Script.Ending) (state : Script.State) : Outcome :=
  match ending with
  | .exited status => .completed status state.outputText state.errorText
  | .killed => .completed (-1) state.outputText state.errorText
  | .late => .interrupted

/-- Start a program and wait for it, in bounded time if there is a limit. Files stay where they are,
and so does the directory in which paths are read. -/
def run (request : Request) (limit : Option Nat) (tree : Files.Tree) : Outcome × Files.Tree :=
  if limit.any (· < startup) then (.interrupted, tree)
  else match find? tree request.command, tree.locate request.directory with
    | some path, .ok location =>
      let inside := { tree with here := location }
      let bindings := request.environment.filterMap fun text => Bytes.cut? text (byte '=')
      let state := Script.State.start inside path request.arguments bindings limit
      if !tree.isDirectory request.directory then (.notStarted, tree)
      else match Script.startOf inside path request.arguments with
        | .ok start =>
          let (ending, after) := Script.execute state start
          (outcomeOf ending after, { after.tree with here := tree.here })
        | .error _ => (.notStarted, tree)
    | _, _ => (.notStarted, tree)

end Launch

end Build

end FunctionChain
