import FunctionChain.Files.Action
import FunctionChain.Script.Signal
import FunctionChain.Script.Syntax
import FunctionChain.Time.Duration

/-!
# Running scripts: state

What a running script has in hand: the file tree, its parameters and variables, what it may still
read, where its output goes, and how much time has passed. A script ends by reaching its end, by an
exit, by a signal, or when its time is up.

A script may ask to be stopped at the first command that fails, and at the first use of a variable
that has no value. It may also leave commands to be run at its end or when a signal comes, and commands
that run beside it, for which it waits at its end.
-/

namespace FunctionChain

namespace Script

/-- Where output goes. -/
inductive Channel where
  | output
  | errors
  | nowhere
  | file (location : Files.Location)
deriving Repr, DecidableEq

/-- Why no further command is run. -/
inductive Halt where
  | exited (status : Nat)
  | returned (status : Nat)
  /-- Leave some loops, or go on with the next round of the last of them. -/
  | leaving (loops : Nat) (again : Bool)
  | killed (signal : Nat)
  /-- The time is up. -/
  | late
deriving Repr, DecidableEq

/-- Something that is written at some time: whether it is an error, and the text. -/
structure Event where
  time : Nat
  isError : Bool
  text : Bytes

/-- A command that runs beside the script. -/
structure Job where
  /-- The number under which it runs. -/
  number : Nat
  /-- When it is done. -/
  time : Nat
  status : Nat
  /-- What it is still to write, the earliest first. -/
  events : List Event

/-- How a script has asked to be run. -/
structure Manner where
  /-- Whether a command that fails stops the script. -/
  stopsAtFailure : Bool
  /-- Whether a variable without a value stops the script. -/
  stopsAtMissing : Bool
  /-- Whether commands are shown before they are run. -/
  showsCommands : Bool
  /-- Whether patterns stand for themselves. -/
  keepsPatterns : Bool
deriving Repr, DecidableEq

/-- A running script. -/
structure State where
  tree : Files.Tree
  /-- The name by which the script was started. -/
  name : Bytes
  arguments : List Bytes
  bindings : List (Bytes × Bytes)
  /-- The variables that other programs see. -/
  exported : List Bytes
  /-- The variables that keep their values. -/
  constants : List Bytes
  functions : List (Bytes × Command)
  /-- In a function, what its own variables stand for outside. -/
  outside : Option (List (Bytes × Option Bytes))
  /-- The number of loops around the command at hand. -/
  loops : Nat
  /-- The commands for the end, and for signals, by name. -/
  traps : List (Bytes × Bytes)
  /-- The same for commands that are run apart, when the commands at hand are. -/
  innerTraps : Option (List (Bytes × Bytes))
  /-- The signals that came and for which there are commands. -/
  pending : List Bytes
  manner : Manner
  /-- The argument in which options are being read one by one, by the number of the argument after it, and
  how many bytes of it are read. -/
  halfRead : Option (Nat × Nat)
  /-- Whether the outcome of the commands at hand is tested, so that failures stop nothing. -/
  isTested : Bool
  /-- The line of the command at hand. -/
  line : Nat
  /-- What stands before messages about commands that a command has read. -/
  context : Bytes
  status : Nat
  /-- The status of the last command whose output was put into a word. -/
  inner : Nat
  /-- The rights that new files are not given. -/
  mask : Nat
  /-- What can still be read. -/
  input : Bytes
  standard : Channel
  diagnostic : Channel
  /-- Further channels, by number. -/
  channels : List (Nat × Channel)
  /-- What was written, the latest first. -/
  output : List Bytes
  errors : List Bytes
  elapsed : Nat
  /-- The commands that run beside the script, the latest first. -/
  jobs : List Job
  /-- The number of the last of them that the script itself has started. -/
  lastJob : Option Nat
  /-- What a command that runs beside the script writes, the latest first, if the commands at hand are such
  a command's. -/
  recording : Option (List Event)
  /-- How much time there is, if that is bounded. -/
  limit : Option Nat
  halted : Option Halt

namespace State

/-- The name of the variable for the directories of programs. -/
def pathName : Bytes := bytes "PATH"

/-- The name of the variable for the directory at hand. -/
def placeName : Bytes := bytes "PWD"

/-- The name of the variable for the number of the next argument that may be an option. -/
def optionIndexName : Bytes := bytes "OPTIND"

/-- The directories of programs unless the script is told others. -/
def defaultPath : Bytes := bytes "/usr/local/sbin:/usr/local/bin:/usr/sbin:/usr/bin:/sbin:/bin"

/-- Give a name a value, in its place if it has one. -/
def withBinding (name value : Bytes) : List (Bytes × Bytes) → List (Bytes × Bytes)
  | [] => [(name, value)]
  | (other, old) :: rest =>
    if other == name then (name, value) :: rest else (other, old) :: withBinding name value rest

/-- A script before its first command. The variables are those it is given, the directory at hand and the
directories of programs. -/
def start (tree : Files.Tree) (name : Bytes) (arguments : List Bytes)
    (environment : List (Bytes × Bytes)) (limit : Option Nat) : State where
  tree
  name
  arguments
  bindings := withBinding placeName tree.herePath
    (environment.foldl (fun done (name, value) => withBinding name value done)
      [(pathName, defaultPath), (optionIndexName, bytes "1")])
  exported := placeName :: environment.map (·.1)
  constants := []
  functions := []
  outside := none
  loops := 0
  traps := []
  innerTraps := none
  pending := []
  manner := ⟨false, false, false, false⟩
  halfRead := none
  isTested := false
  line := 1
  context := []
  status := 0
  inner := 0
  mask := 0o022
  input := []
  standard := .output
  diagnostic := .errors
  channels := []
  output := []
  errors := []
  elapsed := 0
  jobs := []
  lastJob := none
  recording := none
  limit
  halted := none

/-- The file that is always empty and takes everything. -/
def nowherePath : Bytes := bytes "/dev/null"

/-- Leave a status. -/
def withStatus (state : State) (status : Nat) : State := { state with status }

/-- Write to a channel. -/
def write (state : State) (channel : Channel) (text : Bytes) : State :=
  let record (isError : Bool) (events : List Event) : State :=
    { state with recording := some (⟨state.elapsed, isError, text⟩ :: events) }
  match channel, state.recording with
  | .output, some events => record false events
  | .errors, some events => record true events
  | .output, none => { state with output := text :: state.output }
  | .errors, none => { state with errors := text :: state.errors }
  | .nowhere, _ => state
  | .file location, _ =>
    match state.tree.get? location with
    | some (.file mode content) =>
      { state with tree := state.tree.put location (.file mode (content ++ text)) }
    | _ => state

/-- Write to the standard output. -/
def print (state : State) (text : Bytes) : State := state.write state.standard text

/-- Write a message of a program. -/
def report (state : State) (message : Bytes) : State :=
  state.write state.diagnostic (message ++ bytes "\n")

/-- Write a message of the shell with the place it is about. -/
def complain (state : State) (message : Bytes) : State :=
  state.report (state.name ++ bytes ": " ++ Decimal.ofNat state.line ++ bytes ": " ++ message)

/-- Write a message about what the commands at hand want to use. -/
def miss (state : State) (message : Bytes) : State := state.complain (state.context ++ message)

/-- End with a status. -/
def exit (state : State) (status : Nat) : State := { state with halted := some (.exited status) }

/-- End with a message and the status of misuse. -/
def giveUp (state : State) (message : Bytes) : State := (state.complain message).exit 2

/-- The channel of a number. -/
def channel (state : State) (descriptor : Nat) : Option Channel :=
  if descriptor == 1 then some state.standard
  else if descriptor == 2 then some state.diagnostic
  else state.channels.lookup descriptor

/-- Let a number stand for a channel. -/
def setChannel (state : State) (descriptor : Nat) (channel : Channel) : State :=
  if descriptor == 1 then { state with standard := channel }
  else if descriptor == 2 then { state with diagnostic := channel }
  else { state with
    channels := (descriptor, channel) :: state.channels.filter (·.1 != descriptor) }

/-- All that was written to the standard output. -/
def outputText (state : State) : Bytes := state.output.reverse.flatten

/-- All that was written to the error output. -/
def errorText (state : State) : Bytes := state.errors.reverse.flatten

/-- Give a variable a value. -/
def assign (state : State) (name value : Bytes) : State :=
  { state with bindings := withBinding name value state.bindings }

/-- Give a variable a value unless it keeps the one it has. -/
def bind (state : State) (name value : Bytes) : State :=
  if state.constants.contains name then state.giveUp (name ++ bytes ": is read only")
  else state.assign name value

/-- Take a variable's value away. -/
def forget (state : State) (name : Bytes) : State :=
  { state with
    bindings := state.bindings.filter (·.1 != name)
    exported := state.exported.filter (· != name) }

/-- The row in which a variable is kept. -/
def row (name : Bytes) : Nat := (16 * (name.headD 0).toNat + name.foldl (fun n b => n + b.toNat) 0) % 39

/-- The variables that other programs see, with their values, row by row. -/
def environment (state : State) : List (Bytes × Bytes) :=
  (state.bindings.filter fun (name, _) => state.exported.contains name).mergeSort
    fun a b => row a.1 ≤ row b.1

/-- Write what an event has written. -/
def happen (state : State) (event : Event) : State :=
  match state.recording with
  | some events => { state with recording := some (event :: events) }
  | none =>
    if event.isError then { state with errors := event.text :: state.errors }
    else { state with output := event.text :: state.output }

/-- Write what the commands that run beside the script have written by now, the earliest first. -/
def catchUp (state : State) : State :=
  let due := (state.jobs.reverse.flatMap fun job => job.events.filter (·.time ≤ state.elapsed)).mergeSort
    fun a b => a.time ≤ b.time
  let jobs := state.jobs.map fun job =>
    { job with events := job.events.filter fun event => event.time > state.elapsed }
  due.foldl happen { state with jobs }

/-- Let time pass. -/
def pass (state : State) (nanoseconds : Nat) : State :=
  let elapsed := state.elapsed + nanoseconds
  match state.limit with
  | some limit =>
    if elapsed ≥ limit then { { state with elapsed := limit }.catchUp with halted := some .late }
    else { state with elapsed }.catchUp
  | none => { state with elapsed }.catchUp

/-- Wait until a time. -/
def waitUntil (state : State) (time : Nat) : State := state.pass (time - state.elapsed)

/-- Wait for the commands that run beside the script. -/
def wait (state : State) : State :=
  if state.jobs.isEmpty then state
  else state.waitUntil (state.jobs.foldl (fun time job => max time job.time) 0)

/-- The number under which the script runs, as it sees it. -/
def processNumber : Nat := 4242

/-- The bytes that separate fields. -/
def separators (state : State) : Bytes := (state.bindings.lookup (bytes "IFS")).getD [0x20, 9, 10]

/-- What stands between the arguments when they are put into one text. -/
def joint (state : State) : Bytes := state.separators.take 1

/-- The value of a parameter, if it has one. -/
def parameter? (state : State) (name : Bytes) : Option Bytes :=
  match name with
  | [0x40] | [0x2A] =>
    if state.arguments.isEmpty then none else some (Bytes.joined state.joint state.arguments)
  | [0x23] => some (Decimal.ofNat state.arguments.length)
  | [0x3F] => some (Decimal.ofNat state.status)
  | [0x24] => some (Decimal.ofNat processNumber)
  | [0x21] => state.lastJob.map Decimal.ofNat
  | [0x2D] =>
    some ((if state.manner.stopsAtMissing then bytes "u" else [])
      ++ (if state.manner.showsCommands then bytes "x" else [])
      ++ (if state.manner.keepsPatterns then bytes "f" else [])
      ++ (if state.manner.stopsAtFailure then bytes "e" else []))
  | name =>
    match Decimal.toNat? name with
    | some 0 => some state.name
    | some (n + 1) => state.arguments[n]?
    | none => state.bindings.lookup name

/-- Do something to a file tree, keeping the tree that it leaves. -/
def attempt {α : Type} (state : State) (action : Files.Action α) : Except Error α × State :=
  let (result, tree) := action.on state.tree
  (result, { state with tree })

/-- Run something apart: it changes files and output, but no variable or directory of the rest. A signal
to the script reaches the script. -/
def apart (state : State) (body : State → State) : State :=
  let after := body { state with innerTraps := some [] }
  let status := match after.halted with
    | some (.exited status) | some (.returned status) => status % 256
    | _ => after.status
  let halted := match after.halted with
    | some (.killed signal) => some (Halt.killed signal)
    | some .late => some Halt.late
    | _ => none
  { state with
    tree := { after.tree with here := state.tree.here }
    input := after.input
    output := after.output
    errors := after.errors
    elapsed := after.elapsed
    jobs := after.jobs
    recording := after.recording
    pending := after.pending
    status
    halted }

/-- Run something and take what it writes to the standard output, to the end of all that may write
there. -/
def capture (state : State) (body : State → State) : Bytes × State :=
  let after := body { state with output := [], standard := .output, recording := none }
  let after := if after.halted.isSome then after else after.wait
  (after.outputText,
    { after with output := state.output, standard := state.standard, recording := state.recording })

end State

end Script

end FunctionChain
