import FunctionChain.Command.Configuration

/-!
# Sessions

An invocation of the program finds its words, an environment, maybe something on standard input, and a
file tree. It leaves a file tree, two texts of output, maybe the result of a job, and an exit code or an
error.
-/

namespace FunctionChain

namespace Command

/-- What an invocation finds, files apart. -/
structure Invocation where
  /-- The words behind the program's name. -/
  words : List Bytes
  /-- The environment variables. Each name occurs once. -/
  environment : List (Bytes × Bytes)
  /-- Standard input, if there is one. -/
  stdin : Option Bytes
  /-- Whether it was called off before it began. -/
  isCancelled : Bool
  /-- The time at which it runs. -/
  now : Timestamp
  /-- The id of the job, if it comes to one. -/
  jobId : Bytes

/-- The variables of an environment as texts. -/
def Invocation.variableTexts (invocation : Invocation) : List Bytes :=
  invocation.environment.map fun (name, value) => name ++ byte '=' :: value

/-- The directory for temporary files. -/
def Invocation.temporary (invocation : Invocation) : Bytes :=
  match invocation.environment.lookup (bytes "TMPDIR") with
  | none | some [] => bytes "/tmp"
  | some path => path

section

variable [Build.DatabaseLibrary]

/-- An invocation under way. -/
structure Session where
  tree : Files.Tree
  /-- The cache of the driver, once there is one. -/
  cache : Option Build.Cache
  stdout : Bytes
  stderr : Bytes
  job : Option Job.Result
  /-- The code to leave with. -/
  exitCode : Int
  /-- Whether a command of the program has run. -/
  hasRun : Bool

/-- A session before anything is done. Until something else is known it ends with the code for internal
errors. -/
def Session.start (tree : Files.Tree) : Session :=
  ⟨tree, none, [], [], none, Exit.internalError, false⟩

/-- What is done in a session, with a result or an error. -/
abbrev Doing := ExceptT Error (StateM Session)

namespace Doing

/-- Do something to the files. -/
def onFiles {α : Type} (action : Files.Action α) : Doing α := fun session =>
  let (result, tree) := action session.tree
  (result, { session with tree })

/-- Go on with a value that there may not be. -/
def demand {α : Type} : Except Error α → Doing α
  | .ok value => pure value
  | .error error => throw error

/-- Write to standard output. -/
def print (text : Bytes) : Doing Unit :=
  modify fun session => { session with stdout := session.stdout ++ text }

/-- Write to standard error. -/
def complain (text : Bytes) : Doing Unit :=
  modify fun session => { session with stderr := session.stderr ++ text }

/-- Write entries of the log. -/
def tell (log : Log.Config) (now : Timestamp) (entries : List Log.Entry) : Doing Unit :=
  complain (log.lines now entries)

/-- Set the code to leave with. -/
def exitWith (exitCode : Int) : Doing Unit := modify fun session => { session with exitCode }

/-- Do something, and set the code to leave with if it fails. -/
def orExitWith {α : Type} (exitCode : Int) (doing : Doing α) : Doing α :=
  tryCatch doing fun error => do
    exitWith exitCode
    throw error

/-- Do something, and something else at its end, whatever comes of it. -/
def lastly {α : Type} (doing : Doing α) (closing : Doing Unit) : Doing α := fun session =>
  let (result, session) := doing session
  let (_, session) := closing session
  (result, session)

end Doing

/-! ## The end -/

/-- How an invocation ends. -/
structure Ended where
  exitCode : Int
  error : Option Error
  stdout : Bytes
  stderr : Bytes
  job : Option Job.Result

/-- The error with which an invocation ends. One that is not about the command line or the configuration,
and comes before any command has run, is the library's: it is made one of the command line. -/
def Session.told (session : Session) (error : Error) : Error :=
  if !session.hasRun && (Exit.asked? error).isNone then misuse error.text else error

/-- How an invocation ends when that is what was done. An error may ask for a code of its own; without one,
nothing has gone wrong if no command has run. -/
def Session.ended (session : Session) : Except Error Unit → Ended
  | .ok _ =>
    ⟨if session.hasRun then session.exitCode else Exit.success, none, session.stdout, session.stderr,
      session.job⟩
  | .error error =>
    ⟨(Exit.asked? (session.told error)).getD session.exitCode, some (session.told error),
      session.stdout, session.stderr, session.job⟩

end

end Command

end FunctionChain
