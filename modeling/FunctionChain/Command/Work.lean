import FunctionChain.Command.Session
import FunctionChain.Server.Address

/-!
# Building, generating and serving

The commands that read documents, and the server.
-/

namespace FunctionChain

namespace Command

variable [Build.DatabaseLibrary]

open Doing

/-! ## Documents -/

/-- The word that names standard input. -/
def stdinWord : Bytes := bytes "-"

/-- The error of a document that cannot be read. -/
def unreadable {α : Type} (action : Files.Action α) : Files.Action α := fun tree =>
  match action tree with
  | (.ok value, tree) => (.ok value, tree)
  | (.error error, tree) => (.error (misuse (bytes "read document: " ++ error.text)), tree)

/-- Read the document that the words name: a file, or standard input for `-` and for no word. -/
def readDocument (stdin : Option Bytes) (words : List Bytes) : Doing Bytes :=
  match words.head? with
  | none => fromInput
  | some word =>
    if word == stdinWord then fromInput
    else if Blank.isAllBlank word || Path.clean word == Path.same then
      throw (misuse (bytes "document path must not be empty"))
    else onFiles (unreadable (Files.contents (Path.clean word)))
where
  /-- Read standard input. -/
  fromInput : Doing Bytes :=
    match stdin with
    | some document => pure document
    | none => throw (misuse (bytes "no input document"))

/-! ## Compiling -/

/-- The service that builds with such settings, under a configuration. -/
def buildService (invocation : Invocation) (configuration : Configuration)
    (settings : Build.Settings) (store : Option Archive.Store) : Job.Service Build.Machine :=
  ⟨configuration.policy,
    Job.machineRunner settings invocation.temporary invocation.variableTexts true,
    store.map fun store => Job.archiveOn store invocation.now invocation.now⟩

/-- Write the trace of a job to a file. -/
def writeTrace (path : Bytes) (trace : Trace) : Files.Action Unit :=
  match trace.canonicalJson with
  | .error problem => throw (.wrap (bytes "encode trace") (.plain problem.message))
  | .ok encoded => (Files.writeFile path encoded 0o644).labelled (bytes "write trace")

/-- Write the trace of a result to a file, if a path is given and there is a trace. -/
def keepTrace (path : Bytes) (result : Job.Result) : Files.Action Unit :=
  match result.trace with
  | none => pure ()
  | some trace => if path.isEmpty then pure () else writeTrace path trace

/-- Print the payload of a result: the output of a program that succeeded, or what went wrong. -/
def report (result : Job.Result) : Doing Unit :=
  if result.isOk then print result.payload
  else complain (Bytes.dropEndWhile result.payload (· == byte '\n') ++ [byte '\n'])

/-- Set up the driver of builds: how programs are built, and the cache of the session. -/
def openDriver (invocation : Invocation) (configuration : Configuration) (log : Log.Config) :
    Doing Build.Settings := do
  let settings ← demand (configuration.builds (← get).tree.herePath)
  let (cache, entries) ← onFiles configuration.openCache
  modify fun session => { session with cache }
  tell log invocation.now entries
  return settings

/-- Give up what the driver holds. -/
def closeDriver (invocation : Invocation) (log : Log.Config) : Doing Unit := do
  if let some cache := (← get).cache then
    if let some error := ← onFiles cache.close.attempt then
      tell log invocation.now
        [⟨.warn, bytes "Failed to close artifact cache", [(bytes "error", .text error.text)]⟩]

/-- Compile a document on the files and with the cache of the session. -/
def runJob (invocation : Invocation) (service : Job.Service Build.Machine) (slots : Nat)
    (log : Log.Config) (document : Bytes) : Doing Job.Result :=
  fun session =>
    let request : Job.Request :=
      ⟨invocation.jobId, document, if invocation.isCancelled then .cancelled else .patient⟩
    let (result, state) := Job.compile service slots request (.start ⟨session.tree, session.cache⟩)
    (.ok result, { session with
      tree := state.inner.tree
      cache := state.inner.cache
      stderr := session.stderr ++ log.lines invocation.now state.log
      job := some result })

/-- Run the job of a document and report what has come of it. -/
def compileWith (invocation : Invocation) (configuration : Configuration) (log : Log.Config)
    (settings : Build.Settings) (document tracePath : Bytes) : Doing Unit := do
  let (slots, store) ← demand configuration.service
  let service := buildService invocation configuration settings store
  let result ← runJob invocation service slots log document
  (onFiles (keepTrace tracePath result)).orExitWith Exit.internalError
  exitWith (Exit.ofResult result)
  report result

/-- Generate, build and run the program of a document. -/
def compile (invocation : Invocation) (configuration : Configuration) (words : List Bytes)
    (tracePath : Bytes) : Doing Unit := do
  let document ← readDocument invocation.stdin words
  let log ← demand configuration.log
  let settings ← openDriver invocation configuration log
  (compileWith invocation configuration log settings document tracePath).lastly
    (closeDriver invocation log)

/-! ## Generating -/

/-- Print the program of a document. -/
def generate (invocation : Invocation) (configuration : Configuration) (words : List Bytes) :
    Doing Unit := do
  let document ← readDocument invocation.stdin words
  let _ ← demand configuration.log
  let _ ← demand configuration.service
  match Program.generate configuration.policy document with
  | .error error =>
    exitWith Exit.jobFailure
    complain (error.text ++ [byte '\n'])
  | .ok (source, _) =>
    print source
    exitWith Exit.success

/-! ## Serving -/

/-- The warning about a toolchain that is not there. -/
def toolchainWarning (tree : Files.Tree) (command : Bytes) : List Log.Entry :=
  if Build.Launch.isAvailable tree command then []
  else [⟨.warn, bytes "Toolchain not found on PATH; compile requests will fail",
    [(bytes "toolchain", .text command)]⟩]

/-- What the server tells from its start to its end. -/
def servingEntries (configuration : Configuration) (settings : Build.Settings) (address : Bytes) :
    List Log.Entry :=
  [⟨.info, bytes "Starting fsscompiler",
      [(bytes "toolchain", .text settings.toolchain.command),
        (bytes "include_dirs", .texts settings.toolchain.includeDirs),
        (bytes "max_concurrent_jobs", .int configuration.maxJobs)]⟩,
    ⟨.info, bytes "Listening",
      [(bytes "transport", .text (bytes "http")), (bytes "addr", .text address)]⟩,
    ⟨.info, bytes "Stopped", [(bytes "transport", .text (bytes "http"))]⟩]

/-- Set up the server, and let it run until it is told to stop. -/
def serveWith (invocation : Invocation) (configuration : Configuration) (log : Log.Config)
    (settings : Build.Settings) : Doing Unit := do
  let _ ← demand configuration.service
  tell log invocation.now (toolchainWarning (← get).tree settings.toolchain.command)
  match Server.Address.resolve configuration.address with
  | .error problem =>
    throw (misconfigured (bytes "listen on " ++ configuration.address ++ bytes ": "
      ++ problem.message))
  | .ok address =>
    tell log invocation.now (servingEntries configuration settings address)
    exitWith Exit.success

/-- Serve documents to the network. -/
def serve (invocation : Invocation) (configuration : Configuration) : Doing Unit := do
  let log ← demand configuration.log
  let settings ← openDriver invocation configuration log
  (serveWith invocation configuration log settings).lastly (closeDriver invocation log)

end Command

end FunctionChain
