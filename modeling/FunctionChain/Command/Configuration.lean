import FunctionChain.Archive.Store
import FunctionChain.Command.Exit
import FunctionChain.Command.Library
import FunctionChain.Job.Local
import FunctionChain.Text.Quoted

/-!
# The configuration of an invocation

The configuration is made of the effective values of the options. One of them may name a configuration
file; when that has been read, all values are taken again.

What the options say is checked where it is used. A value that cannot be used is an error of the
configuration, with an exit code of its own.
-/

namespace FunctionChain

namespace Command

/-- The error of a command line that cannot be used. -/
def misuse (message : Bytes) : Error := .invocation Exit.invalidInvocation message

/-- The error of a configuration that cannot be used. -/
def misconfigured (message : Bytes) : Error := .invocation Exit.configError message

/-! ## Configurations -/

/-- The effective configuration. -/
structure Configuration where
  /-- The toolchain as it is named, before paths are made absolute. -/
  toolchain : Build.Toolchain
  workspaceRoot : Bytes
  keepsWorkspace : Bool
  compileTimeout : Duration
  runTimeout : Duration
  /-- The variables of compiled programs, as texts. -/
  runEntries : List Bytes
  cacheDirectory : Bytes
  cacheDatabase : Bytes
  recordDirectory : Bytes
  isStrict : Bool
  maxJobs : Int
  logLevel : Bytes
  logFormat : Bytes
  address : Bytes
deriving Repr, DecidableEq

namespace Configuration

variable [Library]

/-- The configuration of effective values. -/
def ofValues (values : Library.Values) : Configuration where
  toolchain :=
    { command := Library.text values (bytes "toolchain")
      optimisation := Library.text values (bytes "opt-flag")
      includeDirs := Library.texts values (bytes "include-dir")
      compileArgs := Library.texts values (bytes "compile-arg")
      linkArgs := Library.texts values (bytes "link-arg")
      libraryVersion := Library.text values (bytes "library-version") }
  workspaceRoot := Library.text values (bytes "workspace-root")
  keepsWorkspace := Library.switch values (bytes "keep-workspace")
  compileTimeout := Library.duration values (bytes "compile-timeout")
  runTimeout := Library.duration values (bytes "run-timeout")
  runEntries := Library.texts values (bytes "run-env")
  cacheDirectory := Library.text values (bytes "cache-dir")
  cacheDatabase := Library.text values (bytes "cache-db")
  recordDirectory := Library.text values (bytes "record-dir")
  isStrict := Library.switch values (bytes "strict-references")
  maxJobs := Library.int values (bytes "max-concurrent-jobs")
  logLevel := Library.text values (bytes "log-level")
  logFormat := Library.text values (bytes "log-format")
  address := Library.text values (bytes "http-bind-address")

/-- Take the configuration from effective values, after the configuration file that they name has been
read. -/
def load (values : Library.Values) : Files.Action Configuration := fun tree =>
  let path := Library.text values (bytes "config")
  if path.isEmpty then (.ok (ofValues values), tree)
  else
    match Library.readConfig values path tree with
    | .error message =>
      (.error (misconfigured (bytes "read config " ++ path ++ bytes ": " ++ message)), tree)
    | .ok values => (.ok (ofValues values), tree)

/-! ## Using a configuration -/

/-- How the log is written. -/
def log (configuration : Configuration) : Except Error Log.Config :=
  match Log.Level.ofName? configuration.logLevel with
  | none => .error (misconfigured Log.Level.unknownMessage)
  | some level =>
    match Log.Format.ofName? configuration.logFormat with
    | none => .error (misconfigured (Log.Format.unknownMessage configuration.logFormat))
    | some format => .ok ⟨format, level⟩

end Configuration

/-- The variable of an entry: what stands before the first equals sign, which must not be nothing, and what
stands behind it. -/
def runVariable? (entry : Bytes) : Option (Bytes × Bytes) :=
  match Bytes.cut? entry (byte '=') with
  | some ([], _) | none => none
  | some binding => some binding

/-- Set a variable, in place of the value it may have. -/
def setVariable (bindings : List (Bytes × Bytes)) (binding : Bytes × Bytes) :
    List (Bytes × Bytes) :=
  bindings.filter (·.1 != binding.1) ++ [binding]

/-- The variables of a list of entries. The last entry for a name holds. -/
def runVariables : List (Bytes × Bytes) → List Bytes → Except Error (List (Bytes × Bytes))
  | bindings, [] => .ok bindings
  | bindings, entry :: rest =>
    match runVariable? entry with
    | some binding => runVariables (setVariable bindings binding) rest
    | none =>
      .error (misconfigured (bytes "invalid --run-env entry " ++ Quoted.quote entry
        ++ bytes " (expected KEY=VALUE)"))

/-- The environment of compiled programs. -/
def runEnvironment (entries : List Bytes) : Except Error (List (Bytes × Bytes)) :=
  runVariables [] entries

namespace Configuration

/-- How programs are built, for an invocation in the directory `here`. -/
def builds (configuration : Configuration) (here : Bytes) : Except Error Build.Settings :=
  if Blank.isAllBlank configuration.toolchain.command then
    .error (misconfigured (bytes "--toolchain must not be empty"))
  else if configuration.compileTimeout < 0 || configuration.runTimeout < 0 then
    .error (misconfigured (bytes "timeouts must not be negative"))
  else
    match runEnvironment configuration.runEntries with
    | .error error => .error error
    | .ok environment =>
      .ok ⟨configuration.toolchain.absolute here, configuration.workspaceRoot,
        configuration.keepsWorkspace, configuration.compileTimeout, configuration.runTimeout,
        environment⟩

/-- The cache of artifacts, if there is to be one, and what is to be told about it. -/
def openCache [Build.DatabaseLibrary] (configuration : Configuration) :
    Files.Action (Option Build.Cache × List Log.Entry) := fun tree =>
  if !configuration.cacheDirectory.isEmpty && !configuration.cacheDatabase.isEmpty then
    (.error (misconfigured (bytes "--cache-dir and --cache-db are mutually exclusive")), tree)
  else if !configuration.cacheDirectory.isEmpty then
    (.ok (some (.directory configuration.cacheDirectory), []), tree)
  else if configuration.cacheDatabase.isEmpty then (.ok (none, []), tree)
  else
    match Build.Cache.openDatabase configuration.cacheDatabase tree with
    | (.error error, tree) =>
      (.error (misconfigured (bytes "--cache-db: " ++ error.text)), tree)
    | (.ok cache, tree) =>
      (.ok (some cache, [⟨.debug, bytes "Artifact cache opened",
        [(bytes "path", .text configuration.cacheDatabase)]⟩]), tree)

/-- The archive. -/
def store (configuration : Configuration) : Except Error Archive.Store :=
  match Archive.Store.ofBase configuration.recordDirectory with
  | .ok store => .ok store
  | .error error => .error (misconfigured (bytes "--record-dir: " ++ error.text))

/-- The archive for commands that are about it. -/
def requiredStore (configuration : Configuration) : Except Error Archive.Store :=
  if configuration.recordDirectory.isEmpty then
    .error (misconfigured (bytes "--record-dir is required"))
  else configuration.store

/-- How references are treated. -/
def policy (configuration : Configuration) : ReferencePolicy :=
  if configuration.isStrict then .strict else .passThrough

/-- The number of slots and the archive of the job service. -/
def service (configuration : Configuration) : Except Error (Nat × Option Archive.Store) :=
  if configuration.maxJobs ≤ 0 then
    .error (misconfigured (bytes "--max-concurrent-jobs must be positive (got "
      ++ Decimal.ofInt configuration.maxJobs ++ bytes ")"))
  else if configuration.recordDirectory.isEmpty then .ok (Job.slotsOf configuration.maxJobs, none)
  else
    match configuration.store with
    | .error error => .error error
    | .ok store => .ok (Job.slotsOf configuration.maxJobs, some store)

end Configuration

end Command

end FunctionChain
