import FunctionChain.Build.Cache
import FunctionChain.Build.Launch
import FunctionChain.Build.Run

/-!
# The host of builds

Builds carried out on a file tree, with the cache that is set up and programs launched in bounded
time.
-/

namespace FunctionChain

namespace Build

open Files (Action)

/-- What builds work on. -/
structure Machine [DatabaseLibrary] where
  tree : Files.Tree
  cache : Option Cache

/-- How builds are set up. -/
structure Settings where
  toolchain : Toolchain
  /-- Where workspaces are made; nowhere in particular when empty. -/
  workspaceRoot : Bytes
  keepsWorkspace : Bool
  compileTimeout : Duration
  runTimeout : Duration
  /-- All variables that the compiled program sees. -/
  runEnvironment : List (Bytes × Bytes)

/-- Two minutes. -/
def defaultCompileTimeout : Duration := 2 * Duration.minute

/-- Thirty seconds. -/
def defaultRunTimeout : Duration := 30 * Duration.second

/-- The variables of an environment as texts, in order. -/
def isolatedEnvironment (bindings : List (Bytes × Bytes)) : List Bytes :=
  Bytes.sorted (bindings.map fun (name, value) => name ++ byte '=' :: value)

/-- The limit that a timeout sets. One that is not positive sets none. -/
def limitOf (timeout : Duration) : Option Nat := if timeout ≤ 0 then none else some timeout.toNat

namespace Machine

variable [DatabaseLibrary]

/-- Do something to the files. -/
def act {α : Type} (machine : Machine) (action : Action α) : Except Error α × Machine :=
  let (result, tree) := action.on machine.tree
  (result, { machine with tree })

/-- Do something to the files that has no result. -/
def attempt {α : Type} (machine : Machine) (action : Action α) : Option Error × Machine :=
  match machine.act action with
  | (.ok _, machine) => (none, machine)
  | (.error error, machine) => (some error, machine)

/-- Launch a program, unless the job was cancelled. -/
def launch (machine : Machine) (isCancelled : Bool) (request : Launch.Request) (timeout : Duration) :
    Ended × Machine :=
  if isCancelled then
    (.interrupted .cancelled (.plain (bytes "execution cancelled: context canceled")), machine)
  else
    let (outcome, tree) := Launch.run request (limitOf timeout) machine.tree
    (match outcome with
      | .completed exitCode stdout stderr => .completed exitCode stdout stderr
      | .notStarted => .notStarted (.plain (bytes "failed to start command"))
      | .interrupted =>
        .interrupted .timedOut (.plain (bytes "execution cancelled: context deadline exceeded")),
      { machine with tree })

/-- Access to the cache of a machine that has one. -/
def cacheAccess : CacheAccess Machine where
  lookup key machine :=
    match machine.cache with
    | none => (.ok none, machine)
    | some cache => machine.act (cache.lookup key)
  store key artifact machine :=
    match machine.cache with
    | none => (none, machine)
    | some cache =>
      match machine.act (cache.store key artifact) with
      | (.ok cache, machine) => (none, { machine with cache := some cache })
      | (.error error, machine) => (some error, machine)

/-- The host of builds on a machine. `temporary` is where workspaces go that have no root, and
`environment` what compilers see. -/
def host (settings : Settings) (temporary : Bytes) (environment : List Bytes)
    (hasCache isCancelled : Bool) : Host Machine where
  createWorkspace jobId machine :=
    machine.act (Workspace.create temporary settings.workspaceRoot jobId)
  writeSource workspace source machine := machine.attempt (workspace.writeSource source)
  cache := if hasCache then some cacheAccess else none
  restoreArtifact workspace artifact machine :=
    machine.attempt (Files.writeFile workspace.artifactPath artifact 0o755)
  compile toolchain workspace machine :=
    machine.launch isCancelled
      ⟨toolchain.command, toolchain.arguments Workspace.sourceName Workspace.artifactName,
        workspace.path, environment⟩ settings.compileTimeout
  readArtifact workspace machine := machine.act (Files.contents workspace.artifactPath)
  execute workspace machine :=
    machine.launch isCancelled
      ⟨workspace.artifactPath, [], workspace.path, isolatedEnvironment settings.runEnvironment⟩ settings.runTimeout
  removeWorkspace workspace machine := machine.attempt workspace.remove

/-- Build and run a program on a machine. -/
def build (machine : Machine) (settings : Settings) (temporary : Bytes)
    (environment : List Bytes) (isCancelled : Bool) (jobId source : Bytes) :
    Outcome × Machine :=
  run (host settings temporary environment machine.cache.isSome isCancelled) settings.toolchain
    settings.keepsWorkspace jobId source machine

end Machine

end Build

end FunctionChain
