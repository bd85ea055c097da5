import FunctionChain.Build.Journal
import FunctionChain.Build.Toolchain
import FunctionChain.Build.Workspace
import FunctionChain.Failure.Record

/-!
# Building and running a program

A build writes the source into a fresh workspace, compiles it or takes the artifact from the cache,
runs the artifact and removes the workspace. The first step that fails ends the build; its error says
what failed, and the journal how far it came.

The steps themselves are the *host's*: this file fixes only their order and what becomes of their
outcomes, for any host whatever. The build is a *plan*, which says for every answer of the host what
is recorded and what is asked next. Carried out on a host it gives the history of the build, in which
what was recorded and what was asked stand in the order in which they happened; the journal is what
the history has recorded.
-/

namespace FunctionChain

namespace Build

/-! ## Hosts -/

/-- Why a program was stopped. -/
inductive Interruption where
  | cancelled
  | timedOut
  /-- It could not be waited for. -/
  | unclear
deriving Repr, DecidableEq

/-- The failure code of an interruption. -/
def Interruption.code : Interruption → Bytes
  | .timedOut => Failure.Code.timeout
  | .cancelled | .unclear => Failure.Code.cancelled

/-- The message about an interrupted step. -/
def Interruption.message (step : Bytes) : Interruption → Bytes
  | .cancelled => step ++ bytes " cancelled"
  | .timedOut => step ++ bytes " timed out"
  | .unclear => step ++ bytes " interrupted"

/-- What became of a program that was to be run. -/
inductive Ended where
  | completed (exitCode : Int) (stdout stderr : Bytes)
  | notStarted (cause : Error)
  | interrupted (why : Interruption) (cause : Error)

/-- Access to an artifact cache. -/
structure CacheAccess (σ : Type) where
  lookup : (key : Bytes) → σ → Except Error (Option Bytes) × σ
  store : (key artifact : Bytes) → σ → Option Error × σ

/-- The steps of a build as something with the state `σ` carries them out. -/
structure Host (σ : Type) where
  createWorkspace : (jobId : Bytes) → σ → Except Error Workspace × σ
  writeSource : Workspace → (source : Bytes) → σ → Option Error × σ
  cache : Option (CacheAccess σ)
  restoreArtifact : Workspace → (artifact : Bytes) → σ → Option Error × σ
  compile : Toolchain → Workspace → σ → Ended × σ
  readArtifact : Workspace → σ → Except Error Bytes × σ
  execute : Workspace → σ → Ended × σ
  removeWorkspace : Workspace → σ → Option Error × σ

/-! ## Histories -/

/-- What a build asks of its host. -/
inductive Ask where
  | createWorkspace (jobId : Bytes)
  | writeSource (workspace : Workspace) (source : Bytes)
  | lookup (key : Bytes)
  | restoreArtifact (workspace : Workspace) (artifact : Bytes)
  | compile (toolchain : Toolchain) (workspace : Workspace)
  | readArtifact (workspace : Workspace)
  | store (key artifact : Bytes)
  | execute (workspace : Workspace)
  | removeWorkspace (workspace : Workspace)

/-- What is answered. -/
abbrev Ask.Answer : Ask → Type
  | .createWorkspace _ => Except Error Workspace
  | .lookup _ => Except Error (Option Bytes)
  | .readArtifact _ => Except Error Bytes
  | .compile .. | .execute _ => Ended
  | .writeSource .. | .restoreArtifact .. | .store .. | .removeWorkspace _ => Option Error

/-- Something that a build has recorded, or asked with this answer. -/
inductive Moment where
  | noted (happening : Happening)
  | created (jobId : Bytes) (answer : Except Error Workspace)
  | wrote (workspace : Workspace) (source : Bytes) (answer : Option Error)
  | lookedUp (key : Bytes) (answer : Except Error (Option Bytes))
  | restored (workspace : Workspace) (artifact : Bytes) (answer : Option Error)
  | compiled (toolchain : Toolchain) (workspace : Workspace) (answer : Ended)
  | read (workspace : Workspace) (answer : Except Error Bytes)
  | stored (key artifact : Bytes) (answer : Option Error)
  | executed (workspace : Workspace) (answer : Ended)
  | removed (workspace : Workspace) (answer : Option Error)

/-- What was asked and answered. -/
def Ask.moment : (ask : Ask) → ask.Answer → Moment
  | .createWorkspace jobId => .created jobId
  | .writeSource workspace source => .wrote workspace source
  | .lookup key => .lookedUp key
  | .restoreArtifact workspace artifact => .restored workspace artifact
  | .compile toolchain workspace => .compiled toolchain workspace
  | .readArtifact workspace => .read workspace
  | .store key artifact => .stored key artifact
  | .execute workspace => .executed workspace
  | .removeWorkspace workspace => .removed workspace

/-- What happened, in order. -/
abbrev History := List Moment

/-- What was recorded at a moment. -/
def Moment.note? : Moment → Option Happening
  | .noted happening => some happening
  | _ => none

/-- What a history has recorded. -/
def History.journal (history : History) : Journal := history.filterMap Moment.note?

/-- What a host answers. Without a cache nothing is found and nothing can be stored. -/
def Host.answer {σ : Type} (host : Host σ) : (ask : Ask) → σ → ask.Answer × σ
  | .createWorkspace jobId, state => host.createWorkspace jobId state
  | .writeSource workspace source, state => host.writeSource workspace source state
  | .lookup key, state =>
    match host.cache with
    | some access => access.lookup key state
    | none => (.ok none, state)
  | .restoreArtifact workspace artifact, state => host.restoreArtifact workspace artifact state
  | .compile toolchain workspace, state => host.compile toolchain workspace state
  | .readArtifact workspace, state => host.readArtifact workspace state
  | .store key artifact, state =>
    match host.cache with
    | some access => access.store key artifact state
    | none => (none, state)
  | .execute workspace, state => host.execute workspace state
  | .removeWorkspace workspace, state => host.removeWorkspace workspace state

/-! ## Plans -/

/-- What is recorded and asked, for every answer. -/
inductive Plan (α : Type) where
  | done (result : α)
  | note (happening : Happening) (next : Plan α)
  | ask (ask : Ask) (next : ask.Answer → Plan α)

namespace Plan

variable {α β σ : Type}

/-- One plan after another. -/
def bind : Plan α → (α → Plan β) → Plan β
  | done result, after => after result
  | note happening next, after => note happening (next.bind after)
  | ask question next, after => ask question fun answer => (next answer).bind after

instance : Monad Plan where
  pure := done
  bind := bind

/-- Record something. -/
def noting (happening : Happening) : Plan Unit := note happening (done ())

/-- Ask for something. -/
def asking (question : Ask) : Plan question.Answer := ask question done

/-- Carry out a plan on a host. -/
def carryOut (host : Host σ) : Plan α → σ → History × α × σ
  | done result, state => ([], result, state)
  | note happening next, state =>
    let (history, result, state) := next.carryOut host state
    (.noted happening :: history, result, state)
  | ask question next, state =>
    let (answer, state) := host.answer question state
    let (history, result, state) := (next answer).carryOut host state
    (question.moment answer :: history, result, state)

end Plan

open Plan (noting asking)

/-! ## Compiling -/

/-- The diagnostic of a failed compilation: the error output, or the other when that is blank. -/
def diagnosticOf (stdout stderr : Bytes) : Bytes :=
  if Blank.isAllBlank stderr then stdout else stderr

/-- The error of a compilation that brought no artifact, if it did not. -/
def compileError? (toolchain : Toolchain) : Ended → Option Error
  | .notStarted cause =>
    some (.compile Failure.Code.toolchainUnavailable
      (bytes "toolchain " ++ Quoted.quote toolchain.command ++ bytes " could not be started")
      [] 0 (some cause))
  | .interrupted why cause =>
    some (.compile why.code (why.message (bytes "compilation")) [] 0 (some cause))
  | .completed exitCode stdout stderr =>
    if exitCode == 0 then none
    else some (.compile Failure.Code.nonZeroExit
      (bytes "toolchain exited with status " ++ Decimal.ofInt exitCode)
      (diagnosticOf stdout stderr) exitCode none)

/-- Keep an artifact in the cache, if there is one. -/
def keeping (hasCache : Bool) (key artifact : Bytes) : Plan Unit :=
  if hasCache then do
    let failure ← asking (.store key artifact)
    match failure with
    | none => noting .stored
    | some error => noting (.storeFailed error)
  else pure ()

/-- Compile with the toolchain. -/
def compiling (hasCache : Bool) (toolchain : Toolchain) (key : Bytes) (workspace : Workspace) :
    Plan (Option Error) := do
  noting (.compiling toolchain.command
    (toolchain.arguments Workspace.sourceName Workspace.artifactName))
  let ended ← asking (.compile toolchain workspace)
  match compileError? toolchain ended with
  | some error => return some error
  | none =>
    let found ← asking (.readArtifact workspace)
    match found with
    | .error cause =>
      return some (.compile Failure.Code.artifactUnavailable
        (bytes "toolchain succeeded but produced no artifact") [] 0 (some cause))
    | .ok artifact =>
      keeping hasCache key artifact
      return none

/-- Bring the artifact into the workspace, from the cache or by compiling. -/
def obtaining (hasCache : Bool) (toolchain : Toolchain) (source : Bytes) (workspace : Workspace) :
    Plan (Option Error) :=
  if hasCache then do
    let key := CacheKey.compute toolchain source
    let found ← asking (.lookup key)
    match found with
    | .error error =>
      noting (.lookupFailed error)
      noting .missed
      compiling true toolchain key workspace
    | .ok none =>
      noting .missed
      compiling true toolchain key workspace
    | .ok (some artifact) =>
      let failure ← asking (.restoreArtifact workspace artifact)
      match failure with
      | some cause =>
        return some (.io Failure.Code.workspaceWrite (bytes "restoring cached artifact")
          (some cause))
      | none =>
        noting (.restored key)
        return none
  else compiling false toolchain [] workspace

/-! ## Running -/

/-- What a program that ran to its end has left. -/
structure Printed where
  stdout : Bytes
  stderr : Bytes
  exitCode : Int
deriving Repr, DecidableEq

/-- Nothing, for a program that did not run to its end. -/
def Printed.nothing : Printed := ⟨[], [], 0⟩

/-- How far a build came, what its program printed, and the error that ended it. -/
structure Ending where
  stage : Stage
  printed : Printed
  error : Option Error

/-- Run the artifact. -/
def executing (workspace : Workspace) : Plan Ending := do
  let ended ← asking (.execute workspace)
  match ended with
  | .notStarted cause =>
    return ⟨.compiled, .nothing, some (.runtime Failure.Code.artifactUnavailable
      (bytes "compiled program could not be started") [] 0 (some cause))⟩
  | .interrupted why cause =>
    return ⟨.compiled, .nothing,
      some (.runtime why.code (why.message (bytes "execution")) [] 0 (some cause))⟩
  | .completed exitCode stdout stderr =>
    if exitCode == 0 then
      noting (.completed (bytes "execute"))
      noting (.entered .executed [])
      noting (.entered .succeeded [])
      return ⟨.succeeded, ⟨stdout, stderr, exitCode⟩, none⟩
    else
      return ⟨.compiled, ⟨stdout, stderr, exitCode⟩, some (.runtime Failure.Code.nonZeroExit
        (bytes "program exited with status " ++ Decimal.ofInt exitCode) stderr exitCode none)⟩

/-- Compile and run what was written. -/
def buildingWritten (hasCache : Bool) (toolchain : Toolchain) (source : Bytes)
    (workspace : Workspace) : Plan Ending := do
  let failure ← obtaining hasCache toolchain source workspace
  match failure with
  | some error => return ⟨.written, .nothing, some error⟩
  | none =>
    noting (.completed (bytes "compile"))
    noting (.entered .compiled [])
    executing workspace

/-- Write, compile and run. -/
def buildingIn (hasCache : Bool) (toolchain : Toolchain) (source : Bytes)
    (workspace : Workspace) : Plan Ending := do
  let failure ← asking (.writeSource workspace source)
  match failure with
  | some cause =>
    return ⟨.generated, .nothing,
      some (.io Failure.Code.workspaceWrite (bytes "writing generated source") (some cause))⟩
  | none =>
    noting (.completed (bytes "write"))
    noting (.entered .written [])
    buildingWritten hasCache toolchain source workspace

/-! ## The whole build -/

/-- Take away the workspace. -/
def cleaningUp (keeps : Bool) (workspace : Workspace) (ending : Ending) : Plan Ending :=
  if keeps then pure ending
  else do
    let failure ← asking (.removeWorkspace workspace)
    match failure with
    | none => return ending
    | some error =>
      noting (.removalFailed workspace.path error)
      return { ending with
        error := match ending.error with
          | none => none
          | some first => Error.combine? (some first) (some error) }

/-- All of a build up to its conclusion. -/
def buildingAll (hasCache : Bool) (toolchain : Toolchain) (keeps : Bool) (jobId source : Bytes) :
    Plan (Option Workspace × Ending) := do
  let made ← asking (.createWorkspace jobId)
  match made with
  | .error cause =>
    return (none, ⟨.generated, .nothing,
      some (.io Failure.Code.workspaceCreate (bytes "creating job workspace") (some cause))⟩)
  | .ok workspace =>
    let ending ← buildingIn hasCache toolchain source workspace
    let ending ← cleaningUp keeps workspace ending
    return (some workspace, ending)

/-- The code under which an error is recorded. -/
def reasonOf (error : Error) : Bytes :=
  match Failure.classify error with
  | some record => record.code
  | none => bytes "internal"

/-- Conclude a build: a failed one enters the stage of failure. -/
def concluding (ending : Ending) : Plan Ending :=
  match ending.error with
  | none => pure ending
  | some error => do
    noting (.entered .failed (reasonOf error))
    noting (.failed (reasonOf error) error)
    return { ending with stage := .failed }

/-- The plan of a build. -/
def building (hasCache : Bool) (toolchain : Toolchain) (keeps : Bool) (jobId source : Bytes) :
    Plan (Option Workspace × Ending) := do
  noting (.entered .generated [])
  let (workspace, ending) ← buildingAll hasCache toolchain keeps jobId source
  let ending ← concluding ending
  return (workspace, ending)

/-- What a build has come to. -/
structure Outcome where
  stage : Stage
  printed : Printed
  isCacheHit : Bool
  workspace : Option Workspace
  trace : Trace
  error : Option Error
  journal : Journal

/-- The outcome of a build by what was recorded and how it ended. -/
def outcomeBy (source : Bytes) (journal : Journal) (workspace : Option Workspace)
    (ending : Ending) : Outcome :=
  ⟨ending.stage, ending.printed, journal.isHit, workspace, journal.trace source, ending.error,
    journal⟩

/-- Build and run a program: carry out the plan on a host. -/
def run {σ : Type} (host : Host σ) (toolchain : Toolchain) (keeps : Bool)
    (jobId source : Bytes) (state : σ) : Outcome × σ :=
  let (history, (workspace, ending), after) :=
    (building host.cache.isSome toolchain keeps jobId source).carryOut host state
  (outcomeBy source history.journal workspace ending, after)

/-- What a build adds to the metrics. -/
def Outcome.samples (outcome : Outcome) : List Metrics.Sample :=
  outcome.journal.filterMap Happening.sample?
    ++ [jobSample outcome.stage (match outcome.error with
      | none => []
      | some error => match Failure.classify error with
        | some record => record.code
        | none => [])]

end Build

end FunctionChain
