import FunctionChain.Build.Run

/-!
# Builds step by step

A build is a plan that is carried out. What holds of its outcome, whatever its host is, is told more
easily of the stages of the build as functions of the state: each gives what it has recorded, what it
came to, and the state that it leaves. Every stage of the plan, carried out on a host, is such a
function (`compileFresh_eq` and those behind it), and so is the whole build (`run_eq_workOf`).
-/

namespace FunctionChain

namespace Build

open Plan (noting asking)

/-! ## Plans carried out -/

namespace Plan

variable {α β σ : Type}

/-- What carrying out a plan on a host comes to, with what is recorded. -/
def recordedBy (host : Host σ) (plan : Plan α) (state : σ) : Journal × α × σ :=
  let (history, result, state) := plan.carryOut host state
  (history.journal, result, state)

section Recorded

variable (host : Host σ) (state : σ)

/-- What comes after a plan begins where that has ended, and its moments come later. -/
theorem carryOut_bind (plan : Plan α) (after : α → Plan β) :
    (plan >>= after).carryOut host state =
      let (first, result, middle) := plan.carryOut host state
      let (second, result, last) := (after result).carryOut host middle
      (first ++ second, result, last) := by
  induction plan generalizing state with
  | done result => rfl
  | note happening next ih => exact congrArg (fun out => (_ :: out.1, out.2)) (ih state)
  | ask question next ih => exact congrArg (fun out => (_ :: out.1, out.2)) (ih _ _)

/-- What is noted comes first. -/
theorem carryOut_noting_bind (happening : Happening) (after : Unit → Plan α) :
    (noting happening >>= after).carryOut host state =
      let (history, result, last) := (after ()).carryOut host state
      (.noted happening :: history, result, last) := rfl

/-- What is asked comes first, and the rest begins where the answer has left the host. -/
theorem carryOut_asking_bind (question : Ask) (after : question.Answer → Plan α) :
    (asking question >>= after).carryOut host state =
      let (history, result, last) :=
        (after (host.answer question state).1).carryOut host (host.answer question state).2
      (question.moment (host.answer question state).1 :: history, result, last) := rfl

/-- A result records nothing. -/
theorem recordedBy_pure (result : α) :
    (pure result : Plan α).recordedBy host state = ([], result, state) := rfl

/-- What comes after a plan is recorded later. -/
theorem recordedBy_bind (plan : Plan α) (after : α → Plan β) :
    (plan >>= after).recordedBy host state =
      let (first, result, middle) := plan.recordedBy host state
      let (second, result, last) := (after result).recordedBy host middle
      (first ++ second, result, last) := by
  simp only [recordedBy, carryOut_bind, History.journal, List.filterMap_append]

/-- What is noted is recorded first. -/
theorem recordedBy_noting_bind (happening : Happening) (after : Unit → Plan α) :
    (noting happening >>= after).recordedBy host state =
      let (journal, result, last) := (after ()).recordedBy host state
      (happening :: journal, result, last) := rfl

/-- What is asked is not recorded. -/
theorem recordedBy_asking_bind (question : Ask) (after : question.Answer → Plan α) :
    (asking question >>= after).recordedBy host state =
      (after (host.answer question state).1).recordedBy host (host.answer question state).2 := by
  cases question <;> rfl

end Recorded

end Plan

/-! ## Stages as functions -/

/-- Keep an artifact in the cache, if there is one. A cache that fails is no failure of the build. -/
def keepArtifact {σ : Type} (cache : Option (CacheAccess σ)) (key artifact : Bytes) (state : σ) :
    Journal × σ :=
  match cache with
  | none => ([], state)
  | some access =>
    match access.store key artifact state with
    | (none, state) => ([.stored], state)
    | (some error, state) => ([.storeFailed error], state)

/-- Compile with the toolchain. -/
def compileFresh {σ : Type} (host : Host σ) (toolchain : Toolchain) (key : Bytes)
    (workspace : Workspace) (state : σ) : Journal × Option Error × σ :=
  let arguments := toolchain.arguments Workspace.sourceName Workspace.artifactName
  let begun : Journal := [.compiling toolchain.command arguments]
  let (ended, state) := host.compile toolchain workspace state
  match compileError? toolchain ended with
  | some error => (begun, some error, state)
  | none =>
    match host.readArtifact workspace state with
    | (.error cause, state) =>
      (begun, some (.compile Failure.Code.artifactUnavailable
        (bytes "toolchain succeeded but produced no artifact") [] 0 (some cause)), state)
    | (.ok artifact, state) =>
      let (kept, state) := keepArtifact host.cache key artifact state
      (begun ++ kept, none, state)

/-- Bring the artifact into the workspace, from the cache or by compiling. -/
def obtainArtifact {σ : Type} (host : Host σ) (toolchain : Toolchain) (source : Bytes)
    (workspace : Workspace) (state : σ) : Journal × Option Error × σ :=
  match host.cache with
  | none => compileFresh host toolchain [] workspace state
  | some access =>
    let key := CacheKey.compute toolchain source
    match access.lookup key state with
    | (.error error, state) =>
      let (journal, failure, state) := compileFresh host toolchain key workspace state
      (.lookupFailed error :: .missed :: journal, failure, state)
    | (.ok none, state) =>
      let (journal, failure, state) := compileFresh host toolchain key workspace state
      (.missed :: journal, failure, state)
    | (.ok (some artifact), state) =>
      match host.restoreArtifact workspace artifact state with
      | (some cause, state) =>
        ([], some (.io Failure.Code.workspaceWrite (bytes "restoring cached artifact") (some cause)),
          state)
      | (none, state) => ([.restored key], none, state)

/-- How far a build came before its workspace is removed. -/
structure Work (σ : Type) where
  journal : Journal
  stage : Stage
  printed : Printed
  error : Option Error
  state : σ

/-- Run the artifact. -/
def afterCompiled {σ : Type} (host : Host σ) (workspace : Workspace) (state : σ) : Work σ :=
  match host.execute workspace state with
  | (.notStarted cause, state) =>
    ⟨[], .compiled, .nothing, some (.runtime Failure.Code.artifactUnavailable
      (bytes "compiled program could not be started") [] 0 (some cause)), state⟩
  | (.interrupted why cause, state) =>
    ⟨[], .compiled, .nothing,
      some (.runtime why.code (why.message (bytes "execution")) [] 0 (some cause)), state⟩
  | (.completed exitCode stdout stderr, state) =>
    if exitCode == 0 then
      ⟨[.completed (bytes "execute"), .entered .executed [], .entered .succeeded []], .succeeded,
        ⟨stdout, stderr, exitCode⟩, none, state⟩
    else
      ⟨[], .compiled, ⟨stdout, stderr, exitCode⟩, some (.runtime Failure.Code.nonZeroExit
        (bytes "program exited with status " ++ Decimal.ofInt exitCode) stderr exitCode none), state⟩

/-- Compile and run what was written. -/
def afterWritten {σ : Type} (host : Host σ) (toolchain : Toolchain) (source : Bytes)
    (workspace : Workspace) (state : σ) : Work σ :=
  match obtainArtifact host toolchain source workspace state with
  | (journal, some error, state) => ⟨journal, .written, .nothing, some error, state⟩
  | (journal, none, state) =>
    let work := afterCompiled host workspace state
    { work with
      journal := journal ++ .completed (bytes "compile") :: .entered .compiled [] :: work.journal }

/-- Write, compile and run. -/
def inWorkspace {σ : Type} (host : Host σ) (toolchain : Toolchain) (source : Bytes)
    (workspace : Workspace) (state : σ) : Work σ :=
  match host.writeSource workspace source state with
  | (some cause, state) =>
    ⟨[], .generated, .nothing,
      some (.io Failure.Code.workspaceWrite (bytes "writing generated source") (some cause)), state⟩
  | (none, state) =>
    let work := afterWritten host toolchain source workspace state
    { work with
      journal := .completed (bytes "write") :: .entered .written [] :: work.journal }

/-! ## The whole build -/

/-- Take away the workspace. When that fails too, a failed build says so as well. -/
def cleanUp {σ : Type} (host : Host σ) (keeps : Bool) (workspace : Workspace) (work : Work σ) :
    Work σ :=
  if keeps then work
  else match host.removeWorkspace workspace work.state with
    | (none, state) => { work with state }
    | (some error, state) =>
      { work with
        journal := work.journal ++ [.removalFailed workspace.path error]
        error := match work.error with
          | none => none
          | some first => Error.combine? (some first) (some error)
        state }

/-- All of a build up to its conclusion, with the workspace if one was made. -/
def workOf {σ : Type} (host : Host σ) (toolchain : Toolchain) (keeps : Bool)
    (jobId source : Bytes) (state : σ) : Option Workspace × Work σ :=
  match host.createWorkspace jobId state with
  | (.error cause, state) =>
    (none, ⟨[], .generated, .nothing,
      some (.io Failure.Code.workspaceCreate (bytes "creating job workspace") (some cause)), state⟩)
  | (.ok workspace, state) =>
    (some workspace, cleanUp host keeps workspace (inWorkspace host toolchain source workspace state))

/-- Conclude a build: a failed one enters the stage of failure. -/
def conclude {σ : Type} (source : Bytes) (workspace : Option Workspace) (work : Work σ) : Outcome :=
  let begun : Journal := .entered .generated [] :: work.journal
  match work.error with
  | none =>
    ⟨work.stage, work.printed, begun.isHit, workspace, begun.trace source, none, begun⟩
  | some error =>
    let reason := reasonOf error
    let journal := begun ++ [.entered .failed reason, .failed reason error]
    ⟨.failed, work.printed, journal.isHit, workspace, journal.trace source, some error, journal⟩

/-! ## The stages of the plan -/

section Carried

variable {σ : Type} (host : Host σ) (toolchain : Toolchain) (source : Bytes)
  (workspace : Workspace) (state : σ)

/-- The work of a build by what its plan has come to. -/
def workBy (out : Journal × Ending × σ) : Work σ :=
  ⟨out.1, out.2.1.stage, out.2.1.printed, out.2.1.error, out.2.2⟩

/-- Keeping an artifact is the plan for it, carried out. -/
theorem keepArtifact_eq (key artifact : Bytes) :
    let out := (keeping host.cache.isSome key artifact).recordedBy host state
    keepArtifact host.cache key artifact state = (out.1, out.2.2) := by
  unfold keepArtifact keeping
  cases hcache : host.cache with
  | none => rfl
  | some access =>
    simp only [Option.isSome_some, if_true]
    rw [Plan.recordedBy_asking_bind]
    simp only [Host.answer, hcache]
    rcases access.store key artifact state with ⟨failure, after⟩
    cases failure <;> rfl

/-- Compiling afresh is the plan for it. -/
theorem compileFresh_eq (key : Bytes) :
    compileFresh host toolchain key workspace state
      = (compiling host.cache.isSome toolchain key workspace).recordedBy host state := by
  rw [compileFresh, compiling]
  rw [Plan.recordedBy_noting_bind, Plan.recordedBy_asking_bind,
    show host.answer (.compile toolchain workspace) state = host.compile toolchain workspace state
      from rfl]
  generalize host.compile toolchain workspace state = made
  obtain ⟨ended, middle⟩ := made
  dsimp only
  cases compileError? toolchain ended with
  | some error => rfl
  | none =>
    dsimp only
    rw [Plan.recordedBy_asking_bind]
    simp only [Host.answer]
    rcases host.readArtifact workspace middle with ⟨found, last⟩
    cases found with
    | error cause => rfl
    | ok artifact =>
      dsimp only
      rw [Plan.recordedBy_bind, keepArtifact_eq]
      simp [Plan.recordedBy_pure]

/-- Obtaining an artifact is the plan for it. -/
theorem obtainArtifact_eq :
    obtainArtifact host toolchain source workspace state
      = (obtaining host.cache.isSome toolchain source workspace).recordedBy host state := by
  have hfresh (key : Bytes) (state : σ) := compileFresh_eq host toolchain workspace state key
  unfold obtainArtifact obtaining
  cases hcache : host.cache with
  | none =>
    rw [hcache] at hfresh
    exact hfresh [] state
  | some access =>
    rw [hcache] at hfresh
    simp only [Option.isSome_some, if_true] at hfresh ⊢
    rw [Plan.recordedBy_asking_bind]
    simp only [Host.answer, hcache]
    rcases access.lookup (CacheKey.compute toolchain source) state with ⟨found, middle⟩
    rcases found with error | _ | artifact
    · dsimp only
      rw [Plan.recordedBy_noting_bind, Plan.recordedBy_noting_bind, hfresh]
    · dsimp only
      rw [Plan.recordedBy_noting_bind, hfresh]
    · dsimp only
      rw [Plan.recordedBy_asking_bind]
      simp only [Host.answer]
      rcases host.restoreArtifact workspace artifact middle with ⟨failure, last⟩
      cases failure <;> rfl

/-- What follows compiling is the plan for it. -/
theorem afterCompiled_eq :
    afterCompiled host workspace state = workBy ((executing workspace).recordedBy host state) := by
  unfold afterCompiled executing
  rw [Plan.recordedBy_asking_bind]
  simp only [Host.answer]
  rcases host.execute workspace state with ⟨ended, last⟩
  cases ended with
  | notStarted cause => rfl
  | interrupted why cause => rfl
  | completed exitCode stdout stderr =>
    dsimp only
    split <;> rfl

/-- What follows writing is the plan for it. -/
theorem afterWritten_eq :
    afterWritten host toolchain source workspace state
      = workBy ((buildingWritten host.cache.isSome toolchain source workspace).recordedBy host
        state) := by
  unfold afterWritten buildingWritten
  rw [Plan.recordedBy_bind, obtainArtifact_eq]
  rcases (obtaining host.cache.isSome toolchain source workspace).recordedBy host state
    with ⟨journal, failure, middle⟩
  cases failure with
  | some error =>
    simp [workBy, Plan.recordedBy_pure]
  | none =>
    dsimp only
    rw [Plan.recordedBy_noting_bind, Plan.recordedBy_noting_bind, afterCompiled_eq]
    rfl

/-- The work in a workspace is the plan for it. -/
theorem inWorkspace_eq :
    inWorkspace host toolchain source workspace state
      = workBy ((buildingIn host.cache.isSome toolchain source workspace).recordedBy host
        state) := by
  unfold inWorkspace buildingIn
  rw [Plan.recordedBy_asking_bind]
  simp only [Host.answer]
  rcases host.writeSource workspace source state with ⟨failure, middle⟩
  cases failure with
  | some cause => rfl
  | none =>
    dsimp only
    rw [Plan.recordedBy_noting_bind, Plan.recordedBy_noting_bind, afterWritten_eq]
    rfl

/-- Cleaning up is the plan for it. -/
theorem cleanUp_eq (keeps : Bool) (journal : Journal) (ending : Ending) :
    cleanUp host keeps workspace (workBy (journal, ending, state))
      = workBy (let out := (cleaningUp keeps workspace ending).recordedBy host state
        (journal ++ out.1, out.2)) := by
  unfold cleanUp cleaningUp
  split
  · simp [workBy, Plan.recordedBy_pure]
  · rw [Plan.recordedBy_asking_bind]
    simp only [Host.answer, workBy]
    rcases host.removeWorkspace workspace state with ⟨failure, last⟩
    cases failure with
    | none => simp [Plan.recordedBy_pure]
    | some error => rfl

/-- All the work of a build is the plan for it. -/
theorem workOf_eq (keeps : Bool) (jobId : Bytes) :
    let out := (buildingAll host.cache.isSome toolchain keeps jobId source).recordedBy host state
    workOf host toolchain keeps jobId source state
      = (out.2.1.1, workBy (out.1, out.2.1.2, out.2.2)) := by
  unfold workOf buildingAll
  rw [Plan.recordedBy_asking_bind]
  simp only [Host.answer]
  rcases host.createWorkspace jobId state with ⟨made, middle⟩
  cases made with
  | error cause => rfl
  | ok workspace =>
    dsimp only
    rw [Plan.recordedBy_bind, inWorkspace_eq]
    rcases (buildingIn host.cache.isSome toolchain source workspace).recordedBy host middle
      with ⟨journal, ending, later⟩
    rw [cleanUp_eq]
    dsimp only
    rw [Plan.recordedBy_bind]
    simp [Plan.recordedBy_pure]

/-- **The build by its stages.** What its plan comes to on a host is what the stages come to, one
after the other. -/
theorem run_eq_workOf (keeps : Bool) (jobId : Bytes) :
    run host toolchain keeps jobId source state =
      let (workspace, work) := workOf host toolchain keeps jobId source state
      (conclude source workspace work, work.state) := by
  change (fun out : Journal × (Option Workspace × Ending) × σ =>
    (outcomeBy source out.1 out.2.1.1 out.2.1.2, out.2.2))
    ((building host.cache.isSome toolchain keeps jobId source).recordedBy host state) = _
  rw [workOf_eq, building, Plan.recordedBy_noting_bind, Plan.recordedBy_bind]
  rcases (buildingAll host.cache.isSome toolchain keeps jobId source).recordedBy host state
    with ⟨journal, ⟨made, stage, printed, error⟩, after⟩
  cases error with
  | none =>
    simp [concluding, conclude, workBy, outcomeBy, Plan.recordedBy_bind, Plan.recordedBy_pure]
  | some error => rfl

end Carried

end Build

end FunctionChain
