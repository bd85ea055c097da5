import FunctionChain.Build.Machine
import FunctionChain.Proofs.Files.Action
import FunctionChain.Proofs.Text.Decimal

/-!
# Errors of hosts

The errors that end a build are those of the steps of its host, or have them for their cause. A host
whose steps report whole errors (`Host.ReportsWhole`) has builds that are classified when they fail.
A host is ordinary (`Host.IsOrdinary`) when the errors of its steps come from outside and the exit
codes of its programs are machine words, and apart (`Host.IsApart`) when none of the errors is that
of a job without a slot. A machine is both: its errors come from its files and from the programs it
launches.
-/

namespace FunctionChain

namespace Build

/-- The error of a program that did not end by itself is whole. -/
def Ended.IsWhole : Ended → Prop
  | .completed .. => True
  | .notStarted cause | .interrupted _ cause => cause.IsWhole

/-- The errors that the steps of a build report are whole. The errors of the cache do not matter:
they are no failures of a build. -/
structure Host.ReportsWhole {σ : Type} (host : Host σ) : Prop where
  createWorkspace : ∀ {jobId state error},
    (host.createWorkspace jobId state).1 = .error error → error.IsWhole
  writeSource : ∀ {workspace source state error},
    (host.writeSource workspace source state).1 = some error → error.IsWhole
  restoreArtifact : ∀ {workspace artifact state error},
    (host.restoreArtifact workspace artifact state).1 = some error → error.IsWhole
  compile : ∀ toolchain workspace state, (host.compile toolchain workspace state).1.IsWhole
  readArtifact : ∀ {workspace state error},
    (host.readArtifact workspace state).1 = .error error → error.IsWhole
  execute : ∀ workspace state, (host.execute workspace state).1.IsWhole
  removeWorkspace : ∀ {workspace state error},
    (host.removeWorkspace workspace state).1 = some error → error.IsWhole

/-- A program has ended with an exit code that is a machine word, or not by itself and for a reason
from outside. -/
def Ended.IsOrdinary : Ended → Prop
  | .completed exitCode .. => Word.IsSigned exitCode
  | .notStarted cause | .interrupted _ cause => cause.IsForeign

/-- What ends in an ordinary way leaves a whole error, if any. -/
theorem Ended.IsOrdinary.isWhole {ended : Ended} (h : ended.IsOrdinary) : ended.IsWhole := by
  cases ended with
  | completed => exact trivial
  | notStarted cause => exact Error.IsForeign.whole h
  | interrupted why cause => exact Error.IsForeign.whole h

/-- The errors that the steps of a build report come from outside, and its programs end as programs
do. -/
structure Host.IsOrdinary {σ : Type} (host : Host σ) : Prop where
  createWorkspace : ∀ {jobId state error},
    (host.createWorkspace jobId state).1 = .error error → error.IsForeign
  writeSource : ∀ {workspace source state error},
    (host.writeSource workspace source state).1 = some error → error.IsForeign
  restoreArtifact : ∀ {workspace artifact state error},
    (host.restoreArtifact workspace artifact state).1 = some error → error.IsForeign
  compile : ∀ toolchain workspace state, (host.compile toolchain workspace state).1.IsOrdinary
  readArtifact : ∀ {workspace state error},
    (host.readArtifact workspace state).1 = .error error → error.IsForeign
  execute : ∀ workspace state, (host.execute workspace state).1.IsOrdinary
  removeWorkspace : ∀ {workspace state error},
    (host.removeWorkspace workspace state).1 = some error → error.IsForeign

/-- An ordinary host reports whole errors. -/
theorem Host.IsOrdinary.reportsWhole {σ : Type} {host : Host σ} (h : host.IsOrdinary) :
    host.ReportsWhole where
  createWorkspace he := (h.createWorkspace he).whole
  writeSource he := (h.writeSource he).whole
  restoreArtifact he := (h.restoreArtifact he).whole
  compile toolchain workspace state := (h.compile toolchain workspace state).isWhole
  readArtifact he := (h.readArtifact he).whole
  execute workspace state := (h.execute workspace state).isWhole
  removeWorkspace he := (h.removeWorkspace he).whole

/-! ## Reports -/

/-- The error of a program that did not end by itself. -/
def Ended.cause? : Ended → Option Error
  | .completed .. => none
  | .notStarted cause | .interrupted _ cause => some cause

/-- The errors that the steps of a build report. -/
inductive Host.Reports {σ : Type} (host : Host σ) : Error → Prop where
  | createWorkspace {jobId : Bytes} {state : σ} {error : Error} :
      (host.createWorkspace jobId state).1 = .error error → host.Reports error
  | writeSource {workspace : Workspace} {source : Bytes} {state : σ} {error : Error} :
      (host.writeSource workspace source state).1 = some error → host.Reports error
  | restoreArtifact {workspace : Workspace} {artifact : Bytes} {state : σ} {error : Error} :
      (host.restoreArtifact workspace artifact state).1 = some error → host.Reports error
  | compile {toolchain : Toolchain} {workspace : Workspace} {state : σ} {error : Error} :
      (host.compile toolchain workspace state).1.cause? = some error → host.Reports error
  | readArtifact {workspace : Workspace} {state : σ} {error : Error} :
      (host.readArtifact workspace state).1 = .error error → host.Reports error
  | execute {workspace : Workspace} {state : σ} {error : Error} :
      (host.execute workspace state).1.cause? = some error → host.Reports error
  | removeWorkspace {workspace : Workspace} {state : σ} {error : Error} :
      (host.removeWorkspace workspace state).1 = some error → host.Reports error

/-- The exit codes that the programs of a build leave. -/
inductive Host.Leaves {σ : Type} (host : Host σ) : Int → Prop where
  | compile {toolchain : Toolchain} {workspace : Workspace} {state : σ} {exitCode : Int}
      {stdout stderr : Bytes} :
      (host.compile toolchain workspace state).1 = .completed exitCode stdout stderr →
      host.Leaves exitCode
  | execute {workspace : Workspace} {state : σ} {exitCode : Int} {stdout stderr : Bytes} :
      (host.execute workspace state).1 = .completed exitCode stdout stderr → host.Leaves exitCode

/-- The cause of an ordinary end is foreign. -/
theorem Ended.IsOrdinary.isForeign {ended : Ended} (h : ended.IsOrdinary) {error : Error}
    (he : ended.cause? = some error) : error.IsForeign := by
  cases ended with
  | completed => cases he
  | notStarted cause =>
    cases he
    exact h
  | interrupted why cause =>
    cases he
    exact h

/-- The errors of an ordinary host are foreign. -/
theorem Host.IsOrdinary.isForeign {σ : Type} {host : Host σ} (h : host.IsOrdinary) {error : Error}
    (he : host.Reports error) : error.IsForeign := by
  cases he with
  | createWorkspace he => exact h.createWorkspace he
  | writeSource he => exact h.writeSource he
  | restoreArtifact he => exact h.restoreArtifact he
  | compile he => exact (h.compile _ _ _).isForeign he
  | readArtifact he => exact h.readArtifact he
  | execute he => exact (h.execute _ _).isForeign he
  | removeWorkspace he => exact h.removeWorkspace he

/-- The exit codes of an ordinary host are signed numbers. -/
theorem Host.IsOrdinary.isSigned {σ : Type} {host : Host σ} (h : host.IsOrdinary) {exitCode : Int}
    (he : host.Leaves exitCode) : Word.IsSigned exitCode := by
  cases he with
  | @compile toolchain workspace state _ _ _ he =>
    have hended := h.compile toolchain workspace state
    rwa [he] at hended
  | @execute workspace state _ _ _ he =>
    have hended := h.execute workspace state
    rwa [he] at hended

/-- The host has nothing to do with the admission of jobs: no error that it reports is about one. -/
def Host.IsApart {σ : Type} (host : Host σ) : Prop :=
  ∀ error, host.Reports error → error.find .admission = .nothing

/-! ## Exit codes -/

/-- A program that exits leaves one byte. -/
def EndsByte : Script.Ending → Prop
  | .exited status => status < 256
  | .killed | .late => True

/-- A script that has run to its end leaves a byte. -/
theorem endsByte_endingOf (state : Script.State) : EndsByte (Script.endingOf state).1 := by
  unfold Script.endingOf
  dsimp only
  split
  · exact trivial
  · split
    · exact Nat.mod_lt _ (by decide)
    · exact Nat.mod_lt _ (by decide)
    · exact trivial
    · exact Nat.mod_lt _ (by decide)

/-- A script leaves a byte whatever it does. -/
theorem endsByte_execute (state : Script.State) (start : Script.Start) :
    EndsByte (Script.execute state start).1 := by
  have hmisuse : EndsByte (.exited 2) := by simp [EndsByte]
  unfold Script.execute
  dsimp only
  split
  · split
    · exact hmisuse
    · unfold Script.executeScript
      dsimp only
      split
      · exact hmisuse
      · exact endsByte_endingOf _
  · exact endsByte_endingOf _

/-- What is completed has a byte for its exit code, or the one for signals. -/
theorem outcomeOf_exitCode {ending : Script.Ending} (h : EndsByte ending) {state : Script.State}
    {exitCode : Int} {stdout stderr : Bytes}
    (hcompleted : Launch.outcomeOf ending state = .completed exitCode stdout stderr) :
    -1 ≤ exitCode ∧ exitCode < 256 := by
  cases ending with
  | exited status =>
    cases hcompleted
    have hbyte : status < 256 := h
    omega
  | killed =>
    cases hcompleted
    decide
  | late => cases hcompleted

/-- The exit code of a launched program is a byte, or `-1` when a signal has ended it. -/
theorem launch_exitCode {request : Launch.Request} {limit : Option Nat} {tree : Files.Tree}
    {exitCode : Int} {stdout stderr : Bytes}
    (h : (Launch.run request limit tree).1 = .completed exitCode stdout stderr) :
    -1 ≤ exitCode ∧ exitCode < 256 := by
  unfold Launch.run at h
  split at h
  · cases h
  split at h
  · dsimp only at h
    split at h
    · cases h
    split at h
    · exact outcomeOf_exitCode (endsByte_execute _ _) h
    · cases h
  · cases h

/-! ## Machines -/

open Files Action

namespace Workspace

/-- Creating a workspace fails by a fault of the files at most. -/
theorem create_failsByFault (temporary root jobId : Bytes) :
    FailsByFault (create temporary root jobId) := by
  refine failsByFault_get.bind fun tree => ?_
  refine ((makeDirectoriesWithin_failsByFault _ _ _).labelled _).bind fun _ => ?_
  refine ((makeTemporaryDirectory_failsByFault _ _).labelled _).bind fun path => ?_
  exact failsByFault_pure _

/-- Removing a workspace fails by a fault of the files at most. -/
theorem remove_failsByFault (workspace : Workspace) : FailsByFault workspace.remove := by
  unfold remove
  split
  · exact failsByFault_pure _
  · exact removeAll_failsByFault _

end Workspace

namespace Machine

variable [DatabaseLibrary] {α : Type} {machine : Machine} {action : Action α}

/-- What fails by a fault does so on a machine. -/
theorem act_isFault (h : FailsByFault action) {error : Error}
    (he : (machine.act action).1 = .error error) : error.IsFault :=
  h machine.tree error he

/-- So does an attempt at it. -/
theorem attempt_isFault (h : FailsByFault action) {error : Error}
    (he : (machine.attempt action).1 = some error) : error.IsFault := by
  unfold attempt at he
  cases ha : machine.act action with
  | mk result after =>
    rw [ha] at he
    cases result with
    | ok result => cases he
    | error first =>
      cases he
      exact act_isFault h (congrArg Prod.fst ha)

/-- Programs that a machine launches end in ordinary ways. -/
theorem launch_isOrdinary (isCancelled : Bool) (request : Launch.Request) (timeout : Duration) :
    (machine.launch isCancelled request timeout).1.IsOrdinary := by
  unfold launch
  split
  · exact Error.isForeign_plain _
  · dsimp only
    split
    · next hcompleted =>
      obtain ⟨hlow, hhigh⟩ := launch_exitCode hcompleted
      exact ⟨Int.le_trans (by decide) hlow, Int.lt_trans hhigh (by decide)⟩
    · exact Error.isForeign_plain _
    · exact Error.isForeign_plain _

/-- A machine is an ordinary host. -/
theorem host_isOrdinary (settings : Settings) (temporary : Bytes) (environment : List Bytes)
    (hasCache isCancelled : Bool) :
    (host settings temporary environment hasCache isCancelled).IsOrdinary where
  createWorkspace h := (act_isFault (Workspace.create_failsByFault _ _ _) h).isForeign
  writeSource h := (attempt_isFault (replaceFile_failsByFault _ _ _) h).isForeign
  restoreArtifact h := (attempt_isFault (writeFile_failsByFault _ _ _) h).isForeign
  compile _ _ _ := launch_isOrdinary _ _ _
  readArtifact h := (act_isFault (contents_failsByFault _) h).isForeign
  execute _ _ := launch_isOrdinary _ _ _
  removeWorkspace h := (attempt_isFault (Workspace.remove_failsByFault _) h).isForeign

/-- What is wrong with a launch is told by a message. -/
theorem launch_cause {isCancelled : Bool} {request : Launch.Request} {timeout : Duration}
    {error : Error} (h : (machine.launch isCancelled request timeout).1.cause? = some error) :
    ∃ message, error = .plain message := by
  unfold launch at h
  split at h
  · cases h
    exact ⟨_, rfl⟩
  · dsimp only at h
    split at h <;> cases h <;> exact ⟨_, rfl⟩

/-- What a machine reports is a fault of its files, or a message about a program. -/
theorem host_reports {settings : Settings} {temporary : Bytes} {environment : List Bytes}
    {hasCache isCancelled : Bool} {error : Error}
    (h : (host settings temporary environment hasCache isCancelled).Reports error) :
    error.IsFault ∨ ∃ message, error = .plain message := by
  cases h with
  | createWorkspace h => exact .inl (act_isFault (Workspace.create_failsByFault _ _ _) h)
  | writeSource h => exact .inl (attempt_isFault (replaceFile_failsByFault _ _ _) h)
  | restoreArtifact h => exact .inl (attempt_isFault (writeFile_failsByFault _ _ _) h)
  | compile h => exact .inr (launch_cause h)
  | readArtifact h => exact .inl (act_isFault (contents_failsByFault _) h)
  | execute h => exact .inr (launch_cause h)
  | removeWorkspace h => exact .inl (attempt_isFault (Workspace.remove_failsByFault _) h)

/-- No error that a machine reports is about the admission of jobs. -/
theorem host_isApart (settings : Settings) (temporary : Bytes) (environment : List Bytes)
    (hasCache isCancelled : Bool) :
    (host settings temporary environment hasCache isCancelled).IsApart := by
  intro error h
  rcases host_reports h with hfault | ⟨message, rfl⟩
  · exact hfault.find_eq_nothing .admission
  · rfl

/-- A machine reports whole errors. -/
theorem host_reportsWhole (settings : Settings) (temporary : Bytes) (environment : List Bytes)
    (hasCache isCancelled : Bool) :
    (host settings temporary environment hasCache isCancelled).ReportsWhole :=
  (host_isOrdinary settings temporary environment hasCache isCancelled).reportsWhole

end Machine

end Build

end FunctionChain
