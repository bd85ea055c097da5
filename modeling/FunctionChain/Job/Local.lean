import FunctionChain.Archive.Store
import FunctionChain.Build.Machine
import FunctionChain.Job.Service

/-!
# Jobs on a machine

The runner that builds and runs programs on a machine, and the archive of finished jobs there.
-/

namespace FunctionChain

namespace Job

variable [Build.DatabaseLibrary]

/-- A state with a machine in it. -/
class HasMachine (σ : Type) where
  machine : σ → Build.Machine
  withMachine : σ → Build.Machine → σ

instance : HasMachine Build.Machine := ⟨id, fun _ machine => machine⟩

/-- The runner that builds on the machine of a state. -/
def machineRunner {σ : Type} [HasMachine σ] (settings : Build.Settings) (temporary : Bytes)
    (environment : List Bytes) (counts : Bool) : Runner σ :=
  fun _ request source state =>
    let (outcome, machine) := (HasMachine.machine state.inner).build settings temporary environment
      (request.patience == .cancelled) request.jobId source
    let state := { state with inner := HasMachine.withMachine state.inner machine }
    let state := outcome.journal.entries.foldl (fun state entry => state.tell request.jobId entry) state
    let state := if counts then { state with metrics := state.metrics.countAll outcome.samples }
      else state
    (.normal (some ⟨outcome.printed.stdout, outcome.printed.exitCode, outcome.trace⟩) outcome.error,
      state)

/-- What is archived of a result. -/
def Result.finished (result : Result) : Archive.Finished :=
  ⟨result.jobId, result.kind.name, result.exitCode, result.source, result.failure, result.trace⟩

/-- Archive a result in a store on a machine. -/
def archiveOn (store : Archive.Store) (started ended : Timestamp) (result : Result)
    (machine : Build.Machine) : Option Error × Build.Machine :=
  match machine.act (store.archive result.finished started ended) with
  | (.ok problem, machine) => (problem, machine)
  | (.error error, machine) => (some error, machine)

end Job

end FunctionChain
