import FunctionChain.Proofs.Archive.Finished
import FunctionChain.Proofs.Job.Endings

/-!
# Jobs in the archive

Whatever a job comes to, its result can be archived, and the archive tells afterwards what has
happened (`archive_tells`).
-/

namespace FunctionChain

namespace Job

open Files (Tree)

/-- A sound result of a job with a valid id can be archived. -/
theorem Result.IsSound.finished {result : Result} {jobId : Bytes} {program : Option Bytes}
    {hasReturned : Bool} (h : result.IsSound jobId program hasReturned)
    (hid : Archive.IsJobId jobId) : result.finished.IsSound where
  jobId := by
    rw [← h.jobId] at hid
    exact hid
  status := by cases hkind : result.kind <;> simp only [Result.finished, hkind] <;> decide
  exitCode := h.exitCode
  failure := h.failure
  trace := h.trace

/-- The names of kinds are not changed by sanitizing. -/
theorem sanitized_kind (kind : Kind) : Utf8.sanitized kind.name = kind.name := by
  cases kind <;> decide

/-- Digests are ASCII. -/
theorem sanitized_sourceHash (program : Option Bytes) :
    Utf8.sanitized (program.elim [] Trace.sourceHash) = program.elim [] Trace.sourceHash := by
  cases program with
  | none => rfl
  | some source => exact Utf8.sanitized_of_low fun _ hb => Hex.low_of_mem_ofBytes hb

/-- **Archived jobs.** Let a driver be the runner of a service, as the runner on a machine is, and
let a job end in any way: not admitted, without a program, with a driver that breaks down, or with
what its build has come to. If the id of the job is valid and not in the archive, and the clock was
read before and after it, then it is archived unless a file operation fails. The archive then tells
how the job ended, with which exit code and over which program; it has a failure just if the job
failed, and a trace, in its canonical form, just if the driver returned. -/
theorem archive_tells :
    (∀ [Build.DatabaseLibrary] (σ : Type) [HasMachine σ] (settings : Build.Settings)
      (temporary : Bytes) (environment : List Bytes) (counts : Bool),
      IsDriver (machineRunner settings temporary environment counts : Runner σ)) ∧
    ∀ {σ : Type} (service : Service σ) (free : Nat) (request : Request) (state : State σ)
      (store : Archive.Store) (tree : Tree) (started ended : Timestamp),
      IsDriver service.runner → tree.IsProper → Archive.IsJobId request.jobId →
      tree.isThere (store.directory request.jobId) = false →
      Timestamp.AreReadings started ended →
      let result := (compile service free request state).1
      ∃ problem after,
        (store.archive result.finished started ended).on tree = (.ok problem, after) ∧
        ((∀ error, problem = some error → ¬ error.TellsFault) →
          problem = none ∧
          (∃ record, (store.loadJob request.jobId).on after = (.ok record, after) ∧
            record.status = result.kind.name ∧ record.exitCode = result.exitCode ∧
            record.sourceHash = (program? service free request state).elim [] Trace.sourceHash) ∧
          (∃ failure, (store.loadFailure request.jobId).on after = (.ok failure, after) ∧
            (failure.isSome = true ↔ result.kind = .failed)) ∧
          after.isThere (store.tracePath request.jobId) = hasReturned service free request state ∧
          (hasReturned service free request state = true → ∃ trace encoded,
            result.trace = some trace ∧ trace.canonicalJson = .ok encoded ∧
            (Files.contents (store.tracePath request.jobId)).on after = (.ok encoded, after))) := by
  refine ⟨fun _ _ => machineRunner_isDriver, ?_⟩
  intro σ service free request state store tree started ended hdriver hproper hid hnew hclock result
  have hsound : result.IsSound request.jobId _ _ := compile_isSound hdriver free request state
  have hjobId : result.finished.jobId = request.jobId := hsound.jobId
  obtain ⟨problem, after, harchive, hcase⟩ :=
    @Archive.Store.archive_spec store _ _ _ (hsound.finished hid) hclock tree hproper
      (by rwa [hjobId])
  rw [hjobId] at hcase
  refine ⟨problem, after, harchive, fun hfaults => ?_⟩
  rcases hcase with ⟨error, herror, htells⟩ | ⟨hnone, hjob, hfailure, hstat⟩
  · exact absurd htells (hfaults error herror)
  refine ⟨hnone, ⟨_, hjob, ?_, rfl, ?_⟩, ⟨_, hfailure, ?_⟩, ?_⟩
  · exact sanitized_kind result.kind
  · exact (congrArg Utf8.sanitized hsound.sourceHash).trans (sanitized_sourceHash _)
  · rw [hsound.failed_iff, Option.isSome_map]
    rfl
  · rw [← hsound.trace_isSome]
    have htrace : result.finished.trace = result.trace := rfl
    rw [htrace] at hstat
    cases hcase : result.trace with
    | none =>
      rw [hcase] at hstat
      exact ⟨by rw [Tree.isThere, hstat]; rfl, nofun⟩
    | some trace =>
      obtain ⟨-, encoded, hencoded⟩ := hsound.trace trace hcase
      rw [hcase, Option.bind_some, hencoded] at hstat
      exact ⟨by rw [Tree.isThere, hstat]; rfl,
        fun _ => ⟨trace, encoded, rfl, hencoded, Files.on_contents hstat⟩⟩

/-! ## A job that broke down -/

namespace Sample

/-- A service whose runner breaks down over every program. -/
def service : Service Unit where
  policy := .strict
  runner := fun _ _ _ state => (.panic (bytes "out of memory"), state)
  archive := none

def request : Request where
  jobId := bytes "job 1"
  document := bytes "\x7b\"functions\":[\x7b\"name\":\"x\",\"function\":\"f\"\x7d]\x7d"
  patience := .patient

def store : Archive.Store := ⟨bytes "/rec"⟩

def started : Timestamp := ⟨63900000000, 999999999, 3600⟩

def ended : Timestamp := ⟨63900000001, 0, -12600⟩

/-- What is archived of it is its program, though there is no trace, and its failure. -/
theorem archive_brokenDown :
    ∃ after record source failure,
      (store.archive (compile service 1 request (.start ())).1.finished started ended).on .empty
        = (.ok none, after) ∧
      (store.loadJob (bytes "job 1")).on after = (.ok record, after) ∧
      record.status = bytes "Failed" ∧
      program? service 1 request (.start ()) = some source ∧
      record.sourceHash = Trace.sourceHash source ∧
      (store.loadFailure (bytes "job 1")).on after = (.ok (some failure), after) ∧
      after.isThere (store.tracePath (bytes "job 1")) = false := by
  have hclock : Timestamp.AreReadings started ended :=
    ⟨⟨by decide, by decide, by decide⟩, ⟨by decide, by decide, by decide⟩, by decide⟩
  obtain ⟨problem, after, harchive, htells⟩ := archive_tells.2 service 1 request (.start ()) store
    .empty started ended (fun _ _ _ _ => .panic _) (by decide)
    ⟨by decide, by decide, by decide, by decide, by decide⟩ (by decide +kernel) hclock
  have hnone : problem = none := by
    have heval : ((store.archive (compile service 1 request (.start ())).1.finished started
        ended).on .empty).1.toOption.map (·.isNone) = some true := by decide +kernel
    rw [harchive] at heval
    exact Option.isNone_iff_eq_none.1 (Option.some.inj heval)
  have hkind : (compile service 1 request (.start ())).1.kind = .failed := by decide +kernel
  have hreturned : hasReturned service 1 request (.start ()) = false := by decide +kernel
  subst hnone
  obtain ⟨-, ⟨record, hjob, hstatus, -, hhash⟩, ⟨failure, hfailure, hfailed⟩, htrace, -⟩ :=
    htells nofun
  obtain ⟨source, hsource⟩ := Option.isSome_iff_exists.1
    (by decide +kernel : (program? service 1 request (.start ())).isSome = true)
  obtain ⟨failure, rfl⟩ := Option.isSome_iff_exists.1 (hfailed.2 hkind)
  refine ⟨after, record, source, failure, harchive, hjob, ?_, hsource, ?_, hfailure, ?_⟩
  · rw [hstatus, hkind]
    rfl
  · rw [hhash, hsource]
    rfl
  · rw [hreturned] at htrace
    exact htrace

end Sample

end Job

end FunctionChain
