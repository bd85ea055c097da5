import FunctionChain.Job.Local
import FunctionChain.Proofs.Build.Failures

/-!
# How jobs end

A job that is not admitted or whose document gives no program ends before its runner is called; the
others end as the runner comes back (`handed?`). These are all the ways in which a job ends
(`compile_ends`).

With a runner that drives builds, or breaks down instead (`IsDriver`), every job has a sound result:
one that failed has a sound record, the digest of its program is known whether or not the driver has
returned, and there is a trace just if it has.
-/

namespace FunctionChain

namespace Job

/-! ## Drivers -/

/-- How a driver comes back with what a build has come to. -/
def returnOf (outcome : Build.Outcome) : Return :=
  .normal (some ⟨outcome.printed.stdout, outcome.printed.exitCode, outcome.trace⟩) outcome.error

/-- The ways in which a driver comes back from a program: it breaks down, or it returns what a build
on an ordinary host has come to. -/
inductive IsDriven (jobId source : Bytes) : Return → Prop where
  | panic (message : Bytes) : IsDriven jobId source (.panic message)
  | built {τ : Type} {host : Build.Host τ} (hhost : host.IsOrdinary) (toolchain : Build.Toolchain)
      (keeps : Bool) (before : τ) :
      IsDriven jobId source (returnOf (Build.run host toolchain keeps jobId source before).1)

/-- A runner that drives builds. -/
def IsDriver {σ : Type} (runner : Runner σ) : Prop :=
  ∀ nested request source state,
    IsDriven request.jobId source (runner nested request source state).1

/-- The runner that builds on a machine is a driver. -/
theorem machineRunner_isDriver [Build.DatabaseLibrary] {σ : Type} [HasMachine σ]
    (settings : Build.Settings) (temporary : Bytes) (environment : List Bytes) (counts : Bool) :
    IsDriver (machineRunner settings temporary environment counts : Runner σ) :=
  fun _ _ _ _ => .built (Build.Machine.host_isOrdinary _ _ _ _ _) _ _ _

variable {σ : Type}

/-! ## The end of a job -/

/-- Whether a runner has returned, as against broken down. -/
def Return.isNormal : Return → Bool
  | .normal .. => true
  | .panic _ => false

/-- Whether a job gets a slot: one is free, and its caller has not gone already. -/
def isAdmitted (free : Nat) (request : Request) : Bool :=
  free != 0 && request.patience.refusal?.isNone

/-- The program that a job hands to its runner and how the runner comes back, if the job gets so
far. -/
def handed? (service : Service σ) : (free : Nat) → Request → State σ → Option (Bytes × Return)
  | 0, _, _ => none
  | free + 1, request, state =>
    match request.patience.refusal?, Program.generate service.policy request.document with
    | none, .ok (source, environment) =>
      let state := { state with metrics := state.metrics.add activeSample 1 }.tell request.jobId
        ⟨.debug, bytes "Generated program",
          [(bytes "bindings", .int environment.size), (bytes "rebinds", .int environment.rebinds)]⟩
      some (source, (service.runner (compile service free) request source state).1)
    | _, _ => none

/-- The program that is generated for a job, if one is. -/
def program? (service : Service σ) (free : Nat) (request : Request) (state : State σ) :
    Option Bytes :=
  (handed? service free request state).map (·.1)

/-- Whether the runner of a job returns. -/
def hasReturned (service : Service σ) (free : Nat) (request : Request) (state : State σ) : Bool :=
  (handed? service free request state).any (·.2.isNormal)

/-- The error is classified, and its record is sound. -/
def IsReported (error : Error) : Prop :=
  ∃ record, Failure.classify error = some record ∧ record.IsSound

/-- A job that is not admitted is reported. -/
theorem isReported_admission (message : Bytes) : IsReported (.admission (some (.plain message))) :=
  ⟨_, rfl, Failure.isSound_of_startsVisibly rfl rfl rfl nofun⟩

/-- A document gives no program because it cannot be read, or because it refers to nothing. -/
theorem generate_eq_error {policy : ReferencePolicy} {document : Bytes} {error : Error}
    (h : Program.generate policy document = .error error) :
    (∃ problem : Document.Problem,
      Document.load document = .error problem.toError ∧ error = problem.toError) ∨
    ∃ graph, ∃ undefined : Reference.Undefined,
      Document.load document = .ok graph ∧ error = undefined.toError := by
  unfold Program.generate at h
  cases hload : Document.load document with
  | error first =>
    rw [hload] at h
    cases h
    unfold Document.load at hload
    cases hread : Document.read document with
    | ok graph =>
      rw [hread] at hload
      cases hload
    | error problem =>
      rw [hread] at hload
      cases hload
      exact .inl ⟨problem, rfl, rfl⟩
  | ok graph =>
    rw [hload] at h
    dsimp only at h
    split at h <;> cases h
    exact .inr ⟨graph, _, rfl, rfl⟩

/-- A document without a program is reported. -/
theorem isReported_generate {policy : ReferencePolicy} {document : Bytes} {error : Error}
    (h : Program.generate policy document = .error error) : IsReported error := by
  rcases generate_eq_error h with ⟨problem, -, rfl⟩ | ⟨-, undefined, -, rfl⟩
  · exact problem.isRecorded.classify
  · exact undefined.isRecorded.classify

/-- Concluding leaves the result as it was. -/
theorem conclude_fst (service : Service σ) (result : Result) (state : State σ) :
    (conclude service result state).1 = result := by
  unfold conclude
  dsimp only
  split
  · rfl
  · split <;> rfl

/-- A program is not empty. -/
theorem generate_ne_nil {policy : ReferencePolicy} {document source : Bytes}
    {environment : Environment}
    (h : Program.generate policy document = .ok (source, environment)) : source ≠ [] := by
  unfold Program.generate at h
  split at h
  · cases h
  · split at h <;> cases h
    exact List.append_ne_nil_of_right_ne_nil _ (by decide)

/-- The ways in which a job ends: it gets no slot, its document gives no program, or its runner
comes back. -/
inductive Ends (service : Service σ) (free : Nat) (request : Request) (state : State σ) :
    Result → Prop where
  | refused {message : Bytes} : isAdmitted free request = false →
      handed? service free request state = none →
      Ends service free request state
        ((Draft.start request.jobId).failWith (.admission (some (.plain message))))
  | unread {error : Error} : isAdmitted free request = true →
      Program.generate service.policy request.document = .error error →
      handed? service free request state = none →
      Ends service free request state ((Draft.start request.jobId).failWith error)
  | handed {source : Bytes} {environment : Environment} {nested : Handler σ} {before : State σ} :
      isAdmitted free request = true →
      Program.generate service.policy request.document = .ok (source, environment) →
      handed? service free request state
        = some (source, (service.runner nested request source before).1) →
      Ends service free request state ({ Draft.start request.jobId with source }.afterRun
        (service.runner nested request source before).1)

/-- Why a caller has gone is told by a message. -/
theorem Patience.exhausted_eq_plain (patience : Patience) :
    ∃ message, patience.exhausted = .plain message := by
  cases patience <;> exact ⟨_, rfl⟩

/-- Why a caller goes is told by a message. -/
theorem Patience.refusal?_eq_plain {patience : Patience} {cause : Error}
    (h : patience.refusal? = some cause) : ∃ message, cause = .plain message := by
  cases patience <;> cases h <;> exact ⟨_, rfl⟩

/-- Every job ends in one of these ways. -/
theorem compile_ends (service : Service σ) (free : Nat) (request : Request) (state : State σ) :
    Ends service free request state (compile service free request state).1 := by
  cases free with
  | zero =>
    obtain ⟨message, hmessage⟩ := request.patience.exhausted_eq_plain
    simp only [compile, conclude_fst, hmessage]
    exact .refused rfl rfl
  | succ free =>
    cases hrefusal : request.patience.refusal? with
    | some cause =>
      obtain ⟨message, rfl⟩ := Patience.refusal?_eq_plain hrefusal
      simp only [compile, hrefusal, conclude_fst]
      exact .refused (by simp [isAdmitted, hrefusal]) (by simp [handed?, hrefusal])
    | none =>
      have hadmitted : isAdmitted (free + 1) request = true := by simp [isAdmitted, hrefusal]
      simp only [compile, hrefusal, conclude_fst, work]
      cases hgenerate : Program.generate service.policy request.document with
      | error error =>
        exact .unread hadmitted hgenerate (by simp [handed?, hrefusal, hgenerate])
      | ok generated =>
        obtain ⟨source, environment⟩ := generated
        exact .handed hadmitted hgenerate (by simp only [handed?, hrefusal, hgenerate])

/-! ## Sound results -/

/-- `IsSound result jobId program hasReturned`: the result can be archived and tells of the job of
that id for which the program was generated, if any, and whose driver has returned or not. -/
structure Result.IsSound (result : Result) (jobId : Bytes) (program : Option Bytes)
    (hasReturned : Bool) : Prop where
  jobId : result.jobId = jobId
  exitCode : Word.IsSigned result.exitCode
  sourceHash : result.finished.sourceHash = program.elim [] Trace.sourceHash
  failed_iff : result.kind = .failed ↔ result.failure.isSome = true
  failure : ∀ record, result.failure = some record → record.IsSound
  trace_isSome : result.trace.isSome = hasReturned
  trace : ∀ trace, result.trace = some trace →
    trace.problem? = none ∧ ∃ encoded, trace.canonicalJson = .ok encoded

/-- The same of a draft, which becomes a result when the job ends. -/
def Draft.IsSound (draft : Draft) (jobId : Bytes) (program : Option Bytes) (hasReturned : Bool) :
    Prop :=
  ∀ payload, (draft.succeed payload).IsSound jobId program hasReturned

section Draft

variable {draft : Draft} {jobId : Bytes} {program : Option Bytes} {hasReturned : Bool}
  (h : draft.IsSound jobId program hasReturned)
include h

/-- Failing with a sound record is sound. -/
theorem Draft.IsSound.fail (error : Error) {record : Failure.Record} (hrecord : record.IsSound) :
    (draft.fail error record).IsSound jobId program hasReturned := by
  obtain ⟨hid, -, hhash, -, -, htrace, hvalid⟩ := h []
  have hexit : Word.IsSigned draft.exitCode := (h []).exitCode
  refine ⟨hid, ?_, hhash, ⟨fun _ => rfl, fun _ => rfl⟩, ?_, htrace, hvalid⟩
  · cases hcode : record.exitCode with
    | none => simpa [Draft.fail, hcode] using hexit
    | some code => simpa [Draft.fail, hcode] using hrecord.exitCode code hcode
  · rintro _ ⟨⟩
    exact hrecord

/-- Breaking down is sound. -/
theorem Draft.IsSound.breakDown (message : Bytes) :
    (draft.breakDown message).IsSound jobId program hasReturned := by
  obtain ⟨hid, -, hhash, hfailed, hfailure, htrace, hvalid⟩ := h []
  have hdraft : { draft with exitCode := 0 }.IsSound jobId program hasReturned := fun _ =>
    ⟨hid, Word.isSigned_zero, hhash, hfailed, hfailure, htrace, hvalid⟩
  exact hdraft.fail _ (Failure.isSound_of_startsVisibly rfl rfl rfl nofun)

/-- Failing with a reported error is sound. -/
theorem Draft.IsSound.failWith {error : Error} (herror : IsReported error) :
    (draft.failWith error).IsSound jobId program hasReturned := by
  obtain ⟨record, hrecord, hsound⟩ := herror
  simp only [Draft.failWith, hrecord]
  exact h.fail error hsound

end Draft

/-- A job that never got to its runner knows nothing of a program. -/
theorem isSound_start (jobId : Bytes) : (Draft.start jobId).IsSound jobId none false := fun _ =>
  ⟨rfl, Word.isSigned_zero, rfl, ⟨nofun, nofun⟩, nofun, rfl, nofun⟩

/-- A runner that breaks down leaves the program. -/
theorem isSound_handed (jobId : Bytes) {source : Bytes} (h : source ≠ []) :
    { Draft.start jobId with source }.IsSound jobId (some source) false := fun _ =>
  ⟨rfl, Word.isSigned_zero,
    by simp [Draft.succeed, Draft.start, Result.finished, Archive.Finished.sourceHash, h],
    ⟨nofun, nofun⟩, nofun, rfl, nofun⟩

/-- A driver that returns leaves the trace of its build. -/
theorem isSound_returned (jobId : Bytes) {source : Bytes} {τ : Type} {host : Build.Host τ}
    (hhost : host.IsOrdinary) (toolchain : Build.Toolchain) (keeps : Bool) (before : τ) :
    ({ Draft.start jobId with source }.afterRun
      (returnOf (Build.run host toolchain keeps jobId source before).1)).IsSound jobId
      (some source) true := by
  have hend := @Build.run_isOrdinary τ host toolchain hhost keeps jobId source before
  have htraced := Build.run_isTraced host toolchain keeps jobId source before
  generalize (Build.run host toolchain keeps jobId source before).1 = outcome at hend htraced
  obtain ⟨reason, word, -, htrace⟩ := htraced.language
  have hdraft : Draft.IsSound ⟨jobId, outcome.printed.exitCode, source, some outcome.trace⟩
      jobId (some source) true := by
    refine fun _ => ⟨rfl, hend.exitCode, ?_, ⟨nofun, nofun⟩, nofun, rfl, ?_⟩
    · exact congrArg Trace.source htrace
    · rintro _ ⟨⟩
      exact ⟨htraced.valid, htraced.canonical⟩
  cases herror : outcome.error with
  | none =>
    rw [returnOf, herror]
    exact hdraft outcome.printed.stdout
  | some error =>
    rw [returnOf, herror]
    exact hdraft.failWith (hend.recorded error herror).classify

/-- **Endings.** With a driver for a runner every job has a sound result. -/
theorem compile_isSound {service : Service σ} (hdriver : IsDriver service.runner) (free : Nat)
    (request : Request) (state : State σ) :
    (compile service free request state).1.IsSound request.jobId
      (program? service free request state) (hasReturned service free request state) := by
  unfold program? hasReturned
  have hends := compile_ends service free request state
  generalize (compile service free request state).1 = result at hends
  cases hends with
  | refused _ hhanded =>
    rw [hhanded]
    exact (isSound_start request.jobId).failWith (isReported_admission _)
  | unread _ hgenerate hhanded =>
    rw [hhanded]
    exact (isSound_start request.jobId).failWith (isReported_generate hgenerate)
  | @handed source environment nested before _ hgenerate hhanded =>
    rw [hhanded]
    have hdriven := hdriver nested request source before
    generalize (service.runner nested request source before).1 = returned at hdriven
    cases hdriven with
    | panic message =>
      exact (isSound_handed request.jobId (generate_ne_nil hgenerate)).breakDown message
    | built hhost toolchain keeps before =>
      exact isSound_returned request.jobId hhost toolchain keeps before

end Job

end FunctionChain
