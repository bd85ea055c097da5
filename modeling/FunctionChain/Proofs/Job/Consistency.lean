import FunctionChain.Proofs.Job.Endings

/-!
# Consistent results

The fields of a result are filled in at different moments, and a job that breaks down half way has
them filled in once more. All the same they fit together, whatever the runner does
(`compile_consistent`): the kind, the error and the record of the failure agree, and the program and
the trace are there just if the job has got so far. With a driver for a runner the exit code, the
payload and the trace tell of the same failure as well (`Result.IsFaithful`).

Results are made of drafts in two ways, by `Draft.succeed` and `Draft.fail`, and a breakdown is a
failure too. So each fact is proved for these two and carried to the end of the job.
-/

namespace FunctionChain

namespace Job

/-! ## How runners come back -/

/-- The trace that a runner returns. -/
def Return.trace? : Return → Option Trace
  | .normal report _ => report.map (·.trace)
  | .panic _ => none

/-- Whether a job breaks down when its runner comes back so: the runner has broken down, it has
returned neither a report nor an error, or its error cannot be classified. -/
def Return.breaksDown : Return → Bool
  | .panic _ => true
  | .normal report none => report.isNone
  | .normal _ (some error) => (Failure.classify error).isNone

/-! ## Kind, error and failure -/

/-- The kind, the error, the record and the payload of a result agree. The record is that of the
error, save for the code when the job has broken down. -/
structure Result.IsConsistent (result : Result) (hasBrokenDown : Bool) : Prop where
  succeeded_iff : result.kind = .succeeded ↔ result.error = none
  error_iff : result.error = none ↔ result.failure = none
  failed : ∀ record, result.failure = some record → result.payload = record.text ∧
    ∃ error classified, result.error = some error ∧ Failure.classify error = some classified ∧
      record = if hasBrokenDown then { classified with code := Failure.Code.crash } else classified

section Draft

variable (draft : Draft)

/-- A job that succeeds is consistent. -/
theorem Draft.succeed_isConsistent (payload : Bytes) (hasBrokenDown : Bool) :
    (draft.succeed payload).IsConsistent hasBrokenDown :=
  ⟨⟨fun _ => rfl, fun _ => rfl⟩, ⟨fun _ => rfl, fun _ => rfl⟩, nofun⟩

/-- A job that fails with its own classified error is consistent. -/
theorem Draft.fail_isConsistent {error : Error} {classified : Failure.Record}
    (h : Failure.classify error = some classified) (hasBrokenDown : Bool) :
    (draft.fail error (if hasBrokenDown then { classified with code := Failure.Code.crash }
      else classified)).IsConsistent hasBrokenDown := by
  refine ⟨⟨nofun, nofun⟩, ⟨nofun, nofun⟩, ?_⟩
  rintro _ ⟨⟩
  exact ⟨rfl, error, classified, rfl, h, rfl⟩

/-- A job whose runner breaks down is consistent. -/
theorem Draft.breakDown_isConsistent (message : Bytes) :
    (draft.breakDown message).IsConsistent true :=
  Draft.fail_isConsistent _ rfl true

/-- A job that fails is consistent, even if its error cannot be classified. -/
theorem Draft.failWith_isConsistent (error : Error) :
    (draft.failWith error).IsConsistent (Failure.classify error).isNone := by
  unfold Draft.failWith
  cases hclassify : Failure.classify error with
  | none => exact draft.breakDown_isConsistent absenceMessage
  | some record => exact draft.fail_isConsistent hclassify false

/-- A job is consistent however its runner comes back. -/
theorem Draft.afterRun_isConsistent (returned : Return) :
    (draft.afterRun returned).IsConsistent returned.breaksDown := by
  cases returned with
  | panic message => exact draft.breakDown_isConsistent message
  | normal report error =>
    cases error with
    | some error => exact Draft.failWith_isConsistent _ error
    | none =>
      cases report with
      | none => exact draft.breakDown_isConsistent absenceMessage
      | some report => exact Draft.succeed_isConsistent _ report.stdout false

/-! ## Program and trace -/

/-- Failing keeps the program. -/
theorem Draft.failWith_source (error : Error) : (draft.failWith error).source = draft.source := by
  unfold Draft.failWith
  split <;> rfl

/-- Failing keeps the trace. -/
theorem Draft.failWith_trace (error : Error) : (draft.failWith error).trace = draft.trace := by
  unfold Draft.failWith
  split <;> rfl

/-- The program stays when the runner comes back. -/
theorem Draft.afterRun_source (returned : Return) :
    (draft.afterRun returned).source = draft.source := by
  cases returned with
  | panic message => rfl
  | normal report error =>
    cases error with
    | some error =>
      cases report with
      | none => exact draft.failWith_source error
      | some report => exact Draft.failWith_source _ error
    | none => cases report <;> rfl

/-- The trace of a report is kept, also when the job breaks down after it. -/
theorem Draft.afterRun_trace (h : draft.trace = none) (returned : Return) :
    (draft.afterRun returned).trace = returned.trace? := by
  cases returned with
  | panic message => exact h
  | normal report error =>
    cases error with
    | some error =>
      cases report with
      | none => exact (draft.failWith_trace error).trans h
      | some report => exact Draft.failWith_trace _ error
    | none =>
      cases report with
      | none => exact h
      | some report => rfl

end Draft

/-! ## Results of drivers -/

/-- The exit code, the payload and the trace of a result tell of the failure that its record tells
of. -/
structure Result.IsFaithful (result : Result) : Prop where
  exitCode : result.exitCode = (result.failure.bind (·.exitCode)).getD 0
  payload : result.kind = .failed → Blank.isAllBlank result.payload = false
  reason : ∀ trace record, result.trace = some trace → result.failure = some record →
    (∃ event ∈ trace.events, Build.EntersFailure event) ∧
      ∀ event ∈ trace.events, Build.EntersFailure event → event.reason = record.code

/-- A record with a visible message has a visible text. -/
theorem isAllBlank_text {record : Failure.Record} (h : Blank.isAllBlank record.message = false) :
    Blank.isAllBlank record.text = false := by
  unfold Failure.Record.text
  split
  · exact h
  · next hdiagnostic => exact Bool.eq_false_iff.2 hdiagnostic

/-- A job that failed without a trace, and with an exit code only if its record has it. -/
theorem Draft.fail_isFaithful {draft : Draft} (hexit : draft.exitCode = 0)
    (htrace : draft.trace = none) (error : Error) {record : Failure.Record}
    (hrecord : record.IsSound) : (draft.fail error record).IsFaithful where
  exitCode := congrArg record.exitCode.getD hexit
  payload _ := isAllBlank_text (Archive.invalid?_failure_eq_none_iff.1 hrecord.valid).2.2
  reason trace _ h _ := by cases htrace.symm.trans h

/-- A job that fails before it is run is faithful. -/
theorem Draft.failWith_isFaithful {draft : Draft} (hexit : draft.exitCode = 0)
    (htrace : draft.trace = none) {error : Error} (herror : IsReported error) :
    (draft.failWith error).IsFaithful := by
  obtain ⟨record, hclassify, hrecord⟩ := herror
  simp only [Draft.failWith, hclassify]
  exact Draft.fail_isFaithful hexit htrace error hrecord

/-- What a build comes to makes a faithful result. -/
theorem isFaithful_returned (jobId : Bytes) {source : Bytes} {τ : Type} {host : Build.Host τ}
    (hhost : host.IsOrdinary) (toolchain : Build.Toolchain) (keeps : Bool) (before : τ) :
    ({ Draft.start jobId with source }.afterRun
      (returnOf (Build.run host toolchain keeps jobId source before).1)).IsFaithful := by
  have hends := @Build.run_endsWith τ host toolchain keeps jobId source before
  have htraced := Build.run_isTraced host toolchain keeps jobId source before
  generalize (Build.run host toolchain keeps jobId source before).1 = outcome at hends htraced
  dsimp only at hends
  cases herror : outcome.error with
  | none =>
    rw [herror] at hends
    have hexit : outcome.printed.exitCode = 0 := by
      generalize outcome.printed = printed at hends
      cases hends
      rfl
    rw [returnOf, herror]
    refine ⟨hexit, fun hkind => ?_, fun _ _ _ hfailure => ?_⟩
    · cases hkind
    · cases hfailure
  | some error =>
    rw [herror] at hends
    obtain ⟨node, record, hnode, hrecord, hbuild⟩ := hends.exists_onlyHas hhost
    have hclassify := Failure.classify_of_onlyHas hnode hrecord
    simp only [returnOf, herror, Draft.afterRun, Draft.failWith, hclassify]
    refine ⟨?_, fun _ => isAllBlank_text (Blank.isAllBlank_of_startsVisibly hbuild.message), ?_⟩
    · cases hexit : record.exitCode with
      | none => simp [Draft.fail, hexit, hbuild.printed hexit]
      | some code => simp [Draft.fail, hexit]
    · rintro _ _ ⟨⟩ ⟨⟩
      exact htraced.reason herror hclassify

/-- With a driver for a runner every job has a faithful result. -/
theorem compile_isFaithful {σ : Type} {service : Service σ} (hdriver : IsDriver service.runner)
    (free : Nat) (request : Request) (state : State σ) :
    (compile service free request state).1.IsFaithful := by
  have hends := compile_ends service free request state
  generalize (compile service free request state).1 = result at hends
  cases hends with
  | refused => exact Draft.failWith_isFaithful rfl rfl (isReported_admission _)
  | unread _ hgenerate => exact Draft.failWith_isFaithful rfl rfl (isReported_generate hgenerate)
  | @handed source environment nested before =>
    have hdriven := hdriver nested request source before
    generalize (service.runner nested request source before).1 = returned at hdriven
    cases hdriven with
    | panic message =>
      exact Draft.fail_isFaithful rfl rfl _ (Failure.isSound_of_startsVisibly rfl rfl rfl nofun)
    | built hhost toolchain keeps before =>
      exact isFaithful_returned request.jobId hhost toolchain keeps before

/-- **Consistent results.** Whatever becomes of a job and whatever its runner does, it has a result
whose kind, error, record and payload agree. The result has a program just if the job was admitted
and its document gives one, and that is the program; it has the trace that its runner has returned,
and none when the runner was not called or returned none. With a driver for a runner, as the runner
on a machine is, the exit code is that of the record or zero, the payload of a failure is not blank,
and a trace gives the code of the failure for its reason. -/
theorem compile_consistent :
    (∀ [Build.DatabaseLibrary] (σ : Type) [HasMachine σ] (settings : Build.Settings)
      (temporary : Bytes) (environment : List Bytes) (counts : Bool),
      IsDriver (machineRunner settings temporary environment counts : Runner σ)) ∧
    ∀ {σ : Type} (service : Service σ) (free : Nat) (request : Request) (state : State σ),
      let result := (compile service free request state).1
      let handed := handed? service free request state
      result.IsConsistent (handed.any (·.2.breaksDown)) ∧
      (result.source ≠ [] ↔ isAdmitted free request = true ∧
        ∃ generated, Program.generate service.policy request.document = .ok generated) ∧
      (∀ source environment, isAdmitted free request = true →
        Program.generate service.policy request.document = .ok (source, environment) →
        result.source = source) ∧
      (handed = none ↔ ¬ (isAdmitted free request = true ∧
        ∃ generated, Program.generate service.policy request.document = .ok generated)) ∧
      result.trace = handed.bind (·.2.trace?) ∧
      (IsDriver service.runner → result.IsFaithful) := by
  refine ⟨fun _ _ => machineRunner_isDriver, ?_⟩
  intro σ service free request state result handed
  have hfaithful (hdriver : IsDriver service.runner) : result.IsFaithful :=
    compile_isFaithful hdriver free request state
  have hends : Ends service free request state result := compile_ends service free request state
  simp only [handed]
  generalize result = ended at hends hfaithful
  cases hends with
  | refused hadmitted hhanded =>
    rw [hhanded]
    exact ⟨Draft.failWith_isConsistent _ _, by simp [hadmitted, Draft.failWith_source, Draft.start],
      by simp [hadmitted], by simp [hadmitted], Draft.failWith_trace _ _, hfaithful⟩
  | @unread error hadmitted hgenerate hhanded =>
    obtain ⟨record, hclassify, -⟩ := isReported_generate hgenerate
    have hconsistent := (Draft.start request.jobId).failWith_isConsistent error
    rw [hclassify] at hconsistent
    rw [hhanded]
    exact ⟨hconsistent, by simp [hgenerate, Draft.failWith_source, Draft.start],
      by simp [hgenerate], by simp [hgenerate], Draft.failWith_trace _ _, hfaithful⟩
  | handed hadmitted hgenerate hhanded =>
    have hsource := generate_ne_nil hgenerate
    rw [hhanded]
    refine ⟨Draft.afterRun_isConsistent _ _, ?_, ?_, ?_, Draft.afterRun_trace _ rfl _, hfaithful⟩
    · simp [hadmitted, hgenerate, Draft.afterRun_source, hsource]
    · rintro source environment - hother
      cases hgenerate.symm.trans hother
      exact Draft.afterRun_source _ _
    · simp [hadmitted, hgenerate]

/-! ## A job that fails twice -/

namespace Sample

/-- A host on which the compiler exits with a status and workspaces cannot be removed. -/
def host : Build.Host Unit where
  createWorkspace jobId _ := (.ok ⟨jobId⟩, ())
  writeSource _ _ _ := (none, ())
  cache := none
  restoreArtifact _ _ _ := (none, ())
  compile _ _ _ := (.completed 3 (bytes "in line 1") (bytes " \n"), ())
  readArtifact _ _ := (.error (.plain (bytes "no artifact")), ())
  execute _ _ := (.notStarted (.plain (bytes "no artifact")), ())
  removeWorkspace _ _ := (some (.plain (bytes "device busy")), ())

/-- The host is ordinary. -/
theorem host_isOrdinary : host.IsOrdinary where
  createWorkspace := nofun
  writeSource := nofun
  restoreArtifact := nofun
  compile _ _ _ := (by decide : Word.IsSigned 3)
  readArtifact := by
    rintro _ _ _ ⟨⟩
    exact Error.isForeign_plain _
  execute _ _ := Error.isForeign_plain _
  removeWorkspace := by
    rintro _ _ _ ⟨⟩
    exact Error.isForeign_plain _

/-- A service that builds on this host. -/
def builder : Service Unit where
  policy := .strict
  runner := fun _ request source state =>
    (returnOf (Build.run host .standard false request.jobId source ()).1, state)
  archive := none

def chain : Request where
  jobId := bytes "job 2"
  document := bytes "\x7b\"functions\":[\x7b\"name\":\"x\",\"function\":\"f\"\x7d]\x7d"
  patience := .patient

/-- The builder is a driver. -/
theorem builder_isDriver : IsDriver builder.runner := fun _ _ _ _ =>
  .built host_isOrdinary .standard false ()

/-- Though the error is two errors, the result tells of the one that counts. -/
theorem compile_uncleaned :
    ∃ record trace event, IsDriver builder.runner ∧
      (compile builder 1 chain (.start ())).1.failure = some record ∧
      record.code = Failure.Code.nonZeroExit ∧
      (compile builder 1 chain (.start ())).1.exitCode = 3 ∧
      Blank.isAllBlank (compile builder 1 chain (.start ())).1.payload = false ∧
      (compile builder 1 chain (.start ())).1.trace = some trace ∧
      event ∈ trace.events ∧ Build.EntersFailure event ∧ event.reason = record.code := by
  have hfaithful := (compile_consistent.2 builder 1 chain (.start ())).2.2.2.2.2 builder_isDriver
  have hkind : (compile builder 1 chain (.start ())).1.kind = .failed := by decide +kernel
  have hfailure : (compile builder 1 chain (.start ())).1.failure.map
      (fun record => (record.code, record.exitCode)) = some (Failure.Code.nonZeroExit, some 3) := by
    decide +kernel
  have htrace : (compile builder 1 chain (.start ())).1.trace.isSome = true := by decide +kernel
  obtain ⟨record, hrecord, hfields⟩ := Option.map_eq_some_iff.1 hfailure
  obtain ⟨hcode, hexit⟩ := Prod.mk.inj hfields
  obtain ⟨trace, htrace⟩ := Option.isSome_iff_exists.1 htrace
  obtain ⟨⟨event, hevent, henters⟩, hreason⟩ := hfaithful.reason trace record htrace hrecord
  refine ⟨record, trace, event, builder_isDriver, hrecord, hcode, ?_,
    hfaithful.payload hkind, htrace, hevent, henters, hreason event hevent henters⟩
  rw [hfaithful.exitCode, hrecord, Option.bind_some, hexit]
  rfl

end Sample

end Job

end FunctionChain
