import FunctionChain.Command.Exit
import FunctionChain.Proofs.Job.Consistency
import FunctionChain.Server.Handle

/-!
# One story for every caller

A caller over HTTP is told of a job by the status of the answer, one at the command line by the exit
code, and both by the class of the failure. Each of the three is found by a search of its own in the
error. They agree all the same (`verdicts_agree`), because only few errors come about: for every end
of a job there is one line in the table `Told`.

The status looks for the error of a job without a slot anywhere in the error of a build. So the host
of the builds must not report such an error itself, which hosts do not (`Build.Host.IsApart`).
-/

namespace FunctionChain

namespace Job

/-! ## Drivers apart from admission -/

/-- The ways in which a driver comes back from a program when its host is apart from the admission
of jobs. -/
inductive IsDrivenApart (jobId source : Bytes) : Return → Prop where
  | panic (message : Bytes) : IsDrivenApart jobId source (.panic message)
  | built {τ : Type} {host : Build.Host τ} (hhost : host.IsOrdinary) (hapart : host.IsApart)
      (toolchain : Build.Toolchain) (keeps : Bool) (before : τ) :
      IsDrivenApart jobId source (returnOf (Build.run host toolchain keeps jobId source before).1)

/-- A runner that drives builds on such hosts. -/
def IsApartDriver {σ : Type} (runner : Runner σ) : Prop :=
  ∀ nested request source state,
    IsDrivenApart request.jobId source (runner nested request source state).1

/-- The runner that builds on a machine is one. -/
theorem machineRunner_isApartDriver [Build.DatabaseLibrary] {σ : Type} [HasMachine σ]
    (settings : Build.Settings) (temporary : Bytes) (environment : List Bytes) (counts : Bool) :
    IsApartDriver (machineRunner settings temporary environment counts : Runner σ) :=
  fun _ _ _ _ => .built (Build.Machine.host_isOrdinary _ _ _ _ _)
    (Build.Machine.host_isApart _ _ _ _ _) _ _ _

/-! ## The table -/

/-- `Told kind isAdmitted isRead hasBrokenDown status exitCode className`: what is told of a job
that ended so. -/
inductive Told : Kind → (isAdmitted isRead hasBrokenDown : Bool) → (status : Nat) →
    (exitCode : Int) → (className : Bytes) → Prop where
  | succeeded : Told .succeeded true true false 200 0 []
  | refused {isRead : Bool} : Told .failed false isRead false 503 4 (Failure.Class.name .internal)
  | unread : Told .failed true false false 400 1 (Failure.Class.name .parse)
  | brokenDown : Told .failed true true true 422 4 (Failure.Class.name .internal)
  | failed {failure : Failure.Class} : failure ≠ .parse → failure ≠ .internal →
      Told .failed true true false 422 1 failure.name

variable {σ : Type}

/-- Whether the runner of a job breaks down. -/
def hasBrokenDown (service : Service σ) (free : Nat) (request : Request) (state : State σ) : Bool :=
  (handed? service free request state).any (!·.2.isNormal)

/-- What is told of a result. -/
def Result.IsTold (result : Result) (isAdmitted isRead hasBrokenDown : Bool) : Prop :=
  Told result.kind isAdmitted isRead hasBrokenDown (Server.statusOf result)
    (Command.Exit.ofResult result) result.className

section Fail

variable (draft : Draft) {error : Error} {record : Failure.Record}

/-- The status of a job that has failed. -/
theorem statusOf_fail : Server.statusOf (draft.fail error record)
    = if error.has .admission then 503 else if error.has .parse then 400 else 422 := rfl

/-- The exit code of a job that has failed. -/
theorem exitCode_fail : Command.Exit.ofResult (draft.fail error record)
    = if record.className == Failure.Class.name .internal then 4 else 1 := rfl

/-- A failure with neither a job without a slot nor a document in its error. -/
theorem Draft.fail_isTold (hadmission : error.find .admission = .nothing)
    (hparse : error.find .parse = .nothing) (failure : Failure.Class)
    (hclass : record.className = failure.name) (hnotParse : failure ≠ .parse)
    (hnotInternal : failure ≠ .internal) :
    (draft.fail error record).IsTold true true false := by
  have hstatus : Server.statusOf (draft.fail error record) = 422 := by
    simp [statusOf_fail, Error.has, hadmission, hparse]
  have hexit : Command.Exit.ofResult (draft.fail error record) = 1 := by
    simp [exitCode_fail, hclass, hnotInternal]
  have hname : (draft.fail error record).className = failure.name := hclass
  unfold Result.IsTold
  rw [hstatus, hexit, hname]
  exact .failed hnotParse hnotInternal

/-- What is told of a job whose runner has broken down. -/
theorem Draft.breakDown_isTold (message : Bytes) :
    (draft.breakDown message).IsTold true true true :=
  Told.brokenDown

/-- What is told of a job that was not admitted. -/
theorem Draft.refused_isTold (message : Bytes) (isRead : Bool) :
    (draft.failWith (.admission (some (.plain message)))).IsTold false isRead false :=
  Told.refused

/-- What is told of a document that cannot be read. -/
theorem Draft.unread_isTold (problem : Document.Problem) :
    (draft.failWith problem.toError).IsTold true false false := by
  obtain ⟨record, hclassify, hclass⟩ : ∃ record, Failure.classify problem.toError = some record ∧
      record.className = Failure.Class.name .parse := ⟨_, rfl, rfl⟩
  have hadmission : problem.toError.find .admission = .nothing := by
    have hcause (text : Bytes) : Error.findCause .admission
        (if problem.hasCause then some (.plain text) else none) = .nothing := by
      split <;> rfl
    exact hcause _
  have hstatus : Server.statusOf (draft.fail problem.toError record) = 400 := by
    rw [statusOf_fail, Error.has, hadmission]
    rfl
  have hexit : Command.Exit.ofResult (draft.fail problem.toError record) = 1 := by
    rw [exitCode_fail, hclass]
    rfl
  have hname : (draft.fail problem.toError record).className = Failure.Class.name .parse := hclass
  simp only [Draft.failWith, hclassify, Result.IsTold]
  rw [hstatus, hexit, hname]
  exact .unread

/-- What is told of a document that refers to nothing. -/
theorem Draft.unresolved_isTold (undefined : Reference.Undefined) :
    (draft.failWith undefined.toError).IsTold true true false :=
  draft.fail_isTold rfl rfl .resolve rfl (by decide) (by decide)

end Fail

/-- What a build comes to is a success or a failure of a class that builds have. -/
theorem isTold_returned (jobId : Bytes) {source : Bytes} {τ : Type} {host : Build.Host τ}
    (hhost : host.IsOrdinary) (hapart : host.IsApart) (toolchain : Build.Toolchain) (keeps : Bool)
    (before : τ) :
    ({ Draft.start jobId with source }.afterRun (returnOf
      (Build.run host toolchain keeps jobId source before).1)).IsTold true true false := by
  have hends := @Build.run_endsWith τ host toolchain keeps jobId source before
  generalize (Build.run host toolchain keeps jobId source before).1 = outcome at hends
  dsimp only at hends
  cases herror : outcome.error with
  | none =>
    rw [returnOf, herror]
    exact Told.succeeded
  | some error =>
    rw [herror] at hends
    obtain ⟨node, hfails, hfind⟩ := hends.exists_node
    obtain ⟨record, hrecord, hbuild⟩ := hfails.exists_record
    have hforeign (kind : ErrorKind) (hkind : kind ∈ Failure.priority) :=
      hfind kind fun reported hreports => (hhost.isForeign hreports).nothing kind hkind
    have hclassify : Failure.classify error = some record :=
      Failure.classify_of_onlyHas hforeign hrecord
    have hadmission : error.find .admission = .nothing := by
      rw [hfind .admission hapart]
      rcases hfails.kind? with h | h | h <;> rw [h] <;> rfl
    have hparse : error.find .parse = .nothing := by
      rw [hforeign .parse (by decide)]
      rcases hfails.kind? with h | h | h <;> rw [h] <;> rfl
    simp only [returnOf, herror, Draft.afterRun, Draft.failWith, hclassify]
    rcases hbuild.className with hclass | hclass | hclass
    · exact Draft.fail_isTold _ hadmission hparse .io hclass (by decide) (by decide)
    · exact Draft.fail_isTold _ hadmission hparse .compile hclass (by decide) (by decide)
    · exact Draft.fail_isTold _ hadmission hparse .runtime hclass (by decide) (by decide)

/-- A document with a program can be read. -/
theorem load_isOk_of_generate {policy : ReferencePolicy} {document : Bytes}
    {generated : Bytes × Environment} (h : Program.generate policy document = .ok generated) :
    (Document.load document).isOk = true := by
  unfold Program.generate at h
  cases hload : Document.load document with
  | error error =>
    rw [hload] at h
    cases h
  | ok graph => rfl

/-- Every job has its line in the table. -/
theorem compile_isTold {service : Service σ} (hdriver : IsApartDriver service.runner) (free : Nat)
    (request : Request) (state : State σ) :
    (compile service free request state).1.IsTold (isAdmitted free request)
      (Document.load request.document).isOk (hasBrokenDown service free request state) := by
  have hends := compile_ends service free request state
  generalize (compile service free request state).1 = result at hends
  unfold hasBrokenDown
  cases hends with
  | refused hadmitted hhanded =>
    rw [hadmitted, hhanded]
    exact Draft.refused_isTold _ _ _
  | unread hadmitted hgenerate hhanded =>
    rw [hadmitted, hhanded]
    rcases generate_eq_error hgenerate with ⟨problem, hload, rfl⟩ | ⟨graph, undefined, hload, rfl⟩
    · rw [hload]
      exact Draft.unread_isTold _ problem
    · rw [hload]
      exact Draft.unresolved_isTold _ undefined
  | @handed source environment nested before hadmitted hgenerate hhanded =>
    rw [hadmitted, hhanded, load_isOk_of_generate hgenerate]
    have hdriven := hdriver nested request source before
    generalize (service.runner nested request source before).1 = returned at hdriven
    cases hdriven with
    | panic message => exact Draft.breakDown_isTold _ message
    | built hhost hapart toolchain keeps before =>
      exact isTold_returned request.jobId hhost hapart toolchain keeps before

/-- **One story.** Let the runner of a service be a driver, as the runner on a machine is, or break
down. The status of the answer, the exit code and the class of failure then tell the same of every
job. It succeeded just if the status is 200, and just if the exit code is 0. The status is 503 just
if the job was not admitted, and its failure is internal then; it is 400 just if the class is that
of documents, and just if the job was admitted and its document could not be read. The exit code is
4 just if the failure is internal, and just if the job was not admitted or its runner broke down.
For all other failures the status is 422, and the exit code is 1. -/
theorem verdicts_agree :
    (∀ [Build.DatabaseLibrary] (σ : Type) [HasMachine σ] (settings : Build.Settings)
      (temporary : Bytes) (environment : List Bytes) (counts : Bool),
      IsApartDriver (machineRunner settings temporary environment counts : Runner σ)) ∧
    ∀ {σ : Type} (service : Service σ) (free : Nat) (request : Request) (state : State σ),
      IsApartDriver service.runner →
      let result := (compile service free request state).1
      let status := Server.statusOf result
      let exitCode := Command.Exit.ofResult result
      (status = 200 ↔ exitCode = 0) ∧ (exitCode = 0 ↔ result.kind = .succeeded) ∧
      (status = 503 ↔ isAdmitted free request = false) ∧
      (isAdmitted free request = false → result.className = Failure.Class.name .internal) ∧
      (status = 400 ↔ result.className = Failure.Class.name .parse) ∧
      (result.className = Failure.Class.name .parse ↔
        isAdmitted free request = true ∧ ∃ error, Document.load request.document = .error error) ∧
      (exitCode = 4 ↔ result.className = Failure.Class.name .internal) ∧
      (result.className = Failure.Class.name .internal ↔
        isAdmitted free request = false ∨ hasBrokenDown service free request state = true) ∧
      (result.kind = .failed → status ≠ 503 → status ≠ 400 → status = 422) ∧
      (result.kind = .failed → exitCode ≠ 4 → exitCode = 1) := by
  refine ⟨fun _ _ => machineRunner_isApartDriver, ?_⟩
  intro σ service free request state hdriver result status exitCode
  have htold : Told result.kind (isAdmitted free request) (Document.load request.document).isOk
      (hasBrokenDown service free request state) status exitCode result.className :=
    compile_isTold hdriver free request state
  have hload : (∃ error, Document.load request.document = .error error) ↔
      (Document.load request.document).isOk = false := by
    cases Document.load request.document <;> simp [Except.isOk, Except.toBool]
  rw [hload]
  generalize (Document.load request.document).isOk = isRead at htold
  generalize hasBrokenDown service free request state = broken at htold
  generalize isAdmitted free request = admitted at htold
  generalize result.className = className at htold
  generalize result.kind = kind at htold
  generalize status = status at htold
  generalize exitCode = exitCode at htold
  cases htold with
  | succeeded => simp
  | refused => simp
  | unread => simp
  | brokenDown => simp
  | failed hparse hinternal => simp [hparse, hinternal]

namespace Sample

/-- The host has nothing to do with the admission of jobs. -/
theorem host_isApart : host.IsApart := by
  intro error h
  cases h with
  | readArtifact h | execute h | removeWorkspace h =>
    cases h
    rfl
  | _ h => cases h

/-- The builder is such a driver. -/
theorem builder_isApartDriver : IsApartDriver builder.runner := fun _ _ _ _ =>
  .built host_isOrdinary host_isApart .standard false ()

/-- The compiler fails and the workspace stays: neither hides the other. -/
theorem verdicts_uncleaned :
    IsApartDriver builder.runner ∧
      (compile builder 1 chain (.start ())).1.kind = .failed ∧
      Server.statusOf (compile builder 1 chain (.start ())).1 = 422 ∧
      Command.Exit.ofResult (compile builder 1 chain (.start ())).1 = 1 := by
  have hkind : (compile builder 1 chain (.start ())).1.kind = .failed := by decide +kernel
  have hclass : (compile builder 1 chain (.start ())).1.className
      = Failure.Class.name .compile := by
    decide +kernel
  obtain ⟨-, -, hrefused, -, hunread, -, hinternal, -, hstatus, hexit⟩ :=
    verdicts_agree.2 builder 1 chain (.start ()) builder_isApartDriver
  refine ⟨builder_isApartDriver, hkind, hstatus hkind ?_ ?_, hexit hkind ?_⟩
  · rw [Ne, hrefused]
    decide
  · rw [Ne, hunread, hclass]
    decide
  · rw [Ne, hinternal, hclass]
    decide

-- Were a step of the host to report the error of a job without a slot, the status would take it for
-- that of the job.
example :
    let host := { host with createWorkspace := fun _ _ => (.error (.admission none), ()) }
    let builder : Service Unit :=
      { builder with runner := fun _ request source state =>
          (returnOf (Build.run host .standard false request.jobId source ()).1, state) }
    isAdmitted 1 chain = true ∧ Server.statusOf (compile builder 1 chain (.start ())).1 = 503 := by
  decide +kernel

end Sample

end Job

end FunctionChain
