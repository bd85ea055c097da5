import FunctionChain.Proofs.Build.TraceLanguage
import FunctionChain.Proofs.Failure.Sound

/-!
# The failures of builds

A build fails with an error that it makes itself, of one of three classes, with a code and a
message, over the error of a step of its host or for the exit code of a program (`FailsBy`); the
error of a workspace that could not be removed may be added to it (`EndsWith`). The steps are gone
through once to see this (`run_endsWith`).

Whatever a search does not find in the errors of the host it finds in the error of the build only if
that is what the build has made (`EndsWith.exists_node`). So a failure on an ordinary host is
classified as what the build says it is, and gets a sound record (`run_isOrdinary`).
-/

namespace FunctionChain

namespace Build

/-! ## The error of a build -/

/-- A code and a message to tell that a step has failed which left no exit code. -/
structure Tells (code message : Bytes) : Prop where
  hasCode : Blank.startsVisibly code = true
  hasMessage : Blank.startsVisibly message = true
  noExit : code ≠ Failure.Code.nonZeroExit

/-- The errors with which builds on a host fail, and what their programs have printed by then. -/
inductive FailsBy {σ : Type} (host : Host σ) : Printed → Error → Prop where
  /-- The workspace could not be used. -/
  | workspace {code message : Bytes} {cause : Error} : Tells code message → host.Reports cause →
      FailsBy host .nothing (.io code message (some cause))
  /-- There is no artifact, though the compiler has not failed by itself. -/
  | artifact {code message : Bytes} {cause : Error} : Tells code message → host.Reports cause →
      FailsBy host .nothing (.compile code message [] 0 (some cause))
  | compiler {message diagnostic : Bytes} {exitCode : Int} :
      Blank.startsVisibly message = true → host.Leaves exitCode →
      FailsBy host .nothing (.compile Failure.Code.nonZeroExit message diagnostic exitCode none)
  /-- The program did not run to its end. -/
  | execution {code message : Bytes} {cause : Error} : Tells code message → host.Reports cause →
      FailsBy host .nothing (.runtime code message [] 0 (some cause))
  | program {message stdout stderr : Bytes} {exitCode : Int} :
      Blank.startsVisibly message = true → host.Leaves exitCode →
      FailsBy host ⟨stdout, stderr, exitCode⟩
        (.runtime Failure.Code.nonZeroExit message stderr exitCode none)

/-- How builds on a host end: with what their programs have printed, and with an error or none. -/
inductive EndsWith {σ : Type} (host : Host σ) : Printed → Option Error → Prop where
  | succeeded {stdout stderr : Bytes} : host.Leaves 0 → EndsWith host ⟨stdout, stderr, 0⟩ none
  | failed {printed : Printed} {node : Error} : FailsBy host printed node →
      EndsWith host printed (some node)
  /-- The workspace of a build that failed could not be removed. -/
  | uncleaned {printed : Printed} {first second : Error} : EndsWith host printed (some first) →
      host.Reports second →
      EndsWith host printed (some (.combined (first.parts ++ second.parts)))

variable {σ : Type} {host : Host σ} {toolchain : Toolchain}

/-! ## The steps -/

/-- An interruption tells itself by its code and message. -/
theorem Interruption.tells (why : Interruption) {step : Bytes}
    (hstep : Blank.startsVisibly step = true) : Tells why.code (why.message step) := by
  have hmessage (rest : Bytes) : Blank.startsVisibly (step ++ rest) = true := by
    cases step with
    | nil => cases hstep
    | cons b step => exact hstep
  cases why <;> exact ⟨by decide, hmessage _, by decide⟩

/-- The error of a toolchain is a failure of the build. -/
theorem compileError?_failsBy {workspace : Workspace} {before : σ} {error : Error}
    (he : compileError? toolchain (host.compile toolchain workspace before).1 = some error) :
    FailsBy host .nothing error := by
  cases hended : (host.compile toolchain workspace before).1 with
  | notStarted cause =>
    rw [hended] at he
    cases he
    exact .artifact ⟨by decide, rfl, by decide⟩ (.compile (congrArg Ended.cause? hended))
  | interrupted why cause =>
    rw [hended] at he
    cases he
    exact .artifact (why.tells (by decide)) (.compile (congrArg Ended.cause? hended))
  | completed exitCode stdout stderr =>
    rw [hended] at he
    simp only [compileError?] at he
    split at he <;> cases he
    exact .compiler rfl (.compile hended)

/-- The error of compiling afresh is one. -/
theorem compileFresh_failsBy {key : Bytes} {workspace : Workspace} {before : σ} {error : Error}
    (he : (compileFresh host toolchain key workspace before).2.1 = some error) :
    FailsBy host .nothing error := by
  unfold compileFresh at he
  dsimp only at he
  split at he
  · next hfailure =>
    cases he
    exact compileError?_failsBy hfailure
  · split at he
    · next hread =>
      cases he
      exact .artifact ⟨by decide, by decide, by decide⟩ (.readArtifact (congrArg Prod.fst hread))
    · cases he

/-- The error of obtaining an artifact is one. -/
theorem obtainArtifact_failsBy {source : Bytes} {workspace : Workspace} {before : σ} {error : Error}
    (he : (obtainArtifact host toolchain source workspace before).2.1 = some error) :
    FailsBy host .nothing error := by
  unfold obtainArtifact at he
  split at he
  · exact compileFresh_failsBy he
  · dsimp only at he
    split at he
    · exact compileFresh_failsBy he
    · exact compileFresh_failsBy he
    · split at he
      · next hrestore =>
        cases he
        exact .workspace ⟨by decide, by decide, by decide⟩
          (.restoreArtifact (congrArg Prod.fst hrestore))
      · cases he

/-- From the artifact on a build ends with a failure and output that go together. -/
theorem afterCompiled_endsWith (workspace : Workspace) (before : σ) :
    let work := afterCompiled host workspace before
    EndsWith host work.printed work.error := by
  unfold afterCompiled
  cases hexecute : host.execute workspace before with
  | mk ended state =>
    cases ended with
    | notStarted cause =>
      exact .failed (.execution ⟨by decide, by decide, by decide⟩
        (.execute (congrArg (·.1.cause?) hexecute)))
    | interrupted why cause =>
      exact .failed (.execution (why.tells (by decide)) (.execute (congrArg (·.1.cause?) hexecute)))
    | completed exitCode stdout stderr =>
      have hleaves : host.Leaves exitCode := .execute (congrArg Prod.fst hexecute)
      dsimp only
      split
      · next hzero =>
        cases eq_of_beq hzero
        exact .succeeded hleaves
      · exact .failed (.program rfl hleaves)

/-- From the source on it does. -/
theorem afterWritten_endsWith (source : Bytes) (workspace : Workspace) (before : σ) :
    let work := afterWritten host toolchain source workspace before
    EndsWith host work.printed work.error := by
  unfold afterWritten
  dsimp only
  split
  · next hobtained =>
    exact .failed (obtainArtifact_failsBy (congrArg (fun made => made.2.1) hobtained))
  · exact afterCompiled_endsWith workspace _

/-- From the workspace on it does. -/
theorem inWorkspace_endsWith (source : Bytes) (workspace : Workspace) (before : σ) :
    let work := inWorkspace host toolchain source workspace before
    EndsWith host work.printed work.error := by
  unfold inWorkspace
  dsimp only
  split
  · next hwrite =>
    exact .failed (.workspace ⟨by decide, by decide, by decide⟩
      (.writeSource (congrArg Prod.fst hwrite)))
  · exact afterWritten_endsWith source workspace _

/-- Cleaning up adds a failure of its own at most. -/
theorem cleanUp_endsWith (keeps : Bool) (workspace : Workspace) {work : Work σ}
    (h : EndsWith host work.printed work.error) :
    let cleaned := cleanUp host keeps workspace work
    EndsWith host cleaned.printed cleaned.error := by
  unfold cleanUp
  split
  · exact h
  · split
    · exact h
    · next hremove =>
      dsimp only
      cases hfirst : work.error with
      | none =>
        rw [hfirst] at h
        exact h
      | some first =>
        rw [hfirst] at h
        exact .uncleaned h (.removeWorkspace (congrArg Prod.fst hremove))

/-- All the work of a build ends so. -/
theorem workOf_endsWith (keeps : Bool) (jobId source : Bytes) (before : σ) :
    let work := (workOf host toolchain keeps jobId source before).2
    EndsWith host work.printed work.error := by
  unfold workOf
  dsimp only
  split
  · next hcreate =>
    exact .failed (.workspace ⟨by decide, by decide, by decide⟩
      (.createWorkspace (congrArg Prod.fst hcreate)))
  · exact cleanUp_endsWith keeps _ (inWorkspace_endsWith source _ _)

/-- **Endings.** Every build ends in one of these ways. -/
theorem run_endsWith (keeps : Bool) (jobId source : Bytes) (state : σ) :
    let outcome := (run host toolchain keeps jobId source state).1
    EndsWith host outcome.printed outcome.error := by
  rw [run_eq_workOf]
  dsimp only
  rw [conclude_printed, conclude_error]
  exact workOf_endsWith keeps jobId source state

/-! ## The record of a failure -/

/-- The record of a failure of a build that has printed something: a class that builds have, a code,
a message, and the exit code of the program that has failed, if it was a program. -/
structure IsBuildRecord (host : Host σ) (printed : Printed) (record : Failure.Record) : Prop where
  className : record.className = Failure.Class.name .io
    ∨ record.className = Failure.Class.name .compile
    ∨ record.className = Failure.Class.name .runtime
  code : Blank.startsVisibly record.code = true
  message : Blank.startsVisibly record.message = true
  exitCode : ∀ code, record.exitCode = some code → host.Leaves code
  printed : record.exitCode = none → printed.exitCode = 0

/-- Failures of this kind record no exit code. -/
theorem Tells.recordedExit {code message : Bytes} (h : Tells code message) (exitCode : Int) :
    Failure.recordedExit code exitCode = none := by
  have hempty : code.isEmpty = false := by
    cases code with
    | nil => cases h.hasCode
    | cons b code => rfl
  simp [Failure.recordedExit, hempty, h.noExit]

/-- A failure of a build has a record that says how the build has ended. -/
theorem FailsBy.exists_record {printed : Printed} {node : Error} (h : FailsBy host printed node) :
    ∃ record, Failure.ofNode? node = some record ∧ IsBuildRecord host printed record := by
  have hvisible {text : Bytes} (h : Blank.startsVisibly text = true) (fallback : Bytes) :=
    Failure.startsVisibly_orDefault h fallback
  cases h with
  | workspace htells _ =>
    exact ⟨_, rfl, .inl rfl, hvisible htells.hasCode _, hvisible htells.hasMessage _, nofun,
      fun _ => rfl⟩
  | artifact htells _ =>
    refine ⟨_, rfl, .inr (.inl rfl), hvisible htells.hasCode _, hvisible htells.hasMessage _, ?_,
      fun _ => rfl⟩
    simp [htells.recordedExit]
  | compiler hmessage hleaves =>
    refine ⟨_, rfl, .inr (.inl rfl), rfl, hvisible hmessage _, ?_, fun _ => rfl⟩
    rintro _ ⟨⟩
    exact hleaves
  | execution htells _ =>
    refine ⟨_, rfl, .inr (.inr rfl), hvisible htells.hasCode _, hvisible htells.hasMessage _, ?_,
      fun _ => rfl⟩
    simp [htells.recordedExit]
  | program hmessage hleaves =>
    refine ⟨_, rfl, .inr (.inr rfl), rfl, hvisible hmessage _, ?_, nofun⟩
    rintro _ ⟨⟩
    exact hleaves

/-- What stands behind the error that a build makes is what a step has reported. -/
theorem FailsBy.reports {printed : Printed} {node cause : Error} (h : FailsBy host printed node)
    (hcause : node.cause? = some cause) : host.Reports cause := by
  cases h <;> cases hcause <;> assumption

/-- A failure of a build is one of files, of the toolchain or of the program. -/
theorem FailsBy.kind? {printed : Printed} {node : Error} (h : FailsBy host printed node) :
    node.kind? = some .io ∨ node.kind? = some .compile ∨ node.kind? = some .runtime := by
  cases h with
  | workspace => exact .inl rfl
  | artifact => exact .inr (.inl rfl)
  | compiler => exact .inr (.inl rfl)
  | execution => exact .inr (.inr rfl)
  | program => exact .inr (.inr rfl)

/-- A search that finds nothing in the errors of the host finds only what the build has made. -/
theorem EndsWith.exists_node {printed : Printed} {error : Error}
    (h : EndsWith host printed (some error)) : ∃ node, FailsBy host printed node ∧
      ∀ kind, (∀ reported, host.Reports reported → reported.find kind = .nothing) →
        error.find kind = if node.kind? = some kind then .node node else .nothing := by
  generalize hsome : some error = failure at h
  induction h generalizing error with
  | succeeded => cases hsome
  | @failed _ node hfails =>
    cases hsome
    obtain ⟨record, hrecord, -⟩ := hfails.exists_record
    exact ⟨node, hfails, fun kind hkind => Error.find_node hrecord fun cause hcause =>
      hkind cause (hfails.reports hcause)⟩
  | uncleaned _ hreports ih =>
    cases hsome
    obtain ⟨node, hfails, hfind⟩ := ih rfl
    refine ⟨node, hfails, fun kind hkind => ?_⟩
    rw [Error.find_combined (hkind _ hreports), hfind kind hkind]

/-! ## Ordinary hosts -/

/-- A build ended with an exit code that is a machine word, and its error gets a sound record. -/
structure IsOrdinaryEnd (printed : Printed) (error : Option Error) : Prop where
  exitCode : Word.IsSigned printed.exitCode
  recorded : ∀ failure, error = some failure → failure.IsRecorded

/-- The exit code of a build is zero, or one that its host has left. -/
theorem EndsWith.leaves {printed : Printed} {error : Option Error}
    (h : EndsWith host printed error) :
    printed.exitCode = 0 ∨ host.Leaves printed.exitCode := by
  induction h with
  | succeeded => exact .inl rfl
  | failed hfails =>
    cases hfails with
    | program _ hleaves => exact .inr hleaves
    | _ => exact .inl rfl
  | uncleaned _ _ ih => exact ih

/-- On an ordinary host a build gets the record of the error that it has made. -/
theorem EndsWith.exists_onlyHas (hhost : host.IsOrdinary) {printed : Printed} {error : Error}
    (h : EndsWith host printed (some error)) : ∃ node record, error.OnlyHas node ∧
      Failure.ofNode? node = some record ∧ IsBuildRecord host printed record := by
  obtain ⟨node, hfails, hfind⟩ := h.exists_node
  obtain ⟨record, hrecord, hbuild⟩ := hfails.exists_record
  exact ⟨node, record, fun kind hkind => hfind kind fun _ hreports =>
    (hhost.isForeign hreports).nothing kind hkind, hrecord, hbuild⟩

/-- **Failures.** A build on an ordinary host ends with an exit code that is a machine word, and one
that fails gets a sound record. -/
theorem run_isOrdinary (hhost : host.IsOrdinary) (keeps : Bool) (jobId source : Bytes) (state : σ) :
    let outcome := (run host toolchain keeps jobId source state).1
    IsOrdinaryEnd outcome.printed outcome.error := by
  intro outcome
  have hends : EndsWith host outcome.printed outcome.error := run_endsWith keeps jobId source state
  refine ⟨?_, fun failure hfailure => ?_⟩
  · rcases hends.leaves with hzero | hleaves
    · rw [hzero]
      exact Word.isSigned_zero
    · exact hhost.isSigned hleaves
  · rw [hfailure] at hends
    obtain ⟨node, record, hnode, hrecord, hbuild⟩ := hends.exists_onlyHas hhost
    exact ⟨node, record, hnode, hrecord, Failure.isSound_of_startsVisibly
      (Failure.ofNode?_className hrecord) hbuild.code hbuild.message
      fun code hcode => hhost.isSigned (hbuild.exitCode code hcode)⟩

/-! ## The failure in the trace -/

/-- The event enters the stage of failure. -/
def EntersFailure (event : Trace.Event) : Prop :=
  event.kind = Trace.stateEntered ∧ event.state = Stage.name .failed

/-- A build with an error has failed. -/
theorem Outcome.IsTraced.stage_eq_failed {source : Bytes} {outcome : Outcome}
    (h : outcome.IsTraced host source) {error : Error} (herror : outcome.error = some error) :
    outcome.stage = .failed := by
  have hfinal := h.isFinal
  have hsucceeded := h.succeeded_iff
  rw [herror] at hsucceeded
  cases hstage : outcome.stage with
  | failed => rfl
  | succeeded => cases hsucceeded.1 hstage
  | _ =>
    rw [hstage] at hfinal
    cases hfinal

/-- The trace of a build that failed enters the stage of failure, for the code of the error. -/
theorem Outcome.IsTraced.reason {source : Bytes} {outcome : Outcome}
    (h : outcome.IsTraced host source) {error : Error} (herror : outcome.error = some error)
    {record : Failure.Record} (hrecord : Failure.classify error = some record) :
    (∃ event ∈ outcome.trace.events, EntersFailure event) ∧
      ∀ event ∈ outcome.trace.events, EntersFailure event → event.reason = record.code := by
  constructor
  · have hlast := h.last
    rw [h.stage_eq_failed herror] at hlast
    obtain ⟨event, hevent, hstate⟩ := List.mem_map.1 (List.mem_of_getLast? hlast)
    obtain ⟨hevent, hkind⟩ := List.mem_filter.1 hevent
    exact ⟨event, hevent, eq_of_beq hkind, hstate⟩
  · intro event hevent henters
    obtain ⟨other, hother, hcode⟩ :=
      h.reason_eq event hevent ((h.reason_iff event hevent).2 henters)
    cases herror.symm.trans hother
    exact hcode record hrecord

end Build

end FunctionChain
