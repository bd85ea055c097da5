import FunctionChain.Proofs.Build.HostErrors
import FunctionChain.Proofs.Build.Plan
import FunctionChain.Proofs.Trace.Recording

/-!
# The language of job traces

Whatever the steps of a build come to, its trace is a word of a small language (`JobWord`): it goes
through the stages in order, with at most one event of the cache on the way, and ends in success or
in the one event of failure.

The steps of a build are gone through once. Each says how far the build has come and which events
it has left (`Course`); the cleaning up and the conclusion leave that as it is, and everything about
the trace is read off the course.
-/

namespace FunctionChain

/-- Whether the event tells what the cache did. -/
def Trace.Event.isOfCache (event : Event) : Bool :=
  event.kind == cacheHit || event.kind == cacheStored

namespace Build

/-! ## Events -/

/-- Stages have different names. -/
theorem Stage.name_inj {first second : Stage} : first.name = second.name ↔ first = second := by
  cases first <;> cases second <;> decide

/-- The entering of a stage, before it is numbered. -/
def entering (stage : Stage) (reason : Bytes) : Trace.Event :=
  ⟨0, Trace.stateEntered, stage.name, reason⟩

/-- What the cache adds to a trace: at most one event, and none unless there is a cache. -/
inductive CacheWord (hasCache : Bool) : List Trace.Event → Prop where
  | silent : CacheWord hasCache []
  | hit : hasCache = true → CacheWord hasCache [⟨0, Trace.cacheHit, [], []⟩]
  | stored : hasCache = true → CacheWord hasCache [⟨0, Trace.cacheStored, [], []⟩]

/-- The events of a job that ends with the stage, before they are numbered. A job that fails gives
its reason. -/
inductive JobWord (hasCache : Bool) (reason : Bytes) : Stage → List Trace.Event → Prop where
  | unwritten : JobWord hasCache reason .failed
      [entering .generated [], entering .failed reason]
  | uncompiled : JobWord hasCache reason .failed
      [entering .generated [], entering .written [], entering .failed reason]
  | unexecuted {cache : List Trace.Event} : CacheWord hasCache cache →
      JobWord hasCache reason .failed ([entering .generated [], entering .written []] ++ cache
        ++ [entering .compiled [], entering .failed reason])
  | succeeded {cache : List Trace.Event} : CacheWord hasCache cache →
      JobWord hasCache reason .succeeded ([entering .generated [], entering .written []] ++ cache
        ++ [entering .compiled [], entering .executed [], entering .succeeded []])

/-- The events that a journal has recorded, before they are numbered. -/
def Journal.recorded (journal : Journal) : List Trace.Event := journal.filterMap Happening.event?

/-- Events are recorded in the order of the journal. -/
theorem Journal.recorded_append (first second : Journal) :
    Journal.recorded (first ++ second) = Journal.recorded first ++ Journal.recorded second :=
  List.filterMap_append

/-- The trace of a journal has its events, numbered. -/
theorem Journal.trace_eq (journal : Journal) (source : Bytes) :
    journal.trace source = ⟨Trace.sourceHash source, Trace.numbered 0 journal.recorded⟩ :=
  Trace.trace_foldl_record _ _

/-- The artifact came from the cache exactly when an event says so. -/
theorem Journal.isHit_iff {journal : Journal} :
    journal.isHit = true ↔ ∃ event ∈ journal.recorded, event.kind = Trace.cacheHit := by
  have hs : Trace.stateEntered ≠ Trace.cacheHit := by decide
  have hc : Trace.cacheStored ≠ Trace.cacheHit := by decide
  unfold Journal.isHit Journal.recorded
  induction journal with
  | nil => simp
  | cons happening rest ih =>
    cases happening <;> simp [Happening.event?, hs, hc, ih]

/-! ## The course of a build -/

/-- An error that is whole when the errors of the host are. -/
def Faithful {σ : Type} (host : Host σ) (error : Error) : Prop := host.ReportsWhole → error.IsWhole

/-- The events about an artifact that was to be brought into the workspace, and the error when there
is none. -/
inductive Obtained {σ : Type} (host : Host σ) : List Trace.Event → Option Error → Prop where
  | artifact {cache : List Trace.Event} : CacheWord host.cache.isSome cache →
      Obtained host cache none
  | nothing {error : Error} : Faithful host error → Obtained host [] (some error)

/-- How far a build comes before its conclusion, the events it leaves after the first one, and the
error that has ended it. -/
inductive Course {σ : Type} (host : Host σ) :
    Stage → List Trace.Event → Option Error → Prop where
  | generated {error : Error} : Faithful host error → Course host .generated [] (some error)
  | written {error : Error} : Faithful host error →
      Course host .written [entering .written []] (some error)
  | compiled {cache : List Trace.Event} {error : Error} : CacheWord host.cache.isSome cache →
      Faithful host error →
      Course host .compiled (entering .written [] :: (cache ++ [entering .compiled []]))
        (some error)
  | succeeded {cache : List Trace.Event} : CacheWord host.cache.isSome cache →
      Course host .succeeded (entering .written [] :: (cache
        ++ [entering .compiled [], entering .executed [], entering .succeeded []])) none

variable {σ : Type} (host : Host σ) (toolchain : Toolchain)

/-- Keeping an artifact is told as storing it, or not at all. -/
theorem keepArtifact_recorded (cache : Option (CacheAccess σ)) (key artifact : Bytes) (state : σ) :
    CacheWord cache.isSome (Journal.recorded (keepArtifact cache key artifact state).1) := by
  cases cache with
  | none => exact .silent
  | some access =>
    unfold keepArtifact
    dsimp only
    split
    · exact .stored rfl
    · exact .silent

/-- The error of a toolchain says how that has ended. -/
theorem compileError?_faithful {ended : Ended} {error : Error}
    (he : host.ReportsWhole → ended.IsWhole) (h : compileError? toolchain ended = some error) :
    Faithful host error := by
  intro hw
  cases ended with
  | notStarted cause =>
    cases h
    exact he hw
  | interrupted why cause =>
    cases h
    exact he hw
  | completed exitCode stdout stderr =>
    simp only [compileError?] at h
    split at h
    · cases h
    · cases h
      trivial

/-- Compiling afresh tells at most of what was stored. -/
theorem compileFresh_obtained (key : Bytes) (workspace : Workspace) (before : σ) :
    let made := compileFresh host toolchain key workspace before
    Obtained host (Journal.recorded made.1) made.2.1 := by
  unfold compileFresh
  dsimp only
  cases hc : compileError? toolchain (host.compile toolchain workspace before).1 with
  | some error =>
    exact .nothing (compileError?_faithful host toolchain
      (fun hw => hw.compile toolchain workspace before) hc)
  | none =>
    dsimp only
    cases hr : host.readArtifact workspace (host.compile toolchain workspace before).2 with
    | mk read state =>
      cases read with
      | error cause =>
        have he : (host.readArtifact workspace
            (host.compile toolchain workspace before).2).1 = .error cause := by rw [hr]
        refine .nothing fun hw => ?_
        exact (hw.readArtifact he : cause.IsWhole)
      | ok artifact => exact .artifact (keepArtifact_recorded host.cache key artifact state)

/-- However the artifact is obtained, there is at most one event about it, and none about an
artifact that is not. -/
theorem obtainArtifact_obtained (source : Bytes) (workspace : Workspace) (before : σ) :
    let made := obtainArtifact host toolchain source workspace before
    Obtained host (Journal.recorded made.1) made.2.1 := by
  unfold obtainArtifact
  cases hc : host.cache with
  | none => exact compileFresh_obtained host toolchain [] workspace before
  | some access =>
    dsimp only
    generalize CacheKey.compute toolchain source = key
    cases access.lookup key before with
    | mk found state =>
      cases found with
      | error error => exact compileFresh_obtained host toolchain key workspace state
      | ok artifact? =>
        cases artifact? with
        | none => exact compileFresh_obtained host toolchain key workspace state
        | some artifact =>
          dsimp only
          cases hr : host.restoreArtifact workspace artifact state with
          | mk failure after =>
            cases failure with
            | none => exact .artifact (.hit (by rw [hc]; rfl))
            | some cause =>
              have he : (host.restoreArtifact workspace artifact state).1 = some cause := by rw [hr]
              refine .nothing fun hw => ?_
              exact (hw.restoreArtifact he : cause.IsWhole)

/-- A program that is run leaves both events of success or none. -/
theorem afterCompiled_course {cache : List Trace.Event} (hc : CacheWord host.cache.isSome cache)
    (workspace : Workspace) (before : σ) :
    let work := afterCompiled host workspace before
    Course host work.stage
      (entering .written [] :: (cache ++ entering .compiled [] :: Journal.recorded work.journal))
      work.error := by
  unfold afterCompiled
  have hw (h : host.ReportsWhole) := h.execute workspace before
  generalize host.execute workspace before = ended at hw
  obtain ⟨ended, state⟩ := ended
  cases ended with
  | notStarted cause => exact .compiled hc hw
  | interrupted why cause => exact .compiled hc hw
  | completed exitCode stdout stderr =>
    dsimp only
    split
    · exact .succeeded hc
    · exact .compiled hc fun _ => trivial

/-- From the source on a build takes its course. -/
theorem afterWritten_course (source : Bytes) (workspace : Workspace) (before : σ) :
    let work := afterWritten host toolchain source workspace before
    Course host work.stage (entering .written [] :: Journal.recorded work.journal) work.error := by
  unfold afterWritten
  have h := obtainArtifact_obtained host toolchain source workspace before
  generalize obtainArtifact host toolchain source workspace before = made at h
  obtain ⟨journal, failure, state⟩ := made
  cases failure with
  | some error =>
    dsimp only at h ⊢
    generalize Journal.recorded journal = events at h ⊢
    cases h with
    | nothing hf => exact .written hf
  | none =>
    dsimp only at h ⊢
    rw [Journal.recorded_append]
    generalize Journal.recorded journal = events at h ⊢
    cases h with
    | artifact hc => exact afterCompiled_course host hc workspace state

/-- From the workspace on a build takes its course. -/
theorem inWorkspace_course (source : Bytes) (workspace : Workspace) (before : σ) :
    let work := inWorkspace host toolchain source workspace before
    Course host work.stage (Journal.recorded work.journal) work.error := by
  unfold inWorkspace
  cases hs : host.writeSource workspace source before with
  | mk failure state =>
    cases failure with
    | some cause =>
      have he : (host.writeSource workspace source before).1 = some cause := by rw [hs]
      refine .generated fun hw => ?_
      exact (hw.writeSource he : cause.IsWhole)
    | none => exact afterWritten_course host toolchain source workspace state

/-- An error that is put beside that of a failed build changes nothing but the error. -/
theorem Course.combine {stage : Stage} {events : List Trace.Event} {first second : Error}
    (h : Course host stage events (some first)) (hs : Faithful host second) :
    Course host stage events (Error.combine? (some first) (some second)) := by
  have hf {first : Error} (h : Faithful host first) :
      Faithful host (.combined (first.parts ++ second.parts)) :=
    fun hw => (h hw).combine (hs hw)
  cases h with
  | generated h => exact .generated (hf h)
  | written h => exact .written (hf h)
  | compiled hc h => exact .compiled hc (hf h)

/-- Cleaning up leaves the course of a build as it is. -/
theorem cleanUp_course (keeps : Bool) (workspace : Workspace) {work : Work σ}
    (h : Course host work.stage (Journal.recorded work.journal) work.error) :
    let cleaned := cleanUp host keeps workspace work
    Course host cleaned.stage (Journal.recorded cleaned.journal) cleaned.error := by
  unfold cleanUp
  split
  · exact h
  · cases hr : host.removeWorkspace workspace work.state with
    | mk failure state =>
      cases failure with
      | none => exact h
      | some error =>
        have he : (host.removeWorkspace workspace work.state).1 = some error := by rw [hr]
        dsimp only
        rw [Journal.recorded_append]
        simp only [Journal.recorded, List.filterMap_cons, Happening.event?, List.filterMap_nil,
          List.append_nil]
        cases hw : work.error with
        | none =>
          rw [hw] at h
          exact h
        | some first =>
          rw [hw] at h
          exact h.combine host fun hw => hw.removeWorkspace he

/-- Every build has a course. -/
theorem workOf_course (keeps : Bool) (jobId source : Bytes) (before : σ) :
    let work := (workOf host toolchain keeps jobId source before).2
    Course host work.stage (Journal.recorded work.journal) work.error := by
  unfold workOf
  cases hc : host.createWorkspace jobId before with
  | mk made state =>
    cases made with
    | error cause =>
      have he : (host.createWorkspace jobId before).1 = .error cause := by rw [hc]
      refine .generated fun hw => ?_
      exact (hw.createWorkspace he : cause.IsWhole)
    | ok workspace =>
      exact cleanUp_course host keeps workspace
        (inWorkspace_course host toolchain source workspace state)

/-! ## The conclusion -/

/-- The reason that the trace of a build gives: none for a build without an error. -/
def reasonOf? (error : Option Error) : Bytes := error.elim [] reasonOf

/-- A failure always has a reason. -/
theorem reasonOf_ne_nil (error : Error) : reasonOf error ≠ [] := by
  unfold reasonOf
  split
  · next hc => exact Failure.classify_code_ne_nil hc
  · decide

/-- The stage with which a build ends that came so far. -/
def finalStage (stage : Stage) : Option Error → Stage
  | none => stage
  | some _ => .failed

/-- The events with which a build ends that has this error. -/
def finalEvents : Option Error → List Trace.Event
  | none => []
  | some error => [entering .failed (reasonOf error)]

section Conclude

variable (source : Bytes) (workspace : Option Workspace) (work : Work σ)

/-- Concluding keeps the error. -/
theorem conclude_error : (conclude source workspace work).error = work.error := by
  cases h : work.error <;> simp [conclude, h]

/-- Concluding keeps the output. -/
theorem conclude_printed : (conclude source workspace work).printed = work.printed := by
  cases h : work.error <;> simp [conclude, h]

/-- Concluding keeps the workspace. -/
theorem conclude_workspace : (conclude source workspace work).workspace = workspace := by
  cases h : work.error <;> simp [conclude, h]

/-- A build is concluded in the stage it has come to, or as failed. -/
theorem conclude_stage :
    (conclude source workspace work).stage = finalStage work.stage work.error := by
  cases h : work.error <;> simp [conclude, h, finalStage]

/-- The conclusion adds the first event, and the last one to a build that failed. -/
theorem conclude_recorded :
    (conclude source workspace work).journal.recorded
      = entering .generated [] :: Journal.recorded work.journal ++ finalEvents work.error := by
  cases h : work.error with
  | none => simp [conclude, h, finalEvents, Journal.recorded, Happening.event?, entering]
  | some error => simp [conclude, h, finalEvents, Journal.recorded, Happening.event?, entering]

/-- The trace of a build has the events of its journal. -/
theorem conclude_trace :
    (conclude source workspace work).trace
      = ⟨Trace.sourceHash source,
          Trace.numbered 0 (conclude source workspace work).journal.recorded⟩ := by
  rw [← Journal.trace_eq]
  cases h : work.error <;> simp [conclude, h]

/-- A build is a hit if its journal has one. -/
theorem conclude_isCacheHit :
    (conclude source workspace work).isCacheHit
      = (conclude source workspace work).journal.isHit := by
  cases h : work.error <;> simp [conclude, h]

end Conclude

/-- A build that is concluded has recorded a word, and it failed exactly when it has an error. -/
theorem conclude_word (source : Bytes) (workspace : Option Workspace) {work : Work σ}
    (h : Course host work.stage (Journal.recorded work.journal) work.error) :
    let outcome := conclude source workspace work
    JobWord host.cache.isSome (reasonOf? outcome.error) outcome.stage outcome.journal.recorded
      ∧ (outcome.stage = .succeeded ↔ outcome.error = none)
      ∧ ∀ error, outcome.error = some error → Faithful host error := by
  dsimp only
  rw [conclude_error, conclude_stage, conclude_recorded]
  generalize Journal.recorded work.journal = events at h ⊢
  generalize work.stage = stage at h ⊢
  generalize work.error = failure at h ⊢
  cases h with
  | generated h => exact ⟨.unwritten, by simp [finalStage], by simpa using h⟩
  | written h => exact ⟨.uncompiled, by simp [finalStage], by simpa using h⟩
  | @compiled _ error hc h =>
    have hword : JobWord host.cache.isSome (reasonOf error) .failed _ := .unexecuted hc
    refine ⟨?_, by simp [finalStage], by simpa using h⟩
    simpa [reasonOf?, finalStage, finalEvents] using hword
  | succeeded hc =>
    have hword : JobWord host.cache.isSome [] .succeeded _ := .succeeded hc
    refine ⟨?_, by simp [finalStage], nofun⟩
    simpa [reasonOf?, finalStage, finalEvents] using hword

/-! ## What a word tells -/

section Word

variable {hasCache : Bool} {reason : Bytes} {stage : Stage} {word : List Trace.Event}

/-- A word ends with its final stage. -/
theorem JobWord.isFinal (h : JobWord hasCache reason stage word) : stage.isFinal = true := by
  cases h <;> rfl

/-- The stages of a word are gone through by allowed moves, from the first to the last. -/
theorem JobWord.moves (h : JobWord hasCache reason stage word) (source : Bytes) :
    ∃ later, Trace.states ⟨source, word⟩ = Stage.name .generated :: later
      ∧ (Trace.states ⟨source, word⟩).getLast? = some stage.name
      ∧ later.foldlM (fun current target => move current current target) (Stage.name .generated)
        = .ok stage.name := by
  cases h with
  | unwritten => exact ⟨_, rfl, rfl, rfl⟩
  | uncompiled => exact ⟨_, rfl, rfl, rfl⟩
  | unexecuted hc => cases hc <;> exact ⟨_, rfl, rfl, rfl⟩
  | succeeded hc => cases hc <;> exact ⟨_, rfl, rfl, rfl⟩

/-- What holds of the events of the cache holds of all that it has told. -/
theorem CacheWord.forall_mem {p : Trace.Event → Prop} (h : CacheWord hasCache word)
    (hhit : p ⟨0, Trace.cacheHit, [], []⟩) (hstored : p ⟨0, Trace.cacheStored, [], []⟩) :
    ∀ event ∈ word, p event := by
  cases h with
  | silent => exact nofun
  | hit => simpa using hhit
  | stored => simpa using hstored

/-- What holds of the events that occur in words holds of all events of a word. -/
theorem JobWord.forall_mem {p : Trace.Event → Prop} (h : JobWord hasCache reason stage word)
    (hhit : p ⟨0, Trace.cacheHit, [], []⟩) (hstored : p ⟨0, Trace.cacheStored, [], []⟩)
    (hfailed : stage = .failed → p (entering .failed reason))
    (hentered : ∀ stage, stage ≠ .failed → p (entering stage [])) : ∀ event ∈ word, p event := by
  cases h with
  | unwritten => simp [hentered, hfailed]
  | uncompiled => simp [hentered, hfailed]
  | unexecuted hc => simpa [or_imp, forall_and, hentered, hfailed] using hc.forall_mem hhit hstored
  | succeeded hc => simpa [or_imp, forall_and, hentered] using hc.forall_mem hhit hstored

/-- A reason stands with the entering of failure and nowhere else. -/
theorem JobWord.reason_iff (h : JobWord hasCache reason stage word)
    (hreason : stage = .failed → reason ≠ []) : ∀ event ∈ word, (event.reason ≠ [] ↔
      event.kind = Trace.stateEntered ∧ event.state = Stage.name .failed) := by
  refine h.forall_mem (by decide) (by decide) ?_ ?_
  · intro hs
    simp [entering, hreason hs]
  · intro stage hs
    cases stage with
    | failed => exact absurd rfl hs
    | _ => simp only [entering]; decide

/-- An event with a reason has the one of the failure. -/
theorem JobWord.reason_eq (h : JobWord hasCache reason stage word) :
    ∀ event ∈ word, event.reason ≠ [] → event.reason = reason ∧ stage = .failed := by
  refine h.forall_mem (by simp) (by simp) ?_ ?_
  · intro hs _
    exact ⟨rfl, hs⟩
  · intro stage _ hne
    exact absurd rfl hne

/-- All events of a job are complete. -/
theorem JobWord.isComplete (h : JobWord hasCache reason stage word) :
    ∀ event ∈ word, event.IsComplete := by
  have hentered (stage : Stage) (reason : Bytes) : (entering stage reason).IsComplete :=
    ⟨by simp only [entering]; decide, fun _ => by cases stage <;> simp only [entering] <;> decide⟩
  refine h.forall_mem ?_ ?_ (fun _ => hentered _ _) fun stage _ => hentered stage []
  · exact ⟨by decide, by decide⟩
  · exact ⟨by decide, by decide⟩

end Word

/-! ## Traced outcomes -/

/-- The trace of a build over `source` tells its outcome. -/
structure Outcome.IsTraced {σ : Type} (host : Host σ) (source : Bytes) (outcome : Outcome) :
    Prop where
  /-- The events are a numbered word that ends with the stage of the outcome. -/
  language : ∃ reason word, JobWord host.cache.isSome reason outcome.stage word ∧
    outcome.trace = ⟨Trace.sourceHash source, Trace.numbered 0 word⟩
  /-- They are numbered from zero, without gaps. -/
  positions : outcome.trace.events.map (·.seq)
    = (List.range outcome.trace.events.length).map Int.ofNat
  /-- The stage of the outcome is the last one entered. -/
  last : outcome.trace.states.getLast? = some outcome.stage.name
  isFinal : outcome.stage.isFinal = true
  /-- The stages are gone through by allowed moves. -/
  moves : ∃ later, outcome.trace.states = Stage.name .generated :: later ∧
    later.foldlM (fun current target => move current current target) (Stage.name .generated)
      = .ok outcome.stage.name
  succeeded_iff : outcome.stage = .succeeded ↔ outcome.error = none
  /-- The entering of failure has a reason, and no other event has. -/
  reason_iff : ∀ event ∈ outcome.trace.events, event.reason ≠ [] ↔
    event.kind = Trace.stateEntered ∧ event.state = Stage.name .failed
  /-- The reason is the code of the error. -/
  reason_eq : ∀ event ∈ outcome.trace.events, event.reason ≠ [] → ∃ error,
    outcome.error = some error ∧
      ∀ record, Failure.classify error = some record → event.reason = record.code
  /-- There is such a code, unless the host reports an error that is not whole. -/
  classified : host.ReportsWhole → ∀ error, outcome.error = some error →
    ∃ record, Failure.classify error = some record
  isCacheHit_iff : outcome.isCacheHit = true ↔
    ∃ event ∈ outcome.trace.events, event.kind = Trace.cacheHit
  valid : outcome.trace.problem? = none
  canonical : ∃ text, outcome.trace.canonicalJson = .ok text

/-- An outcome is traced when its trace is a word that fits its stage and its error. -/
theorem Outcome.isTraced_of_word {outcome : Outcome} {source : Bytes} {word : List Trace.Event}
    (hword : JobWord host.cache.isSome (reasonOf? outcome.error) outcome.stage word)
    (htrace : outcome.trace = ⟨Trace.sourceHash source, Trace.numbered 0 word⟩)
    (hhit : outcome.isCacheHit = true ↔ ∃ event ∈ word, event.kind = Trace.cacheHit)
    (hsucceeded : outcome.stage = .succeeded ↔ outcome.error = none)
    (hfaithful : ∀ error, outcome.error = some error → Faithful host error) :
    outcome.IsTraced host source := by
  have herror (hs : outcome.stage = .failed) : ∃ error, outcome.error = some error := by
    refine Option.ne_none_iff_exists'.1 fun hn => ?_
    rw [hsucceeded.2 hn] at hs
    cases hs
  have hreason (hs : outcome.stage = .failed) : reasonOf? outcome.error ≠ [] := by
    obtain ⟨error, he⟩ := herror hs
    rw [he]
    exact reasonOf_ne_nil error
  have hstates : outcome.trace.states = Trace.states ⟨Trace.sourceHash source, word⟩ := by
    rw [htrace, Trace.states_numbered]
  have hvalid : outcome.trace.problem? = none := by
    rw [htrace, Trace.problem?_eq_none_iff]
    refine ⟨Trace.sourceHash_ne_nil source, ?_⟩
    rw [Trace.forall_mem_numbered fun _ _ => Iff.rfl]
    exact hword.isComplete
  obtain ⟨later, hlater, hlast, hmoves⟩ := hword.moves (Trace.sourceHash source)
  refine ⟨⟨_, word, hword, htrace⟩, ?_, ?_, hword.isFinal, ⟨later, ?_, hmoves⟩, hsucceeded, ?_, ?_,
    ?_, ?_, hvalid, ?_⟩
  · rw [htrace, Trace.map_seq_numbered, Trace.length_numbered, List.range_eq_range']
  · rw [hstates, hlast]
  · rw [hstates, hlater]
  · rw [htrace, Trace.forall_mem_numbered fun _ _ => Iff.rfl]
    exact hword.reason_iff hreason
  · rw [htrace, Trace.forall_mem_numbered fun _ _ => Iff.rfl]
    intro event hmem hne
    obtain ⟨hr, hs⟩ := hword.reason_eq event hmem hne
    obtain ⟨error, he⟩ := herror hs
    refine ⟨error, he, fun record hrecord => ?_⟩
    rw [hr, he]
    simp [reasonOf?, reasonOf, hrecord]
  · intro hw error he
    exact Failure.exists_classify (hfaithful error he hw)
  · rw [hhit, htrace, ← List.mem_map, ← List.mem_map, Trace.map_numbered (·.kind) fun _ _ => rfl]
  · rw [Trace.canonicalJson, htrace, Trace.canonical_numbered, ← htrace, hvalid]
    exact ⟨_, rfl⟩

/-- The trace of every build tells its outcome, whatever the steps of the host come to. -/
theorem run_isTraced (keeps : Bool) (jobId source : Bytes) (state : σ) :
    (run host toolchain keeps jobId source state).1.IsTraced host source := by
  have hcourse := workOf_course host toolchain keeps jobId source state
  rw [run_eq_workOf]
  generalize workOf host toolchain keeps jobId source state = made at hcourse ⊢
  obtain ⟨workspace, work⟩ := made
  obtain ⟨hword, hsucceeded, hfaithful⟩ := conclude_word host source workspace hcourse
  refine Outcome.isTraced_of_word host hword ?_ ?_ hsucceeded hfaithful
  · exact conclude_trace source workspace work
  · rw [← Journal.isHit_iff, ← conclude_isCacheHit]

/-- **The language of job traces.** Whatever the steps of a host come to, the trace of a build is a
word that tells its outcome. A build that fails on a machine has been classified, and the reason
that its trace gives is the code. -/
theorem trace_language [DatabaseLibrary] :
    (∀ {σ : Type} (host : Host σ) (toolchain : Toolchain) (keeps : Bool) (jobId source : Bytes)
      (state : σ), (run host toolchain keeps jobId source state).1.IsTraced host source) ∧
    ∀ (machine : Machine) (settings : Settings) (temporary : Bytes) (environment : List Bytes)
      (isCancelled : Bool) (jobId source : Bytes) (error : Error),
      let outcome := (machine.build settings temporary environment isCancelled jobId source).1
      outcome.error = some error → ∃ record, Failure.classify error = some record ∧
        ∀ event ∈ outcome.trace.events, event.reason ≠ [] → event.reason = record.code := by
  refine ⟨run_isTraced, ?_⟩
  intro machine settings temporary environment isCancelled jobId source error outcome he
  have ht : outcome.IsTraced _ source := run_isTraced _ _ _ _ _ _
  obtain ⟨record, hrecord⟩ := ht.classified (Machine.host_reportsWhole _ _ _ _ _) error he
  refine ⟨record, hrecord, fun event hmem hne => ?_⟩
  obtain ⟨other, hother, hcode⟩ := ht.reason_eq event hmem hne
  obtain rfl : error = other := Option.some.inj (he.symm.trans hother)
  exact hcode record hrecord

end Build

end FunctionChain
