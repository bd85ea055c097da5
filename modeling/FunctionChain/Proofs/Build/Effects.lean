import FunctionChain.Proofs.Build.Contents
import FunctionChain.Proofs.Build.Duties
import FunctionChain.Proofs.Build.TraceLanguage

/-!
# What a build records and what it does

The trace of a build matches what the build has done (`run_matchesEffects`): it compiles at most
once, and only what was written; its trace says that the artifact is there only when the toolchain or
the cache has brought it, and that the program was executed exactly when it ran to its end with
status 0. What the build has done is what its host was asked (`run_observed`), and by that the
contents of the cache are what they were but for one artifact, if the trace says that one was stored
(`contents_run`).
-/

namespace FunctionChain

/-! ## What traces tell -/

namespace Trace

/-- The trace has an event of the kind. -/
def Has (trace : Trace) (kind : Bytes) : Prop := ∃ event ∈ trace.events, event.kind = kind

/-- The trace says that the build has entered the stage. -/
def HasEntered (trace : Trace) (stage : Build.Stage) : Prop :=
  ∃ event ∈ trace.events, event.kind = stateEntered ∧ event.state = stage.name

end Trace

namespace Build

section Told

variable {history : History} {source : Bytes}

/-- The events of a trace are those that were noted. -/
theorem exists_mem_trace {p : Bytes → Bytes → Prop} :
    (∃ event ∈ (history.journal.trace source).events, p event.kind event.state) ↔
      ∃ happening, .noted happening ∈ history ∧
        ∃ event, happening.event? = some event ∧ p event.kind event.state := by
  have hnumbered : (∃ event ∈ Trace.numbered 0 history.journal.recorded,
      p event.kind event.state) ↔ ∃ event ∈ history.journal.recorded, p event.kind event.state := by
    have hnone := @Trace.forall_mem_numbered (fun event => ¬ p event.kind event.state)
      (fun _ _ => Iff.rfl) 0 history.journal.recorded
    simpa using not_congr hnone
  rw [Journal.trace_eq, hnumbered]
  simp only [Journal.recorded, History.journal, List.mem_filterMap]
  constructor
  · rintro ⟨event, ⟨happening, ⟨moment, hmem, hnote⟩, hevent⟩, hp⟩
    cases moment with
    | noted other =>
      cases hnote
      exact ⟨happening, hmem, event, hevent, hp⟩
    | _ => cases hnote
  · rintro ⟨happening, hmem, event, hevent, hp⟩
    exact ⟨event, ⟨happening, ⟨_, hmem, rfl⟩, hevent⟩, hp⟩

/-- The three kinds of events, and what each is about. -/
theorem Happening.event?_eq_some {happening : Happening} {event : Trace.Event}
    (h : happening.event? = some event) :
    (∃ stage reason, happening = .entered stage reason ∧ event.kind = Trace.stateEntered ∧
      event.state = stage.name) ∨
    (∃ key, happening = .restored key ∧ event.kind = Trace.cacheHit) ∨
    happening = .stored ∧ event.kind = Trace.cacheStored := by
  cases happening with
  | entered stage reason =>
    cases h
    exact .inl ⟨stage, reason, rfl, rfl, rfl⟩
  | restored key =>
    cases h
    exact .inr (.inl ⟨key, rfl, rfl⟩)
  | stored =>
    cases h
    exact .inr (.inr ⟨rfl, rfl⟩)
  | _ => cases h

/-- A trace tells of a hit just if there was one. -/
theorem has_cacheHit_iff : (history.journal.trace source).Has Trace.cacheHit ↔ history.HasHit := by
  refine (@exists_mem_trace _ _ fun kind _ => kind = Trace.cacheHit).trans ⟨?_, ?_⟩
  · rintro ⟨happening, hmem, event, hevent, hkind⟩
    obtain ⟨_, _, _, hother, _⟩ | ⟨key, rfl, _⟩ | ⟨_, hother⟩ := Happening.event?_eq_some hevent
    · exact absurd (hother.symm.trans hkind) (by decide)
    · exact ⟨key, hmem⟩
    · exact absurd (hother.symm.trans hkind) (by decide)
  · rintro ⟨key, hmem⟩
    exact ⟨_, hmem, _, rfl, rfl⟩

/-- A trace tells of an artifact that was stored just if that was noted. -/
theorem has_cacheStored_iff :
    (history.journal.trace source).Has Trace.cacheStored ↔ .noted .stored ∈ history := by
  refine (@exists_mem_trace _ _ fun kind _ => kind = Trace.cacheStored).trans ⟨?_, ?_⟩
  · rintro ⟨happening, hmem, event, hevent, hkind⟩
    obtain ⟨_, _, _, hother, _⟩ | ⟨_, _, hother⟩ | ⟨rfl, _⟩ := Happening.event?_eq_some hevent
    · exact absurd (hother.symm.trans hkind) (by decide)
    · exact absurd (hother.symm.trans hkind) (by decide)
    · exact hmem
  · exact fun hmem => ⟨_, hmem, _, rfl, rfl⟩

/-- A trace tells that a stage was entered just if it was. -/
theorem hasEntered_iff {stage : Stage} :
    (history.journal.trace source).HasEntered stage ↔ history.HasEntered stage := by
  refine (@exists_mem_trace _ _ fun kind state =>
    kind = Trace.stateEntered ∧ state = stage.name).trans ⟨?_, ?_⟩
  · rintro ⟨happening, hmem, event, hevent, hkind, hstate⟩
    obtain ⟨other, reason, rfl, _, hname⟩ | ⟨_, _, hother⟩ | ⟨_, hother⟩ :=
      Happening.event?_eq_some hevent
    · rw [Stage.name_inj.1 (hname.symm.trans hstate)] at hmem
      exact ⟨reason, hmem⟩
    · exact absurd (hother.symm.trans hkind) (by decide)
    · exact absurd (hother.symm.trans hkind) (by decide)
  · rintro ⟨reason, hmem⟩
    exact ⟨_, hmem, _, rfl, rfl, rfl⟩

end Told

/-! ## What hosts are asked -/

/-- Whether something was asked at the moment, and not recorded. -/
def Moment.isAsked : Moment → Bool
  | .noted _ => false
  | _ => true

/-- What was asked is a moment of asking. -/
theorem Ask.moment_isAsked (ask : Ask) (answer : ask.Answer) : (ask.moment answer).isAsked = true := by
  cases ask <;> rfl

/-- Whether the cache was asked at the moment. -/
def Moment.isOfCache : Moment → Bool
  | .lookedUp .. | .stored .. => true
  | _ => false

section Observed

variable {σ α : Type}

/-- A step that is also written down. -/
def observing (moment : α → Moment) (step : σ → α × σ) : History × σ → α × History × σ
  | (history, state) =>
    let (answer, after) := step state
    (answer, history ++ [moment answer], after)

/-- The host that writes down what it is asked and what it answers. -/
def Host.observed (host : Host σ) : Host (History × σ) where
  createWorkspace jobId := observing (.created jobId) (host.createWorkspace jobId)
  writeSource workspace source :=
    observing (.wrote workspace source) (host.writeSource workspace source)
  cache := host.cache.map fun access =>
    { lookup := fun key => observing (.lookedUp key) (access.lookup key)
      store := fun key artifact => observing (.stored key artifact) (access.store key artifact) }
  restoreArtifact workspace artifact :=
    observing (.restored workspace artifact) (host.restoreArtifact workspace artifact)
  compile toolchain workspace :=
    observing (.compiled toolchain workspace) (host.compile toolchain workspace)
  readArtifact workspace := observing (.read workspace) (host.readArtifact workspace)
  execute workspace := observing (.executed workspace) (host.execute workspace)
  removeWorkspace workspace := observing (.removed workspace) (host.removeWorkspace workspace)

variable (host : Host σ)

/-- An observed host answers as it does unobserved, and writes that down. -/
theorem Host.answer_observed (ask : Ask) (history : History) (state : σ)
    (hcache : (ask.moment (host.answer ask state).1).isOfCache = true → host.cache.isSome = true) :
    host.observed.answer ask (history, state) =
      ((host.answer ask state).1, history ++ [ask.moment (host.answer ask state).1],
        (host.answer ask state).2) := by
  cases ask with
  | lookup key =>
    obtain ⟨access, h⟩ := Option.isSome_iff_exists.1 (hcache rfl)
    simp only [Host.answer, Host.observed, h, Option.map_some]
    rfl
  | store key artifact =>
    obtain ⟨access, h⟩ := Option.isSome_iff_exists.1 (hcache rfl)
    simp only [Host.answer, Host.observed, h, Option.map_some]
    rfl
  | _ => rfl

/-- What is written down is what the history of the plan says was asked. -/
theorem Plan.carryOut_observed (plan : Plan α) (log : History) (state : σ)
    (hcache : ∀ moment ∈ (plan.carryOut host state).1, moment.isOfCache = true →
      host.cache.isSome = true) :
    plan.carryOut host.observed (log, state) =
      let (history, result, after) := plan.carryOut host state
      (history, result, log ++ history.filter Moment.isAsked, after) := by
  induction plan generalizing log state with
  | done result => simp [Plan.carryOut]
  | note happening next ih =>
    rw [Plan.carryOut, ih log state fun moment hmem => hcache moment (List.mem_cons_of_mem _ hmem)]
    rfl
  | ask question next ih =>
    have hrest := ih (host.answer question state).1
      (log ++ [question.moment (host.answer question state).1]) (host.answer question state).2
      fun moment hmem => hcache moment (List.mem_cons_of_mem _ hmem)
    rw [Plan.carryOut, host.answer_observed question log state (hcache _ List.mem_cons_self)]
    dsimp only
    rw [hrest, Plan.carryOut]
    dsimp only
    rw [List.filter_cons_of_pos (question.moment_isAsked _), List.append_assoc]
    rfl

end Observed

/-! ## Builds on hosts -/

section Run

variable {σ : Type} (host : Host σ) (toolchain : Toolchain) (keeps : Bool) (jobId source : Bytes)
  (state : σ)

/-- The history of a build on a host: what is recorded and what is asked, with the answers. -/
def historyOf : History :=
  ((building host.cache.isSome toolchain keeps jobId source).carryOut host state).1

/-- The trace of a build is that of its history. -/
theorem run_trace :
    (run host toolchain keeps jobId source state).1.trace =
      (historyOf host toolchain keeps jobId source state).journal.trace source := by
  rw [run]
  rfl

/-- Every moment of a build is due when it comes. -/
theorem due_of_history {before after : History} {moment : Moment}
    (h : historyOf host toolchain keeps jobId source state = before ++ moment :: after) :
    Due host.cache.isSome toolchain source before moment :=
  ((building_obeys host.cache.isSome toolchain keeps jobId source).carryOut host state).2
    before moment after h

/-- The output of a build is told by its history. -/
theorem historyOf_isTold :
    (historyOf host toolchain keeps jobId source state).IsTold
      (run host toolchain keeps jobId source state).1.printed := by
  rw [run]
  exact ((building_obeys host.cache.isSome toolchain keeps jobId source).carryOut host state).1.1

/-- Every moment of a build was due when it came. -/
theorem due_of_mem {moment : Moment}
    (h : moment ∈ historyOf host toolchain keeps jobId source state) :
    ∃ before, (∃ after, historyOf host toolchain keeps jobId source state
      = before ++ moment :: after) ∧ Due host.cache.isSome toolchain source before moment := by
  obtain ⟨before, after, hsplit⟩ := List.append_of_mem h
  exact ⟨before, ⟨after, hsplit⟩, due_of_history host toolchain keeps jobId source state hsplit⟩

/-- **What hosts are asked.** A host that writes down what it is asked has at the end of a build the
history of the build without what was recorded. -/
theorem run_observed (log : History) :
    run host.observed toolchain keeps jobId source (log, state) =
      let (outcome, after) := run host toolchain keeps jobId source state
      let history := historyOf host toolchain keeps jobId source state
      (outcome, log ++ history.filter Moment.isAsked, after) := by
  have hcache : ∀ moment ∈ historyOf host toolchain keeps jobId source state,
      moment.isOfCache = true → host.cache.isSome = true := by
    intro moment hmem hof
    obtain ⟨before, -, hdue⟩ := due_of_mem host toolchain keeps jobId source state hmem
    cases moment with
    | lookedUp key answer => exact hdue.1
    | stored key artifact answer => exact hdue.1
    | _ => cases hof
  have hsome : host.observed.cache.isSome = host.cache.isSome := Option.isSome_map
  rw [run, hsome, Plan.carryOut_observed host _ _ _ hcache, run]
  rfl

/-- Something that is due only when the other has not happened, and the other way round, does not
happen together with it. -/
theorem not_mem_of_due {first second : Moment} (hne : first ≠ second)
    (hfirst : ∀ {before}, Due host.cache.isSome toolchain source before first → second ∉ before)
    (hsecond : ∀ {before}, Due host.cache.isSome toolchain source before second → first ∉ before)
    (h : first ∈ historyOf host toolchain keeps jobId source state) :
    second ∉ historyOf host toolchain keeps jobId source state := by
  intro hmem
  obtain ⟨before, ⟨after, hsplit⟩, hdue⟩ := due_of_mem host toolchain keeps jobId source state h
  rw [hsplit] at hmem
  rcases List.mem_append.1 hmem with hmem | hmem
  · exact hfirst hdue hmem
  · obtain ⟨between, rest, rfl⟩ := List.append_of_mem (List.mem_of_ne_of_mem hne.symm hmem)
    rw [← List.cons_append, ← List.append_assoc] at hsplit
    exact hsecond (due_of_history host toolchain keeps jobId source state hsplit) (by simp)

/-- The only workspace of a build is that of its outcome. -/
theorem workspace_of_created {workspace : Workspace}
    (h : (historyOf host toolchain keeps jobId source state).HasCreated workspace) :
    (run host toolchain keeps jobId source state).1.workspace = some workspace := by
  obtain ⟨other, hmem⟩ := h
  have htold := ((building_obeys host.cache.isSome toolchain keeps jobId source).carryOut host
    state).1
  obtain ⟨-, answer, hcreated, hworkspace⟩ := htold
  have heq : (run host toolchain keeps jobId source state).1.workspace = answer.toOption := by
    rw [run]
    exact hworkspace
  by_cases hone : Moment.created other (.ok workspace) = .created jobId answer
  · cases hone
    exact heq
  · exact absurd hcreated (not_mem_of_due host toolchain keeps jobId source state hone
      (fun hdue => hdue _ _) (fun hdue => hdue _ _) hmem)

/-- What the trace of a build says matches its history, and so does its output. -/
structure Outcome.MatchesHistory (outcome : Outcome) (toolchain : Toolchain) (source : Bytes)
    (history : History) : Prop where
  /-- The trace is what the history has recorded. -/
  trace : outcome.trace = history.journal.trace source
  /-- The toolchain is started at most once, after the source was written, and not when the trace
  says that the artifact is from the cache. -/
  compiled : ∀ {before after : History} {used workspace ended},
    history = before ++ .compiled used workspace ended :: after →
      used = toolchain ∧ outcome.workspace = some workspace ∧ before.HasEntered .written ∧
        ¬ before.HasCompiled ∧ ¬ outcome.trace.Has Trace.cacheHit
  /-- That the artifact is there is recorded only if the toolchain or the cache has brought it. -/
  supplied : ∀ {before after : History} {reason},
    history = before ++ .noted (.entered .compiled reason) :: after →
      ∃ workspace, outcome.workspace = some workspace ∧
        before.HasArtifact toolchain source workspace
  /-- The artifact is started at most once, and only after it was recorded that it is there. -/
  executed : ∀ {before after : History} {workspace ended},
    history = before ++ .executed workspace ended :: after →
      outcome.workspace = some workspace ∧ before.HasEntered .compiled ∧
        before.HasArtifact toolchain source workspace ∧ ¬ before.HasExecuted
  /-- That the artifact was executed is recorded exactly when it ran to its end with status 0. -/
  completed : outcome.trace.HasEntered .executed ↔
    ∃ stdout stderr, history.Prints ⟨stdout, stderr, 0⟩
  /-- An artifact is stored at most once, under the key of the program, and it is the one that the
  toolchain has left. -/
  stored : ∀ {before after : History} {key artifact failure},
    history = before ++ .stored key artifact failure :: after →
      key = CacheKey.compute toolchain source ∧
        (∃ workspace, outcome.workspace = some workspace ∧
          before.Makes toolchain workspace artifact) ∧
        ¬ before.HasStored
  /-- That an artifact was stored is recorded exactly when storing it succeeded. -/
  told : outcome.trace.Has Trace.cacheStored ↔ ∃ key artifact, .stored key artifact none ∈ history
  /-- The output is that of the program, if it ran to its end, and nothing otherwise. -/
  printed : ∀ {printed}, history.Prints printed → outcome.printed = printed
  nothing : (∀ printed, ¬ history.Prints printed) → outcome.printed = .nothing

/-- What a build tells matches its history. -/
theorem run_matchesHistory :
    (run host toolchain keeps jobId source state).1.MatchesHistory toolchain source
      (historyOf host toolchain keeps jobId source state) := by
  have htold := historyOf_isTold host toolchain keeps jobId source state
  have htrace := run_trace host toolchain keeps jobId source state
  have hdue := @due_of_history _ host toolchain keeps jobId source state
  have hmem := @due_of_mem _ host toolchain keeps jobId source state
  have hworkspace {before after : History} {moment : Moment} {workspace : Workspace}
      (hsplit : historyOf host toolchain keeps jobId source state = before ++ moment :: after)
      (hcreated : before.HasCreated workspace) :
      (run host toolchain keeps jobId source state).1.workspace = some workspace :=
    workspace_of_created host toolchain keeps jobId source state
      (hcreated.of_prefix ⟨_, hsplit.symm⟩)
  refine ⟨htrace, ?_, ?_, ?_, ?_, ?_, ?_, htold.printed _, htold.nothing⟩
  · intro before after used workspace ended hsplit
    obtain ⟨hused, hcreated, hwritten, honce, -⟩ := hdue hsplit
    refine ⟨hused, hworkspace hsplit hcreated, hwritten, honce, ?_⟩
    rw [htrace, has_cacheHit_iff]
    rintro ⟨key, hhit⟩
    -- After a hit the toolchain is not due any more, and after the toolchain no hit is.
    have hne : Moment.noted (.restored key) ≠ .compiled used workspace ended := nofun
    exact not_mem_of_due host toolchain keeps jobId source state hne
      (fun hdue hmem => hdue ⟨_, _, _, hmem⟩) (fun hdue hmem => hdue.2.2.2.2 ⟨_, hmem⟩) hhit
      (hsplit ▸ List.mem_append_right _ List.mem_cons_self)
  · intro before after reason hsplit
    obtain ⟨workspace, hcreated, hartifact⟩ := hdue hsplit
    exact ⟨workspace, hworkspace hsplit hcreated, hartifact⟩
  · intro before after workspace ended hsplit
    obtain ⟨hcreated, hrest⟩ := hdue hsplit
    exact ⟨hworkspace hsplit hcreated, hrest⟩
  · rw [htrace, hasEntered_iff]
    constructor
    · rintro ⟨reason, hentered⟩
      obtain ⟨before, ⟨after, hsplit⟩, stdout, stderr, workspace, hexecuted⟩ := hmem hentered
      exact ⟨stdout, stderr, workspace, hsplit ▸ List.mem_append_left _ hexecuted⟩
    · rintro ⟨stdout, stderr, hprints⟩
      exact htold.executed stdout stderr hprints
  · intro before after key artifact failure hsplit
    obtain ⟨-, hkey, ⟨workspace, hcreated, hmade⟩, honce⟩ := hdue hsplit
    exact ⟨hkey, ⟨workspace, hworkspace hsplit hcreated, hmade⟩, honce⟩
  · rw [htrace, has_cacheStored_iff]
    constructor
    · intro hnoted
      obtain ⟨before, ⟨after, hsplit⟩, key, artifact, hstored⟩ := hmem hnoted
      exact ⟨key, artifact, hsplit ▸ List.mem_append_left _ hstored⟩
    · rintro ⟨key, artifact, hstored⟩
      exact htold.stored key artifact hstored

/-- The contents of the cache after a build: what they were, but for the artifact that the toolchain
has left, if the trace says that one was stored. -/
theorem contents_run {isReady : Phase → σ → Prop} {contents : σ → Bytes → Option Bytes}
    (hshows : host.ShowsCache toolchain (CacheKey.compute toolchain source) isReady contents)
    (hready : isReady .idle state) :
    let built := run host toolchain keeps jobId source state
    (¬ built.1.trace.Has Trace.cacheStored → contents built.2 = contents state) ∧
      (built.1.trace.Has Trace.cacheStored → ∃ workspace artifact,
        built.1.workspace = some workspace ∧
        (historyOf host toolchain keeps jobId source state).Makes toolchain workspace artifact ∧
        contents built.2 = Function.update (contents state) (CacheKey.compute toolchain source)
          (some artifact)) := by
  have hmatches := run_matchesHistory host toolchain keeps jobId source state
  have hcontents : contents (run host toolchain keeps jobId source state).2
      = (historyOf host toolchain keeps jobId source state).contents (contents state) := by
    rw [run]
    exact ((building_takesTurns keeps jobId).carryOut hshows hready).2
  intro built
  refine ⟨fun hnot => hcontents.trans ?_, fun hhas => ?_⟩
  · refine History.contents_of_not_mem _ fun key artifact hmem => ?_
    exact hnot (hmatches.told.2 ⟨key, artifact, hmem⟩)
  · obtain ⟨key, artifact, hmem⟩ := hmatches.told.1 hhas
    obtain ⟨before, after, hsplit⟩ := List.append_of_mem hmem
    obtain ⟨rfl, ⟨workspace, hworkspace, hmade⟩, honce⟩ := hmatches.stored hsplit
    refine ⟨workspace, artifact, hworkspace, hsplit ▸ hmade.append, hcontents.trans ?_⟩
    rw [hsplit]
    refine History.contents_of_once _ (fun key artifact hmem => honce ⟨_, _, _, hmem⟩)
      fun key artifact hmem => ?_
    obtain ⟨between, rest, rfl⟩ := List.append_of_mem hmem
    rw [← List.cons_append, ← List.append_assoc] at hsplit
    exact (hmatches.stored hsplit).2.2 ⟨_, _, _, List.mem_append_right _ List.mem_cons_self⟩

/-- What is new in the cache is told by the trace, and is under the key of the program. -/
theorem stored_of_changed {isReady : Phase → σ → Prop} {contents : σ → Bytes → Option Bytes}
    (hshows : host.ShowsCache toolchain (CacheKey.compute toolchain source) isReady contents)
    (hready : isReady .idle state) {key : Bytes} :
    let built := run host toolchain keeps jobId source state
    contents built.2 key ≠ contents state key →
      built.1.trace.Has Trace.cacheStored ∧ key = CacheKey.compute toolchain source := by
  intro built hchanged
  obtain ⟨hsame, hstored⟩ := contents_run host toolchain keeps jobId source state hshows hready
  have hnamed : built.1.trace.Has Trace.cacheStored := by
    by_contra hnot
    exact hchanged (congrFun (hsame hnot) key)
  obtain ⟨_, artifact, -, -, hupdate⟩ := hstored hnamed
  refine ⟨hnamed, ?_⟩
  by_contra hne
  exact hchanged ((congrFun hupdate key).trans (Function.update_of_ne hne ..))

end Run

/-- **Traces match effects.** Whatever the steps of a build come to, its trace and its output match
what its host was asked and has answered, as a host that writes that down knows it; and the contents
of its cache change only if the trace says that an artifact was stored, and then only under the key
of the program, to the artifact that the toolchain has left. -/
theorem run_matchesEffects {σ : Type} (host : Host σ) (toolchain : Toolchain) (keeps : Bool)
    (jobId source : Bytes) (state : σ) :
    let built := run host toolchain keeps jobId source state
    let history := historyOf host toolchain keeps jobId source state
    run host.observed toolchain keeps jobId source ([], state)
        = (built.1, history.filter Moment.isAsked, built.2) ∧
      built.1.MatchesHistory toolchain source history ∧
      ∀ (isReady : Phase → σ → Prop) (contents : σ → Bytes → Option Bytes),
        host.ShowsCache toolchain (CacheKey.compute toolchain source) isReady contents →
        isReady .idle state →
        (¬ built.1.trace.Has Trace.cacheStored → contents built.2 = contents state) ∧
        (built.1.trace.Has Trace.cacheStored → ∃ workspace artifact,
          built.1.workspace = some workspace ∧ history.Makes toolchain workspace artifact ∧
          contents built.2 = Function.update (contents state) (CacheKey.compute toolchain source)
            (some artifact)) :=
  ⟨run_observed host toolchain keeps jobId source state [],
    run_matchesHistory host toolchain keeps jobId source state,
    fun _ _ hshows hready => contents_run host toolchain keeps jobId source state hshows hready⟩

/-- On a machine whose cache holds its artifacts itself, a build changes what is held under the key
of its program at most, and nothing unless its trace says so. -/
theorem Machine.held_build [DatabaseLibrary] {isOne : Cache → Prop}
    {contents : Cache → Bytes → Option Bytes} (hheld : Cache.IsHeld isOne contents)
    {machine : Machine} (hhas : machine.Has isOne) (settings : Settings) (temporary : Bytes)
    (environment : List Bytes) (isCancelled : Bool) (jobId source key : Bytes) :
    let built := machine.build settings temporary environment isCancelled jobId source
    built.2.held contents key ≠ machine.held contents key →
      built.1.trace.Has Trace.cacheStored ∧ key = CacheKey.compute settings.toolchain source := by
  have hsome : machine.cache.isSome = true := by
    obtain ⟨cache, hcache, -⟩ := hhas
    rw [hcache]
    rfl
  unfold Machine.build
  rw [hsome]
  exact stored_of_changed (host settings temporary environment true isCancelled) settings.toolchain
    settings.keepsWorkspace jobId source machine
    (host_showsCache hheld settings temporary environment isCancelled _ _) hhas

/-! ## A bench -/

section Bench

local instance : DatabaseLibrary := Database.library

/-- A host with one workspace and the cache of a machine. -/
structure Bench where
  machine : Machine
  source : Option Bytes
  artifact : Option Bytes

namespace Bench

/-- Access to the cache of the machine. -/
def access : CacheAccess Bench where
  lookup key bench :=
    let (found, machine) := Machine.cacheAccess.lookup key bench.machine
    (found, { bench with machine })
  store key artifact bench :=
    let (failure, machine) := Machine.cacheAccess.store key artifact bench.machine
    (failure, { bench with machine })

/-- The host of builds on a bench. The compiler takes every source for its own artifact, and a compiled
program prints itself. -/
def host : Host Bench where
  createWorkspace jobId bench := (.ok ⟨jobId⟩, bench)
  writeSource _ source bench := (none, { bench with source := some source })
  cache := some access
  restoreArtifact _ artifact bench := (none, { bench with artifact := some artifact })
  compile _ _ bench :=
    match bench.source with
    | some source => (.completed 0 [] [], { bench with artifact := some source })
    | none => (.notStarted (.plain (bytes "no source")), bench)
  readArtifact _ bench :=
    match bench.artifact with
    | some artifact => (.ok artifact, bench)
    | none => (.error (.plain (bytes "no artifact")), bench)
  execute _ bench :=
    match bench.artifact with
    | some artifact => (.completed 0 artifact [], bench)
    | none => (.notStarted (.plain (bytes "no artifact")), bench)
  removeWorkspace _ bench := (none, { bench with source := none, artifact := none })

/-- The bench before anything was asked of it. -/
def start : Bench := ⟨⟨Files.Tree.empty, some (.memory [])⟩, none, none⟩

/-- A bench shows what its cache in memory holds. -/
theorem host_showsCache (toolchain : Toolchain) (key : Bytes) :
    host.ShowsCache toolchain key (fun _ bench => bench.machine.Has Cache.IsMemory)
      fun bench => bench.machine.held Cache.remembered := by
  rintro phase ⟨machine, source, artifact⟩ ask hhas _
  cases ask with
  | lookup other =>
    have hcache := machine.cacheAccess_lookup_cache other
    unfold Machine.Has Machine.held at *
    refine ⟨?_, ?_⟩
    · change ∃ cache, (Machine.cacheAccess.lookup other machine).2.cache = _ ∧ _
      rwa [hcache]
    · change (fun key => (Machine.cacheAccess.lookup other machine).2.cache.bind _) = _
      rw [hcache]
      rfl
  | store other artifact => exact Machine.cacheAccess_store Cache.isMemory_isHeld hhas other artifact
  | compile toolchain workspace => cases source <;> exact ⟨hhas, rfl⟩
  | readArtifact workspace => cases artifact <;> exact ⟨hhas, rfl⟩
  | execute workspace => cases artifact <;> exact ⟨hhas, rfl⟩
  | _ => exact ⟨hhas, rfl⟩

/-- A source that is asked for is compiled, stored and executed, and its trace says so. -/
theorem build_matchesEffects :
    let built := run host .standard false (bytes "job") (bytes "a") start
    built.1.trace.Has Trace.cacheStored ∧ built.1.trace.HasEntered .executed ∧
      built.1.MatchesHistory .standard (bytes "a")
        (historyOf host .standard false (bytes "job") (bytes "a") start) ∧
      ∃ artifact, built.2.machine.held Cache.remembered
        = Function.update (start.machine.held Cache.remembered)
          (CacheKey.compute .standard (bytes "a")) (some artifact) := by
  obtain ⟨-, hmatches, hcontents⟩ :=
    run_matchesEffects host .standard false (bytes "job") (bytes "a") start
  have htrace : (run host .standard false (bytes "job") (bytes "a") start).1.trace.events
      = Trace.numbered 0
        (run host .standard false (bytes "job") (bytes "a") start).1.journal.recorded := by
    rw [run_eq_workOf]
    exact congrArg Trace.events (conclude_trace ..)
  have hstored : (run host .standard false (bytes "job") (bytes "a") start).1.trace.Has
      Trace.cacheStored := by
    rw [Trace.Has, htrace]
    decide +kernel
  have hentered : (run host .standard false (bytes "job") (bytes "a") start).1.trace.HasEntered
      .executed := by
    rw [Trace.HasEntered, htrace]
    decide +kernel
  obtain ⟨-, artifact, -, -, hentry⟩ :=
    (hcontents _ _ (host_showsCache .standard _) ⟨.memory [], rfl, trivial⟩).2 hstored
  exact ⟨hstored, hentered, hmatches, artifact, hentry⟩

end Bench

end Bench

end Build

end FunctionChain
