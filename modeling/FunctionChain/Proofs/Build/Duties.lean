import FunctionChain.Proofs.Build.Plan

/-!
# The duties of a build

A build may not do or record everything at any time. Before each moment of its history certain
things must have happened and others must not (`Due`): it compiles once and only what was written,
it records that the artifact is there only when it is. And at the end it must have told what has
happened (`History.IsTold`). Both are shown of the plan of a build, phase by phase and for every
answer (`building_obeys`), so they hold of every build on every host.
-/

namespace FunctionChain

namespace Build

open Plan (noting asking)

/-! ## What plans obey -/

namespace Plan

variable {α β σ : Type} {due : History → Moment → Prop}

/-- `plan.Obeys due ends past`: when the plan is carried out after this past, every moment is due
when it comes, and in the end the history and the result are as they should be. -/
def Obeys (due : History → Moment → Prop) (ends : History → α → Prop) :
    Plan α → History → Prop
  | done result, past => ends past result
  | note happening next, past =>
    due past (.noted happening) ∧ next.Obeys due ends (past ++ [.noted happening])
  | ask question next, past => ∀ answer, due past (question.moment answer) ∧
    (next answer).Obeys due ends (past ++ [question.moment answer])

/-- A plan that obeys its duties and ends in one way ends in every weaker way. -/
theorem Obeys.imp {ends ends' : History → α → Prop} (himp : ∀ past result, ends past result →
    ends' past result) {plan : Plan α} {past : History} (h : plan.Obeys due ends past) :
    plan.Obeys due ends' past := by
  induction plan generalizing past with
  | done result => exact himp past result h
  | note happening next ih => exact ⟨h.1, ih h.2⟩
  | ask question next ih => exact fun answer => ⟨(h answer).1, ih answer (h answer).2⟩

/-- One plan after another, the second in the history that the first has made. -/
theorem Obeys.bind {ends : History → β → Prop} {plan : Plan α} {after : α → Plan β}
    {past : History}
    (h : plan.Obeys due (fun past result => (after result).Obeys due ends past) past) :
    (plan >>= after).Obeys due ends past := by
  induction plan generalizing past with
  | done result => exact h
  | note happening next ih => exact ⟨h.1, ih h.2⟩
  | ask question next ih => exact fun answer => ⟨(h answer).1, ih answer (h answer).2⟩

/-- The past stays the beginning of the history. -/
theorem Obeys.extends_past {ends : History → α → Prop} {plan : Plan α} {past : History}
    (h : plan.Obeys due ends past) :
    plan.Obeys due (fun history result => past <+: history ∧ ends history result) past := by
  induction plan generalizing past with
  | done result => exact ⟨List.prefix_rfl, h⟩
  | note happening next ih =>
    exact ⟨h.1, (ih h.2).imp fun _ _ ⟨hpast, hends⟩ => ⟨(List.prefix_append _ _).trans hpast, hends⟩⟩
  | ask question next ih =>
    exact fun answer => ⟨(h answer).1, (ih answer (h answer).2).imp
      fun _ _ ⟨hpast, hends⟩ => ⟨(List.prefix_append _ _).trans hpast, hends⟩⟩

section Steps

variable {ends : History → α → Prop} {past : History}

/-- Noting something is a duty at that point, and then the rest obeys. -/
theorem obeys_noting_bind (happening : Happening) (after : Unit → Plan α) :
    (noting happening >>= after).Obeys due ends past ↔
      due past (.noted happening) ∧
        (after ()).Obeys due ends (past ++ [.noted happening]) := Iff.rfl

/-- Asking something is a duty whatever the answer, and then the rest obeys. -/
theorem obeys_asking_bind (question : Ask) (after : question.Answer → Plan α) :
    (asking question >>= after).Obeys due ends past ↔
      ∀ answer, due past (question.moment answer) ∧
        (after answer).Obeys due ends (past ++ [question.moment answer]) := Iff.rfl

end Steps

/-- What is due at each moment of a history that begins with this one. -/
theorem due_cons {past history : History} {first : Moment} (hfirst : due past first)
    (hrest : ∀ before moment after, history = before ++ moment :: after →
      due (past ++ [first] ++ before) moment) (before : History) (moment : Moment)
    (after : History) (h : first :: history = before ++ moment :: after) :
    due (past ++ before) moment := by
  cases before with
  | nil =>
    cases h
    rw [List.append_nil]
    exact hfirst
  | cons other before =>
    obtain ⟨rfl, hhistory⟩ := List.cons.inj h
    have hdue := hrest before moment after hhistory
    rw [List.append_assoc] at hdue
    exact hdue

/-- What a plan obeys holds whoever carries it out. -/
theorem Obeys.carryOut {ends : History → α → Prop} {plan : Plan α} {past : History}
    (h : plan.Obeys due ends past) (host : Host σ) (state : σ) :
    let (history, result, _) := plan.carryOut host state
    ends (past ++ history) result ∧
      ∀ before moment after, history = before ++ moment :: after → due (past ++ before) moment := by
  induction plan generalizing past state with
  | done result =>
    refine ⟨?_, fun before moment after heq => ?_⟩
    · change ends (past ++ []) result
      rw [List.append_nil]
      exact h
    · cases before <;> cases heq
  | note happening next ih =>
    obtain ⟨hends, hdue⟩ := ih h.2 state
    rw [List.append_assoc] at hends
    exact ⟨hends, due_cons h.1 hdue⟩
  | ask question next ih =>
    obtain ⟨hfirst, hnext⟩ := h (host.answer question state).1
    obtain ⟨hends, hdue⟩ := ih _ hnext (host.answer question state).2
    rw [List.append_assoc] at hends
    exact ⟨hends, due_cons hfirst hdue⟩

end Plan

/-! ## What has happened -/

namespace History

variable (history : History)

/-- The workspace was created. -/
def HasCreated (workspace : Workspace) : Prop := ∃ jobId, .created jobId (.ok workspace) ∈ history

/-- The stage was entered. -/
def HasEntered (stage : Stage) : Prop := ∃ reason, .noted (.entered stage reason) ∈ history

/-- The artifact was recorded as taken from the cache. -/
def HasHit : Prop := ∃ key, .noted (.restored key) ∈ history

/-- The toolchain was to be started. -/
def HasCompiled : Prop := ∃ toolchain workspace ended, .compiled toolchain workspace ended ∈ history

/-- The artifact was to be started. -/
def HasExecuted : Prop := ∃ workspace ended, .executed workspace ended ∈ history

/-- An artifact was to be stored. -/
def HasStored : Prop := ∃ key artifact failure, .stored key artifact failure ∈ history

/-- The toolchain has exited with status 0 in the workspace. -/
def Compiles (toolchain : Toolchain) (workspace : Workspace) : Prop :=
  ∃ stdout stderr, .compiled toolchain workspace (.completed 0 stdout stderr) ∈ history

/-- The artifact that it has left there. -/
def Makes (toolchain : Toolchain) (workspace : Workspace) (artifact : Bytes) : Prop :=
  history.Compiles toolchain workspace ∧ .read workspace (.ok artifact) ∈ history

/-- The artifact in the workspace was left there by the toolchain, or is that of the cache under the
key of the program. -/
def HasArtifact (toolchain : Toolchain) (source : Bytes) (workspace : Workspace) : Prop :=
  (∃ artifact, history.Makes toolchain workspace artifact) ∨
  ∃ artifact, .lookedUp (CacheKey.compute toolchain source) (.ok (some artifact)) ∈ history ∧
    .restored workspace artifact none ∈ history

/-- The program in a workspace has run to its end with this status and this output. -/
def Prints (printed : Printed) : Prop :=
  ∃ workspace, .executed workspace (.completed printed.exitCode printed.stdout printed.stderr)
    ∈ history

/-- When an artifact was stored, that is recorded. -/
def TellsStored : Prop := ∀ key artifact, .stored key artifact none ∈ history →
  .noted .stored ∈ history

section Growth

variable {history} {later : History} {toolchain : Toolchain} {source : Bytes}
  {workspace : Workspace} {stage : Stage}

/-- A workspace that was created stays so, whatever comes later. -/
theorem HasCreated.append (h : history.HasCreated workspace) :
    (history ++ later).HasCreated workspace :=
  h.imp fun _ => List.mem_append_left later

/-- A workspace that was created at one point was created for every longer history. -/
theorem HasCreated.of_prefix {longer : History} (h : history.HasCreated workspace)
    (hlonger : history <+: longer) : longer.HasCreated workspace :=
  h.imp fun _ hmem => hlonger.subset hmem

/-- A stage that was entered stays so. -/
theorem HasEntered.append (h : history.HasEntered stage) : (history ++ later).HasEntered stage :=
  h.imp fun _ => List.mem_append_left later

/-- The stage that was noted last was entered. -/
theorem hasEntered_concat {reason : Bytes} :
    (history ++ [Moment.noted (.entered stage reason)]).HasEntered stage :=
  ⟨reason, List.mem_concat_self⟩

/-- A toolchain that has succeeded stays so. -/
theorem Compiles.append (h : history.Compiles toolchain workspace) :
    (history ++ later).Compiles toolchain workspace :=
  h.imp fun _ => Exists.imp fun _ => List.mem_append_left later

/-- An artifact that was made stays so. -/
theorem Makes.append {artifact : Bytes} (h : history.Makes toolchain workspace artifact) :
    (history ++ later).Makes toolchain workspace artifact :=
  ⟨h.1.append, List.mem_append_left later h.2⟩

/-- A toolchain that comes back with code 0 has succeeded. -/
theorem compiles_concat {stdout stderr : Bytes} :
    (history ++ [Moment.compiled toolchain workspace (.completed 0 stdout stderr)]).Compiles
      toolchain workspace :=
  ⟨stdout, stderr, List.mem_concat_self⟩

/-- An artifact that is in the workspace counts as there from then on. -/
theorem HasArtifact.append (h : history.HasArtifact toolchain source workspace) :
    (history ++ later).HasArtifact toolchain source workspace := by
  obtain ⟨artifact, hmade⟩ | ⟨artifact, hfound, hrestored⟩ := h
  · exact .inl ⟨artifact, hmade.append⟩
  · exact .inr ⟨artifact, List.mem_append_left later hfound, List.mem_append_left later hrestored⟩

end Growth

end History

/-- Whether the moment is none at which a program is started, the artifact is taken from the cache
or is put there. -/
def Moment.isQuiet : Moment → Bool
  | .compiled .. | .executed .. | .stored .. | .noted (.restored _) => false
  | _ => true

/-! ## What is due -/

/-- What must have happened before a moment, and what must not. -/
def Due (hasCache : Bool) (toolchain : Toolchain) (source : Bytes) (past : History) :
    Moment → Prop
  | .created _ _ => ∀ jobId answer, .created jobId answer ∉ past
  | .wrote workspace _ _ | .removed workspace _ => past.HasCreated workspace
  | .lookedUp key _ => hasCache = true ∧ key = CacheKey.compute toolchain source
  | .restored workspace artifact _ => past.HasCreated workspace ∧
    .lookedUp (CacheKey.compute toolchain source) (.ok (some artifact)) ∈ past
  | .noted (.restored _) => ¬ past.HasCompiled
  | .compiled used workspace _ => used = toolchain ∧ past.HasCreated workspace ∧
    past.HasEntered .written ∧ ¬ past.HasCompiled ∧ ¬ past.HasHit
  | .read workspace _ => past.Compiles toolchain workspace
  | .stored key artifact _ => hasCache = true ∧ key = CacheKey.compute toolchain source ∧
    (∃ workspace, past.HasCreated workspace ∧ past.Makes toolchain workspace artifact) ∧
    ¬ past.HasStored
  | .noted .stored => ∃ key artifact, .stored key artifact none ∈ past
  | .noted (.entered .compiled _) => ∃ workspace, past.HasCreated workspace ∧
    past.HasArtifact toolchain source workspace
  | .executed workspace _ => past.HasCreated workspace ∧ past.HasEntered .compiled ∧
    past.HasArtifact toolchain source workspace ∧ ¬ past.HasExecuted
  | .noted (.entered .executed _) => ∃ stdout stderr, past.Prints ⟨stdout, stderr, 0⟩
  | _ => True

/-- Nothing was put into the cache yet, and nothing executed. -/
structure History.IsFresh (history : History) : Prop where
  stored : ¬ history.HasStored
  executed : ¬ history.HasExecuted

/-- Nothing was compiled yet either, or taken from the cache. -/
structure History.IsIdle (history : History) : Prop extends history.IsFresh where
  compiled : ¬ history.HasCompiled
  hit : ¬ history.HasHit

/-- The artifact is in the workspace, unless there is an error, and was not executed yet. -/
structure History.IsSupplied (toolchain : Toolchain) (source : Bytes) (workspace : Workspace)
    (history : History) (failure : Option Error) : Prop where
  artifact : failure = none → history.HasArtifact toolchain source workspace
  executed : ¬ history.HasExecuted
  stored : history.TellsStored

/-- What a build that is over has told: that its program ran to its end with status 0, what it
printed, and that an artifact was stored. -/
structure History.IsTold (history : History) (output : Printed) : Prop where
  executed : ∀ stdout stderr, history.Prints ⟨stdout, stderr, 0⟩ → history.HasEntered .executed
  printed : ∀ printed, history.Prints printed → output = printed
  nothing : (∀ printed, ¬ history.Prints printed) → output = .nothing
  stored : history.TellsStored

/-! ## Phases -/

namespace History

section Concat

variable {history : History} {moment : Moment}

/-- What is in a history and is not its last moment was there before. -/
theorem mem_of_mem_concat {other : Moment} (hmem : other ∈ history ++ [moment])
    (h : moment ≠ other) : other ∈ history := by
  rcases List.mem_append.1 hmem with hmem | hmem
  · exact hmem
  · exact absurd (List.mem_singleton.1 hmem).symm h

/-- Only a moment of execution makes a program executed. -/
theorem not_hasExecuted_concat (hexecuted : ¬ history.HasExecuted)
    (h : ∀ workspace ended, moment ≠ .executed workspace ended) :
    ¬ (history ++ [moment]).HasExecuted :=
  fun ⟨workspace, ended, hmem⟩ =>
    hexecuted ⟨workspace, ended, mem_of_mem_concat hmem (h workspace ended)⟩

/-- Only a moment of storing makes an artifact stored. -/
theorem not_hasStored_concat (hstored : ¬ history.HasStored)
    (h : ∀ key artifact failure, moment ≠ .stored key artifact failure) :
    ¬ (history ++ [moment]).HasStored :=
  fun ⟨key, artifact, failure, hmem⟩ =>
    hstored ⟨key, artifact, failure, mem_of_mem_concat hmem (h key artifact failure)⟩

/-- A history that tells of what was stored still does after a moment in which nothing is. -/
theorem TellsStored.concat (htells : history.TellsStored)
    (h : ∀ key artifact, moment ≠ .stored key artifact none) : (history ++ [moment]).TellsStored :=
  fun key artifact hmem =>
    List.mem_append_left _ (htells key artifact (mem_of_mem_concat hmem (h key artifact)))

end Concat

section Quiet

variable {history : History} {moment : Moment}

/-- A quiet moment is none that is not. -/
theorem ne_of_isQuiet (h : moment.isQuiet = true) {other : Moment}
    (hother : other.isQuiet = false) : moment ≠ other := by
  rintro rfl
  rw [h] at hother
  cases hother

/-- A quiet moment prints nothing. -/
theorem prints_quiet (h : moment.isQuiet = true) {printed : Printed} :
    (history ++ [moment]).Prints printed ↔ history.Prints printed :=
  ⟨Exists.imp fun _ hmem => mem_of_mem_concat hmem (ne_of_isQuiet h rfl),
    Exists.imp fun _ => List.mem_append_left _⟩

/-- A quiet moment stores nothing. -/
theorem TellsStored.quiet (htells : history.TellsStored) (h : moment.isQuiet = true) :
    (history ++ [moment]).TellsStored :=
  htells.concat fun _ _ => ne_of_isQuiet h rfl

/-- A quiet moment leaves a fresh history fresh. -/
theorem IsFresh.quiet (hfresh : history.IsFresh) (h : moment.isQuiet = true) :
    (history ++ [moment]).IsFresh where
  stored := not_hasStored_concat hfresh.stored fun _ _ _ => ne_of_isQuiet h rfl
  executed := not_hasExecuted_concat hfresh.executed fun _ _ => ne_of_isQuiet h rfl

/-- A quiet moment leaves an idle history idle. -/
theorem IsIdle.quiet (hidle : history.IsIdle) (h : moment.isQuiet = true) :
    (history ++ [moment]).IsIdle where
  toIsFresh := hidle.toIsFresh.quiet h
  compiled := fun ⟨toolchain, workspace, ended, hmem⟩ =>
    hidle.compiled ⟨toolchain, workspace, ended, mem_of_mem_concat hmem (ne_of_isQuiet h rfl)⟩
  hit := fun ⟨key, hmem⟩ => hidle.hit ⟨key, mem_of_mem_concat hmem (ne_of_isQuiet h rfl)⟩

/-- A quiet moment takes nothing away that was supplied. -/
theorem IsSupplied.quiet {toolchain : Toolchain} {source : Bytes} {workspace : Workspace}
    {failure : Option Error} (hsupplied : history.IsSupplied toolchain source workspace failure)
    (h : moment.isQuiet = true) :
    (history ++ [moment]).IsSupplied toolchain source workspace failure where
  artifact := fun hnone => (hsupplied.artifact hnone).append
  executed := not_hasExecuted_concat hsupplied.executed fun _ _ => ne_of_isQuiet h rfl
  stored := hsupplied.stored.quiet h

/-- A quiet moment adds nothing to the output that is told. -/
theorem IsTold.quiet {output : Printed} (htold : history.IsTold output)
    (h : moment.isQuiet = true) : (history ++ [moment]).IsTold output where
  executed := fun stdout stderr hprints =>
    (htold.executed stdout stderr ((prints_quiet h).1 hprints)).append
  printed := fun printed hprints => htold.printed printed ((prints_quiet h).1 hprints)
  nothing := fun hnot => htold.nothing fun printed hprints =>
    hnot printed ((prints_quiet h).2 hprints)
  stored := htold.stored.quiet h

end Quiet

variable {history : History} {toolchain : Toolchain} {source : Bytes} {workspace : Workspace}

/-- A fresh history has stored nothing that it would have to tell. -/
theorem IsFresh.tellsStored (hfresh : history.IsFresh) : history.TellsStored :=
  fun key artifact hmem => absurd ⟨key, artifact, none, hmem⟩ hfresh.stored

/-- A fresh history may end without an artifact in every error. -/
theorem IsFresh.fails (hfresh : history.IsFresh) (error : Error) :
    history.IsSupplied toolchain source workspace (some error) :=
  ⟨nofun, hfresh.executed, hfresh.tellsStored⟩

/-- A fresh history that has come to an artifact is supplied. -/
theorem IsFresh.supplied (hfresh : history.IsFresh)
    (hartifact : history.HasArtifact toolchain source workspace) :
    history.IsSupplied toolchain source workspace none :=
  ⟨fun _ => hartifact, hfresh.executed, hfresh.tellsStored⟩

/-- A build that ends without output of its program has nothing to tell of it. -/
theorem isTold_of_not_prints (hnot : ∀ printed, ¬ history.Prints printed)
    (hstored : history.TellsStored) : history.IsTold .nothing where
  executed := fun _ _ hprints => absurd hprints (hnot _)
  printed := fun printed hprints => absurd hprints (hnot printed)
  nothing := fun _ => rfl
  stored := hstored

/-- Nothing is the output as long as nothing was executed. -/
theorem isTold_of_not_executed (hexecuted : ¬ history.HasExecuted) (hstored : history.TellsStored) :
    history.IsTold .nothing :=
  isTold_of_not_prints (fun _ ⟨workspace, hmem⟩ => hexecuted ⟨workspace, _, hmem⟩) hstored

/-- A build whose program ran to its end tells its output. -/
theorem isTold_of_prints {output : Printed} (honly : ∀ printed, history.Prints printed ↔
    printed = output) (hentered : output.exitCode = 0 → history.HasEntered .executed)
    (hstored : history.TellsStored) : history.IsTold output where
  executed := fun stdout stderr hprints => hentered (by rw [← (honly _).1 hprints])
  printed := fun printed hprints => ((honly printed).1 hprints).symm
  nothing := fun hnot => absurd ((honly output).2 rfl) (hnot output)
  stored := hstored

/-- The first execution prints what the program has ended with. -/
theorem prints_executed (hexecuted : ¬ history.HasExecuted) (ended : Ended) (printed : Printed) :
    (history ++ [Moment.executed workspace ended]).Prints printed ↔
      ended = .completed printed.exitCode printed.stdout printed.stderr := by
  constructor
  · rintro ⟨other, hmem⟩
    rcases List.mem_append.1 hmem with hmem | hmem
    · exact absurd ⟨other, _, hmem⟩ hexecuted
    · cases List.mem_singleton.1 hmem
      rfl
  · rintro rfl
    exact ⟨workspace, List.mem_concat_self⟩

end History

section Phases

variable {hasCache : Bool} {toolchain : Toolchain} {source : Bytes} {workspace : Workspace}
  {past : History}

/-- Executing is due once there is an artifact, and what it prints is the output. -/
theorem executing_obeys (hcreated : past.HasCreated workspace) (hentered : past.HasEntered .compiled)
    (hsupplied : past.IsSupplied toolchain source workspace none) :
    (executing workspace).Obeys (Due hasCache toolchain source)
      (fun history ending => history.IsTold ending.printed) past := by
  unfold executing
  rw [Plan.obeys_asking_bind]
  intro ended
  refine ⟨⟨hcreated, hentered, hsupplied.artifact rfl, hsupplied.executed⟩, ?_⟩
  have hstored : (past ++ [Moment.executed workspace ended]).TellsStored :=
    hsupplied.stored.concat nofun
  have hprints := @History.prints_executed past workspace hsupplied.executed ended
  cases ended with
  | notStarted cause =>
    exact History.isTold_of_not_prints (fun printed h => nomatch (hprints printed).1 h) hstored
  | interrupted why cause =>
    exact History.isTold_of_not_prints (fun printed h => nomatch (hprints printed).1 h) hstored
  | completed exitCode stdout stderr =>
    have honly (printed : Printed) :
        (past ++ [Moment.executed workspace (.completed exitCode stdout stderr)]).Prints printed ↔
          printed = ⟨stdout, stderr, exitCode⟩ := by
      rw [hprints]
      constructor
      · rintro ⟨⟩
        rfl
      · rintro rfl
        rfl
    dsimp only
    split
    · next h0 =>
      obtain rfl : exitCode = 0 := eq_of_beq h0
      refine ⟨trivial, ⟨stdout, stderr, (History.prints_quiet rfl).2 ((honly _).2 rfl)⟩, trivial,
        History.isTold_of_prints (fun printed => ?_)
        (fun _ => History.hasEntered_concat.append) (((hstored.quiet rfl).quiet rfl).quiet rfl)⟩
      rw [History.prints_quiet rfl, History.prints_quiet rfl, History.prints_quiet rfl]
      exact honly printed
    · next h0 =>
      exact History.isTold_of_prints honly (fun h => absurd (beq_iff_eq.2 h) h0) hstored

/-- Storing an artifact that was made is due, and leaves it supplied whether or not it succeeds. -/
theorem keeping_obeys {key artifact : Bytes}
    (hkey : hasCache = true → key = CacheKey.compute toolchain source)
    (hcreated : past.HasCreated workspace) (hmade : past.Makes toolchain workspace artifact)
    (hfresh : past.IsFresh) :
    (keeping hasCache key artifact).Obeys (Due hasCache toolchain source)
      (fun history _ => history.IsSupplied toolchain source workspace none) past := by
  have hartifact : past.HasArtifact toolchain source workspace := .inl ⟨artifact, hmade⟩
  unfold keeping
  split
  · next hcache =>
    rw [Plan.obeys_asking_bind]
    intro failure
    have hexecuted : ¬ (past ++ [Moment.stored key artifact failure]).HasExecuted :=
      History.not_hasExecuted_concat hfresh.executed nofun
    have htells (error : Error) :
        (past ++ [Moment.stored key artifact (some error)]).TellsStored :=
      hfresh.tellsStored.concat nofun
    refine ⟨⟨hcache, hkey hcache, ⟨workspace, hcreated, hmade⟩, hfresh.stored⟩, ?_⟩
    cases failure with
    | none =>
      refine ⟨⟨key, artifact, List.mem_concat_self⟩, ?_⟩
      exact ⟨fun _ => hartifact.append.append, History.not_hasExecuted_concat hexecuted nofun,
        fun _ _ _ => List.mem_concat_self⟩
    | some error =>
      refine ⟨trivial, ?_⟩
      exact ⟨fun _ => hartifact.append.append, History.not_hasExecuted_concat hexecuted nofun,
        (htells error).quiet rfl⟩
  · exact hfresh.supplied hartifact

/-- A toolchain without an error has come back with code 0. -/
theorem compiles_of_compileError? {ended : Ended} (h : compileError? toolchain ended = none) :
    ∃ stdout stderr, ended = .completed 0 stdout stderr := by
  cases ended with
  | notStarted cause => cases h
  | interrupted why cause => cases h
  | completed exitCode stdout stderr =>
    rw [compileError?] at h
    split at h
    · next h0 => exact ⟨stdout, stderr, by rw [eq_of_beq h0]⟩
    · cases h

/-- Compiling is due in a workspace with the source, and supplies an artifact unless it fails. -/
theorem compiling_obeys {key : Bytes}
    (hkey : hasCache = true → key = CacheKey.compute toolchain source)
    (hcreated : past.HasCreated workspace) (hentered : past.HasEntered .written)
    (hidle : past.IsIdle) :
    (compiling hasCache toolchain key workspace).Obeys (Due hasCache toolchain source)
      (fun history failure => history.IsSupplied toolchain source workspace failure) past := by
  unfold compiling
  rw [Plan.obeys_noting_bind]
  refine ⟨trivial, ?_⟩
  rw [Plan.obeys_asking_bind]
  intro ended
  have hidle : History.IsIdle (past ++ [.noted (.compiling toolchain.command
      (toolchain.arguments Workspace.sourceName Workspace.artifactName))]) := hidle.quiet rfl
  refine ⟨⟨rfl, hcreated.append, hentered.append, hidle.compiled, hidle.hit⟩, ?_⟩
  have hfresh : History.IsFresh (_ ++ [Moment.compiled toolchain workspace ended]) :=
    ⟨History.not_hasStored_concat hidle.stored nofun,
      History.not_hasExecuted_concat hidle.executed nofun⟩
  cases hfailure : compileError? toolchain ended with
  | some error => exact hfresh.fails error
  | none =>
    obtain ⟨stdout, stderr, rfl⟩ := compiles_of_compileError? hfailure
    dsimp only
    rw [Plan.obeys_asking_bind]
    intro found
    refine ⟨History.compiles_concat, ?_⟩
    cases found with
    | error cause => exact (hfresh.quiet rfl).fails _
    | ok artifact =>
      exact .bind (keeping_obeys hkey hcreated.append.append.append
        ⟨History.compiles_concat.append, List.mem_concat_self⟩ (hfresh.quiet rfl))

/-- Obtaining an artifact, from the cache or by compiling, obeys, and supplies one unless it fails. -/
theorem obtaining_obeys (hcreated : past.HasCreated workspace)
    (hentered : past.HasEntered .written) (hidle : past.IsIdle) :
    (obtaining hasCache toolchain source workspace).Obeys (Due hasCache toolchain source)
      (fun history failure => history.IsSupplied toolchain source workspace failure) past := by
  cases hasCache with
  | false => exact compiling_obeys nofun hcreated hentered hidle
  | true =>
    rw [obtaining, if_pos rfl, Plan.obeys_asking_bind]
    intro found
    refine ⟨⟨rfl, rfl⟩, ?_⟩
    rcases found with error | _ | artifact
    · exact ⟨trivial, trivial, compiling_obeys (fun _ => rfl) hcreated.append.append.append
        hentered.append.append.append (((hidle.quiet rfl).quiet rfl).quiet rfl)⟩
    · exact ⟨trivial, compiling_obeys (fun _ => rfl) hcreated.append.append
        hentered.append.append ((hidle.quiet rfl).quiet rfl)⟩
    · dsimp only
      rw [Plan.obeys_asking_bind]
      intro failure
      refine ⟨⟨hcreated.append, List.mem_concat_self⟩, ?_⟩
      have hidle : History.IsIdle (past ++ [.lookedUp (CacheKey.compute toolchain source)
          (.ok (some artifact))] ++ [.restored workspace artifact failure]) :=
        (hidle.quiet rfl).quiet rfl
      cases failure with
      | some cause => exact hidle.fails _
      | none =>
        refine ⟨hidle.compiled, History.IsFresh.supplied ?_ (.inr ⟨artifact, ?_, ?_⟩)⟩
        · exact ⟨History.not_hasStored_concat hidle.stored nofun,
            History.not_hasExecuted_concat hidle.executed nofun⟩
        · exact List.mem_append_left _ (List.mem_append_left _ List.mem_concat_self)
        · exact List.mem_append_left _ List.mem_concat_self

/-- Building from a written source obeys, and tells its output. -/
theorem buildingWritten_obeys (hcreated : past.HasCreated workspace)
    (hentered : past.HasEntered .written) (hidle : past.IsIdle) :
    (buildingWritten hasCache toolchain source workspace).Obeys (Due hasCache toolchain source)
      (fun history ending => history.IsTold ending.printed) past := by
  refine .bind (Plan.Obeys.imp (fun history failure ⟨hpast, hsupplied⟩ => ?_)
    (obtaining_obeys hcreated hentered hidle).extends_past)
  replace hcreated := hcreated.of_prefix hpast
  cases failure with
  | some error => exact History.isTold_of_not_executed hsupplied.executed hsupplied.stored
  | none =>
    refine ⟨trivial, ⟨workspace, hcreated.append, (hsupplied.artifact rfl).append⟩, ?_⟩
    exact executing_obeys hcreated.append.append History.hasEntered_concat
      ((hsupplied.quiet rfl).quiet rfl)

/-- Building in a workspace obeys, and tells its output. -/
theorem buildingIn_obeys (hcreated : past.HasCreated workspace) (hidle : past.IsIdle) :
    (buildingIn hasCache toolchain source workspace).Obeys (Due hasCache toolchain source)
      (fun history ending => history.IsTold ending.printed) past := by
  unfold buildingIn
  rw [Plan.obeys_asking_bind]
  intro failure
  refine ⟨hcreated, ?_⟩
  cases failure with
  | some cause =>
    have hfresh : History.IsFresh (past ++ [.wrote workspace source (some cause)]) :=
      hidle.toIsFresh.quiet rfl
    exact History.isTold_of_not_executed hfresh.executed hfresh.tellsStored
  | none =>
    exact ⟨trivial, trivial, buildingWritten_obeys hcreated.append.append.append
      History.hasEntered_concat (((hidle.quiet rfl).quiet rfl).quiet rfl)⟩

/-- Cleaning up obeys, and leaves the output as it was. -/
theorem cleaningUp_obeys (keeps : Bool) {ending : Ending} (hcreated : past.HasCreated workspace)
    (htold : past.IsTold ending.printed) :
    (cleaningUp keeps workspace ending).Obeys (Due hasCache toolchain source)
      (fun history ending => history.IsTold ending.printed) past := by
  unfold cleaningUp
  split
  · exact htold
  · rw [Plan.obeys_asking_bind]
    intro failure
    refine ⟨hcreated, ?_⟩
    cases failure with
    | none => exact htold.quiet rfl
    | some error => exact ⟨trivial, (htold.quiet rfl).quiet rfl⟩

/-- All the work of a build obeys, and ends with the workspace that was created, if one was. -/
theorem buildingAll_obeys (keeps : Bool) (jobId : Bytes)
    (hnone : ∀ jobId answer, .created jobId answer ∉ past) (hidle : past.IsIdle) :
    (buildingAll hasCache toolchain keeps jobId source).Obeys (Due hasCache toolchain source)
      (fun history result => history.IsTold result.2.printed ∧
        ∃ answer, .created jobId answer ∈ history ∧ result.1 = answer.toOption) past := by
  unfold buildingAll
  rw [Plan.obeys_asking_bind]
  intro made
  refine ⟨hnone, ?_⟩
  cases made with
  | error cause =>
    have hfresh : History.IsFresh (past ++ [.created jobId (.error cause)]) :=
      hidle.toIsFresh.quiet rfl
    exact ⟨History.isTold_of_not_executed hfresh.executed hfresh.tellsStored, _,
      List.mem_concat_self, rfl⟩
  | ok workspace =>
    have hcreated : History.HasCreated (past ++ [.created jobId (.ok workspace)]) workspace :=
      ⟨jobId, List.mem_concat_self⟩
    refine .bind (Plan.Obeys.imp (fun history ending ⟨hpast, htold⟩ => ?_)
      (buildingIn_obeys hcreated (hidle.quiet rfl)).extends_past)
    refine .bind (Plan.Obeys.imp (fun later ending ⟨hhistory, htold⟩ => ?_)
      (cleaningUp_obeys keeps (hcreated.of_prefix hpast) htold).extends_past)
    exact ⟨htold, _, hhistory.subset (hpast.subset List.mem_concat_self), rfl⟩

/-- Concluding obeys, and leaves the output as it was. -/
theorem concluding_obeys {ending : Ending} (htold : past.IsTold ending.printed) :
    (concluding ending).Obeys (Due hasCache toolchain source)
      (fun history ending => history.IsTold ending.printed) past := by
  unfold concluding
  split
  · exact htold
  · exact ⟨trivial, trivial, (htold.quiet rfl).quiet rfl⟩

/-- **The duties of a build.** Every moment of it is due when it comes, and in the end it has told
what has happened and in which workspace. -/
theorem building_obeys (hasCache : Bool) (toolchain : Toolchain) (keeps : Bool)
    (jobId source : Bytes) :
    (building hasCache toolchain keeps jobId source).Obeys (Due hasCache toolchain source)
      (fun history result => history.IsTold result.2.printed ∧
        ∃ answer, .created jobId answer ∈ history ∧ result.1 = answer.toOption) [] := by
  have hidle : History.IsIdle [] := by
    constructor
    · constructor <;> simp [History.HasStored, History.HasExecuted]
    · simp [History.HasCompiled]
    · simp [History.HasHit]
  unfold building
  rw [Plan.obeys_noting_bind]
  refine ⟨trivial, .bind (Plan.Obeys.imp (fun history result ⟨htold, answer, hmem, heq⟩ => ?_)
    (buildingAll_obeys keeps jobId (by simp) (hidle.quiet rfl)))⟩
  refine .bind (Plan.Obeys.imp (fun later ending ⟨hhistory, htold⟩ => ?_)
    (concluding_obeys htold).extends_past)
  exact ⟨htold, answer, hhistory.subset hmem, heq⟩

end Phases

end Build

end FunctionChain
