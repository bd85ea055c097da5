import FunctionChain.Proofs.Build.Leftovers
import FunctionChain.Proofs.Job.Endings
import FunctionChain.Proofs.Job.Sequential

/-!
# What jobs leave behind

A job that is not admitted, or whose document gives no program, leaves the machine of its service as
it was. The others leave what their builds leave: nothing but the way to the workspaces and the
cache, unless workspaces are kept. At last every job is handed to the archive (`compile_leaves`).
What is asked of a build there is so on every machine (`Build.Machine.host_isTidy`).
-/

namespace FunctionChain

namespace Job

open Build (DatabaseLibrary Machine Settings Host rootNames Leaves)
open Files (Tree Location)

/-! ## Runners that build -/

/-- A runner that builds every program with the machine of its service, and comes back with what the
build has come to. -/
def BuildsOn [DatabaseLibrary] (host : Request → Machine → Host Machine) (settings : Settings)
    (runner : Runner Machine) : Prop :=
  ∀ nested request source state,
    (runner nested request source state).1 = returnOf (Build.run (host request state.inner)
      settings.toolchain settings.keepsWorkspace request.jobId source state.inner).1 ∧
    (runner nested request source state).2.inner = (Build.run (host request state.inner)
      settings.toolchain settings.keepsWorkspace request.jobId source state.inner).2

/-- The runner that builds on a machine is one. -/
theorem machineRunner_buildsOn [DatabaseLibrary] (settings : Settings) (temporary : Bytes)
    (environment : List Bytes) (counts : Bool) :
    BuildsOn (fun request machine => Machine.host settings temporary environment
      machine.cache.isSome (request.patience == .cancelled)) settings
      (machineRunner settings temporary environment counts) := by
  intro nested request source state
  change _ = returnOf (state.inner.build settings temporary environment
      (request.patience == .cancelled) request.jobId source).1 ∧
    _ = (state.inner.build settings temporary environment
      (request.patience == .cancelled) request.jobId source).2
  rw [machineRunner]
  dsimp only [HasMachine.machine, id]
  generalize state.inner.build settings temporary environment
    (request.patience == .cancelled) request.jobId source = built
  obtain ⟨outcome, machine⟩ := built
  dsimp only [HasMachine.withMachine]
  obtain ⟨told, htold⟩ := foldl_tell request.jobId outcome.journal.entries
    { state with inner := machine }
  rw [htold]
  cases counts <;> exact ⟨rfl, rfl⟩

/-! ## From the request to the archive -/

section Compile

variable [DatabaseLibrary] (service : Service Machine)

/-- What is left of a machine by the archive of a service. -/
theorem conclude_inner (result : Result) (state : State Machine) :
    (conclude service result state).2.inner
      = service.archive.elim state.inner fun keep => (keep result state.inner).2 := by
  unfold conclude
  dsimp only
  cases service.archive with
  | none => rfl
  | some keep =>
    dsimp only [Option.elim_some, State.count, State.tell]
    rcases keep result state.inner with ⟨_ | error, inner⟩ <;> rfl

omit [DatabaseLibrary] in
/-- A job whose driver has returned has the trace of its build. -/
theorem afterRun_returnOf_trace (draft : Draft) (outcome : Build.Outcome) :
    (draft.afterRun (returnOf outcome)).trace = some outcome.trace := by
  unfold returnOf Draft.afterRun
  cases outcome.error with
  | none => rfl
  | some error =>
    dsimp only [Draft.failWith]
    cases Failure.classify error <;> rfl

/-- A job that gets a slot is worked on and concluded. -/
theorem compile_of_admitted {free : Nat} {request : Request} (h : request.patience.refusal? = none)
    (state : State Machine) :
    compile service (free + 1) request state
      = conclude service (work service (compile service free) request
          { state with metrics := state.metrics.add activeSample 1 }).1
        { (work service (compile service free) request
            { state with metrics := state.metrics.add activeSample 1 }).2 with
          metrics := (work service (compile service free) request
            { state with metrics := state.metrics.add activeSample 1 }).2.metrics.add
              activeSample (-1) } := by
  rw [compile, h]

/-- What a job is concluded with: its machine is as it was, or as the build of its program has left
it. -/
theorem compile_eq_conclude {host : Request → Machine → Host Machine} {settings : Settings}
    (hrunner : BuildsOn host settings service.runner) (free : Nat) (request : Request)
    (state : State Machine) :
    ∃ result later, compile service free request state = conclude service result later ∧
      (isAdmitted free request = false → later.inner = state.inner) ∧
      (∀ error, Program.generate service.policy request.document = .error error →
        later.inner = state.inner) ∧
      ∀ source environment, isAdmitted free request = true →
        Program.generate service.policy request.document = .ok (source, environment) →
        result.trace = some (Build.run (host request state.inner) settings.toolchain
          settings.keepsWorkspace request.jobId source state.inner).1.trace ∧
        later.inner = (Build.run (host request state.inner) settings.toolchain
          settings.keepsWorkspace request.jobId source state.inner).2 := by
  cases free with
  | zero => exact ⟨_, state, rfl, fun _ => rfl, fun _ _ => rfl, nofun⟩
  | succ free =>
    cases hrefusal : request.patience.refusal? with
    | some cause =>
      refine ⟨_, state, by rw [compile, hrefusal], fun _ => rfl, fun _ _ => rfl, ?_⟩
      simp [isAdmitted, hrefusal]
    | none =>
      have hadmitted : isAdmitted (free + 1) request = true := by simp [isAdmitted, hrefusal]
      refine ⟨_, _, compile_of_admitted service hrefusal state, fun hnot => ?_,
        fun error hgenerate => ?_, fun source environment _ hgenerate => ?_⟩
      · cases hadmitted.symm.trans hnot
      · simp only [work, hgenerate]
      · simp only [work, hgenerate]
        rw [(hrunner ..).1, (hrunner ..).2, afterRun_returnOf_trace]
        exact ⟨rfl, rfl⟩

/-- The trace of a job that is admitted and has a program tells what its build has recorded. -/
theorem compile_trace {host : Request → Machine → Host Machine} {settings : Settings}
    (hrunner : BuildsOn host settings service.runner) {free : Nat} {request : Request}
    {state : State Machine} {source : Bytes} {environment : Environment}
    (hadmitted : isAdmitted free request = true)
    (hgenerate : Program.generate service.policy request.document = .ok (source, environment)) :
    (compile service free request state).1.trace = some ⟨Trace.sourceHash source,
      Trace.numbered 0 (Build.run (host request state.inner) settings.toolchain
        settings.keepsWorkspace request.jobId source state.inner).1.journal.recorded⟩ := by
  obtain ⟨result, later, hcompile, -, -, hbuilt⟩ :=
    compile_eq_conclude service hrunner free request state
  rw [hcompile, conclude_fst, (hbuilt source environment hadmitted hgenerate).1]
  rw [Build.run_eq_workOf]
  exact congrArg some (Build.conclude_trace ..)

end Compile

/-- **What jobs leave.** A job that is not admitted, or whose document gives no program, leaves its
machine as it was. The others leave what their builds leave, which is told of the build whose trace the
job has: at most the way to the workspaces and what is of the cache, and the workspace if workspaces
are kept. At last every job is handed to the archive, if the service has one. -/
theorem compile_leaves [DatabaseLibrary] {service : Service Machine}
    {host : Request → Machine → Host Machine}
    {settings : Settings} {temporary : Bytes} {isFit : Machine → Prop} {isCache : Location → Prop}
    (hrunner : BuildsOn host settings service.runner) (free : Nat) (request : Request)
    (state : State Machine) (hproper : state.inner.tree.IsProper)
    (hhost : (host request state.inner).IsTidy settings temporary isFit isCache request.jobId
      state.inner) :
    ∃ built : Machine,
      (compile service free request state).2.inner = service.archive.elim built
        (fun keep => (keep (compile service free request state).1 built).2) ∧
      (isAdmitted free request = false → built = state.inner) ∧
      (∀ error, Program.generate service.policy request.document = .error error →
        built = state.inner) ∧
      ∀ source environment, isAdmitted free request = true →
        Program.generate service.policy request.document = .ok (source, environment) →
        ∃ outcome, Build.run (host request state.inner) settings.toolchain
            settings.keepsWorkspace request.jobId source state.inner = (outcome, built) ∧
          (compile service free request state).1.trace = some outcome.trace ∧
          Leaves (host request state.inner) settings.toolchain isFit isCache
            settings.keepsWorkspace (rootNames temporary settings.workspaceRoot state.inner.tree)
            source state.inner.tree outcome built.tree := by
  obtain ⟨result, later, hcompile, hrefused, hunread, hbuilt⟩ :=
    compile_eq_conclude service hrunner free request state
  refine ⟨later.inner, ?_, hrefused, hunread, fun source environment hadmitted hgenerate => ?_⟩
  · rw [hcompile, conclude_inner, conclude_fst]
  · obtain ⟨htrace, hlater⟩ := hbuilt source environment hadmitted hgenerate
    refine ⟨_, Prod.ext rfl hlater.symm, ?_, ?_⟩
    · rw [hcompile, conclude_fst, htrace]
    · rw [hlater]
      exact Build.run_leaves hhost hproper settings.keepsWorkspace source

namespace Sample

local instance : DatabaseLibrary := Build.Database.library

/-- A request with a program of one call. -/
def tidyRequest : Request where
  jobId := bytes "j"
  document := bytes "\x7b\"functions\":[\x7b\"name\":\"x\",\"function\":\"f\"\x7d]\x7d"
  patience := .patient

/-- Workspaces below a root directory, in which a compiler of the root directory is run. -/
def settingsBelow (root : Bytes) (keepsWorkspace : Bool) : Settings where
  toolchain := { Build.Toolchain.standard with command := bytes "/cc" }
  workspaceRoot := root
  keepsWorkspace
  compileTimeout := Build.defaultCompileTimeout
  runTimeout := Build.defaultRunTimeout
  runEnvironment := []

/-- The program of the request. -/
def tidySource : Bytes :=
  ((Program.generate .strict tidyRequest.document).toOption.map (·.1)).getD []

/-- The document of the request has a program. -/
theorem generate_tidySource : ∃ environment,
    Program.generate .strict tidyRequest.document = .ok (tidySource, environment) := by
  have hok : (Program.generate .strict tidyRequest.document).toBool = true := by decide +kernel
  unfold tidySource
  cases hgenerate : Program.generate .strict tidyRequest.document with
  | error error =>
    rw [hgenerate] at hok
    cases hok
  | ok generated => exact ⟨generated.2, rfl⟩

/-! ### A workspace that is kept -/

/-- The machine with an artifact in a workspace. -/
def withArtifact (machine : Machine) (place : Location) : Machine where
  tree := machine.tree.put (place ++ [Build.Workspace.artifactName])
    (.file 0o755 (bytes "a program"))
  cache := machine.cache

/-- A compiler that puts an artifact where there is none. -/
def bringing (_ : Build.Toolchain) (workspace : Build.Workspace) (machine : Machine) :
    Build.Ended × Machine :=
  (.completed 0 [] [], (machine.tree.locateName workspace.path).toOption.elim machine fun place =>
    if (machine.tree.get? place).any Files.Node.isDirectory
      && !machine.tree.isTaken (place ++ [Build.Workspace.artifactName])
    then withArtifact machine place else machine)

/-- The host of builds with this compiler and programs that print a number. -/
def bringingHost : Host Machine :=
  Machine.hostWith (settingsBelow (bytes "/w") true) (bytes "/tmp") [] true false bringing
    fun _ machine => (.completed 0 (bytes "7\n") [], machine)

def bringingBuilder : Service Machine where
  policy := .strict
  runner := fun _ request source state =>
    let built := Build.run bringingHost (settingsBelow (bytes "/w") true).toolchain true
      request.jobId source state.inner
    (returnOf built.1, { state with inner := built.2 })
  archive := none

/-- An empty machine with a cache in memory. -/
def emptyMachine : Machine := ⟨.empty, some (.memory [])⟩

/-- The compiler puts its artifact into the workspace, or does nothing. -/
theorem bringing_cases {toolchain : Build.Toolchain} {workspace : Build.Workspace}
    {machine : Machine} {place : Location}
    (h : machine.tree.locateName workspace.path = .ok place) :
    (bringing toolchain workspace machine).2 = machine ∨
    machine.tree.HasDirectory place ∧
      machine.tree.isTaken (place ++ [Build.Workspace.artifactName]) = false ∧
      (bringing toolchain workspace machine).2 = withArtifact machine place := by
  unfold bringing
  rw [h]
  dsimp only [Except.toOption, Option.elim_some]
  split
  · next hfit =>
    obtain ⟨hnode, hfree⟩ := Bool.and_eq_true_iff.1 hfit
    obtain ⟨node, hget, hnode⟩ := (Option.any_eq_true ..).1 hnode
    refine .inr ⟨?_, by simpa using hfree, rfl⟩
    cases node with
    | directory mode => exact ⟨mode, hget⟩
    | file => cases hnode
  · exact .inl rfl

section Bringing

open Build (Workspace)

variable {isFit : Machine → Prop} {isCache : Location → Prop} {workspace : Workspace}
  {names : List Bytes} {base : Tree} {place : Location} {machine : Machine}

/-- It keeps to the workspace. -/
theorem bringing_keepsTo {host : Host Machine} {before : Machine} (toolchain : Build.Toolchain)
    (hplace : Build.IsPlaceFor names workspace base place)
    (hwithin : Build.IsWithin (Machine.IsHoused host before) isCache base place machine) :
    Machine.KeepsTo place machine (bringing toolchain workspace machine).2 := by
  rcases bringing_cases (hwithin.locateName hplace) with hsame | ⟨hdir, hfree, hnew⟩
  · rw [hsame]
    exact ⟨hwithin.fit.proper, rfl, .refl _⟩
  · rw [hnew]
    refine ⟨hwithin.fit.proper.put hfree (hdir.stands _) _, rfl, ?_⟩
    exact (Files.isWritten_put machine.tree (by simp) _).changesOnly.mono fun _ heq =>
      heq ▸ List.prefix_append place [Workspace.artifactName]

/-- It leaves the source as it is. -/
theorem bringing_respects (hplace : Build.IsPlaceFor names workspace base place) :
    bringingHost.Respects (settingsBelow (bytes "/w") true).toolchain isFit isCache workspace base
      place [Workspace.sourceName] := by
  intro machine hwithin
  refine ⟨?_, rfl⟩
  change (bringing (settingsBelow (bytes "/w") true).toolchain workspace machine).2.tree.get? _ = _
  rcases bringing_cases (hwithin.locateName hplace) with hsame | ⟨-, -, hnew⟩
  · rw [hsame]
  · have hne : place ++ [Workspace.sourceName] ≠ place ++ [Workspace.artifactName] := fun heq =>
      absurd (List.append_cancel_left heq) (by decide)
    rw [hnew, withArtifact, Files.Tree.get?_put _ _ (by simp), if_neg hne]

end Bringing

/-- The source is in the workspace that is kept. -/
theorem compile_leaves_source :
    ∃ place environment,
      Program.generate .strict tidyRequest.document = .ok (tidySource, environment) ∧
      emptyMachine.tree.isTaken place = false ∧
      (compile bringingBuilder 1 tidyRequest (.start emptyMachine)).2.inner.tree.get?
        (place ++ [Build.Workspace.sourceName]) = some (.file 0o644 tidySource) := by
  obtain ⟨environment, hgenerate⟩ := generate_tidySource
  have hrunner : BuildsOn (fun _ _ => bringingHost) (settingsBelow (bytes "/w") true)
      bringingBuilder.runner := fun _ _ _ _ => ⟨rfl, rfl⟩
  have htidy : bringingHost.IsTidy (settingsBelow (bytes "/w") true) (bytes "/tmp")
      (Machine.IsHoused bringingHost emptyMachine) (fun _ => False) tidyRequest.jobId
      emptyMachine :=
    @Machine.hostWith_isTidy _ _ _ _ _ _ emptyMachine _ _ Build.Database.library_keepsToFile
      (by decide) nofun
      (fun _ _ _ _ _ _ _ => id)
      (fun _ _ _ _ _ hplace hwithin =>
        ⟨bringing_keepsTo _ hplace hwithin, hwithin.fit.proper, rfl, .refl _⟩) _
  obtain ⟨built, hbuilt, -, -, hleft⟩ :=
    compile_leaves hrunner 1 tidyRequest (.start emptyMachine) (by decide) htidy
  obtain ⟨outcome, hrun, htrace, hleaves⟩ := hleft tidySource environment rfl hgenerate
  have hentered : outcome.trace.HasEntered .written := by
    have htold := @compile_trace _ bringingBuilder _ _ hrunner 1 tidyRequest (.start emptyMachine)
      tidySource environment rfl hgenerate
    rw [Option.some.inj (htrace.symm.trans htold)]
    unfold Trace.HasEntered
    decide +kernel
  cases hleaves with
  | uncreated hnone =>
    have hsome : (Build.run bringingHost (settingsBelow (bytes "/w") true).toolchain true
        tidyRequest.jobId tidySource emptyMachine).1.workspace.isSome = true := by decide +kernel
    have hsame : (Build.run bringingHost (settingsBelow (bytes "/w") true).toolchain true
        tidyRequest.jobId tidySource emptyMachine).1 = outcome := congrArg Prod.fst hrun
    rw [hsame, hnone] at hsome
    cases hsome
  | removed _ _ _ _ _ _ _ hkeeps => cases hkeeps
  | kept workspace base place _ _ hplace hfree _ _ hholds =>
    refine ⟨place, environment, hgenerate, hfree, ?_⟩
    rw [hbuilt]
    exact hholds.source (bringing_respects hplace) hentered

/-! ### What else is left -/

/-- A service that builds on its machine. -/
def builderBelow (root : Bytes) (keepsWorkspace : Bool) : Service Machine where
  policy := .strict
  runner := machineRunner (settingsBelow root keepsWorkspace) (bytes "/tmp") [] false
  archive := none

/-- A machine with a compiler that writes into the source file, and nothing else. -/
def overwriting : Machine where
  tree :=
    { here := []
      nodes := [([bytes "bin"], .directory 0o755),
        ([bytes "bin", bytes "sh"], .file 0o755 (Script.machineCode (bytes "sh"))),
        ([bytes "cc"], .file 0o755 (bytes "#!/bin/sh\necho changed > program.cpp\n"))]
      links := []
      fresh := 0 }
  cache := none

/-- A name that is too long for a directory. -/
def longName : Bytes := List.replicate 300 (byte 'x')

/-- What becomes of an empty tree when workspaces cannot be made for such a name. -/
def afterUnmade : Tree :=
  (compile (builderBelow (bytes "/a/" ++ longName) false) 1 tidyRequest
    (.start ⟨.empty, none⟩)).2.inner.tree

/-- A job whose workspace is kept. -/
def kept : Result × State Machine :=
  compile (builderBelow (bytes "/w") true) 1 tidyRequest (.start overwriting)

/-- What leads to the directory for workspaces is left, even when that cannot be made; and a compiler
may change the source in a workspace that is kept. -/
theorem compile_leaves_more :
    ¬ Files.ChangesOnly (· = [bytes "a", longName]) .empty afterUnmade ∧
    ∃ environment trace,
      Program.generate .strict tidyRequest.document = .ok (tidySource, environment) ∧
      kept.1.trace = some trace ∧ trace.HasEntered .written ∧
      kept.2.inner.tree.nodes.filter (fun entry => !([bytes "w"] : Location).isPrefixOf entry.1)
        = overwriting.tree.nodes ∧
      ∀ mode, kept.2.inner.tree.get? [bytes "w", bytes "job-j-0", bytes "program.cpp"]
        ≠ some (.file mode tidySource) := by
  refine ⟨fun h => ?_, ?_⟩
  · have hsame := h.nodes [bytes "a"] (by decide +kernel)
    have hmade : afterUnmade.get? [bytes "a"] ≠ Tree.empty.get? [bytes "a"] := by decide +kernel
    exact hmade hsame
  · obtain ⟨environment, hgenerate⟩ := generate_tidySource
    have hrunner := machineRunner_buildsOn (settingsBelow (bytes "/w") true) (bytes "/tmp") [] false
    have htrace := @compile_trace _ (builderBelow (bytes "/w") true) _ _ hrunner 1 tidyRequest
      (.start overwriting) tidySource environment rfl hgenerate
    refine ⟨environment, _, hgenerate, htrace, ?_, by decide +kernel, fun mode heq => ?_⟩
    · unfold Trace.HasEntered
      decide +kernel
    · have hchanged : kept.2.inner.tree.get? [bytes "w", bytes "job-j-0", bytes "program.cpp"]
          = some (.file 0o644 (bytes "changed\n")) := by decide +kernel
      have hother : tidySource ≠ bytes "changed\n" := by decide +kernel
      rw [hchanged] at heq
      injection heq with heq
      injection heq with _ heq
      exact hother heq.symm

end Sample

end Job

end FunctionChain
