import FunctionChain.Proofs.Build.CacheKey
import FunctionChain.Proofs.Build.Effects
import FunctionChain.Proofs.Build.TraceLanguage

/-!
# Sound caches

Builds that share a cache come to the same as without it, as long as nothing but the compilers and
the compiled programs decides what builds come to (`Request.IsReliable`). A build that finds its
artifact in the cache does not compile, so the argument is about all builds before it: whatever the
cache answers to the key of a request is the artifact that the request's own compiler would leave
(`View.IsSound`, `stateAfter_sound`). Keys that are equal belong to equal requests, since what is
digested for a key tells the request and no two inputs are digested alike.

Files and caches may fail. What is said of a build here is said of one in which they do not
(`Request.Succeeds`), so the argument goes along its plan, as long as nothing fails
(`Plan.Reaches`).
-/

namespace FunctionChain

/-! ## Traces without the cache -/

namespace Trace

/-- The trace without the events of the cache. -/
def withoutCache (trace : Trace) : Trace :=
  ⟨trace.source, numbered 0 (trace.events.filter (!·.isOfCache))⟩

/-- Events without those of the cache are numbered anew, whatever their numbers were. -/
theorem numbered_filter_numbered (first second : Nat) (events : List Event) :
    numbered first ((numbered second events).filter (!·.isOfCache))
      = numbered first (events.filter (!·.isOfCache)) := by
  induction events generalizing first second with
  | nil => rfl
  | cons event rest ih =>
    have hseq : Event.isOfCache { event with seq := second } = event.isOfCache := rfl
    simp only [numbered, List.filter_cons, hseq]
    split
    · simp only [numbered, ih]
    · exact ih first (second + 1)

end Trace

namespace Build

open Plan (noting asking)

/-! ## Outside programs -/

/-- The compilers and the compiled programs, as functions of what they are given. -/
structure Programs where
  /-- What becomes of a compiler. -/
  compile : (command : Bytes) → (arguments : List Bytes) → (libraryVersion source : Bytes) → Ended
  /-- The artifact that a compiler leaves. -/
  link : (command : Bytes) → (arguments : List Bytes) → (libraryVersion source : Bytes) → Bytes
  /-- What becomes of a compiled program. -/
  execute : (artifact : Bytes) → (environment : List (Bytes × Bytes)) → Ended

namespace Programs

variable (programs : Programs) (toolchain : Toolchain) (source : Bytes)

/-- What becomes of the compiler of a toolchain. -/
def compiled : Ended :=
  programs.compile toolchain.command
    (toolchain.arguments Workspace.sourceName Workspace.artifactName)
    toolchain.libraryVersion source

/-- The artifact that a toolchain makes of a source. -/
def artifact : Bytes :=
  programs.link toolchain.command
    (toolchain.arguments Workspace.sourceName Workspace.artifactName)
    toolchain.libraryVersion source

/-- The error of a toolchain that makes no artifact of a source. -/
def failure? : Option Error := compileError? toolchain (programs.compiled toolchain source)

end Programs

/-! ## Requests -/

/-- A build that is asked for: the host that carries it out, and what the host is given. -/
structure Request (σ : Type) where
  host : Host σ
  toolchain : Toolchain
  keeps : Bool
  jobId : Bytes
  source : Bytes
  /-- All variables that the compiled program sees. -/
  environment : List (Bytes × Bytes)

namespace Request

variable {σ : Type}

/-- Do what is asked for. -/
def run (request : Request σ) (state : σ) : Outcome × σ :=
  Build.run request.host request.toolchain request.keeps request.jobId request.source state

/-- The request without a cache. -/
def uncached (request : Request σ) : Request σ :=
  { request with host := { request.host with cache := none } }

/-- The run of a request in stages. -/
theorem run_eq (request : Request σ) (state : σ) :
    request.run state
      = (let (workspace, work) := workOf request.host request.toolchain request.keeps request.jobId
          request.source state
        (conclude request.source workspace work, work.state)) :=
  run_eq_workOf ..

/-- The key of the artifact. -/
def key (request : Request σ) : Bytes := CacheKey.compute request.toolchain request.source

end Request

/-- The state after requests that are done one after another. -/
def stateAfter {σ : Type} (requests : List (Request σ)) (state : σ) : σ :=
  requests.foldl (fun state request => (request.run state).2) state

/-! ## Builds in which nothing fails -/

/-- No file operation and no operation of the cache has failed at the moment. -/
def Moment.Succeeds : Moment → Prop
  | .created _ (.error _) | .wrote _ _ (some _) | .lookedUp _ (.error _) | .restored _ _ (some _)
  | .read _ (.error _) | .stored _ _ (some _) | .removed _ (some _) => False
  | _ => True

/-- Nothing fails when the request is done in the state. -/
def Request.Succeeds {σ : Type} (request : Request σ) (state : σ) : Prop :=
  ∀ moment ∈ historyOf request.host request.toolchain request.keeps request.jobId request.source
    state, moment.Succeeds

/-- Nothing fails when the requests are done one after another. -/
def AllSucceed {σ : Type} : List (Request σ) → σ → Prop
  | [], _ => True
  | request :: rest, state => request.Succeeds state ∧ AllSucceed rest (request.run state).2

/-- All builds succeed if the first ones do and then the others. -/
theorem allSucceed_append {σ : Type} {first second : List (Request σ)} {state : σ} :
    AllSucceed (first ++ second) state ↔
      AllSucceed first state ∧ AllSucceed second (stateAfter first state) := by
  induction first generalizing state with
  | nil => simp [AllSucceed, stateAfter]
  | cons request rest ih =>
    change (request.Succeeds state ∧ AllSucceed (rest ++ second) (request.run state).2) ↔ _
    rw [ih, ← and_assoc]
    rfl

namespace Plan

variable {σ α β : Type} {host : Host σ} {state : σ}

/-- If nothing fails when the plan is carried out on the host, it ends as it should. -/
def Reaches (host : Host σ) (ends : α → σ → Prop) (plan : Plan α) (state : σ) : Prop :=
  let (history, result, after) := plan.carryOut host state
  (∀ moment ∈ history, moment.Succeeds) → ends result after

/-- A result is reached. -/
theorem reaches_pure {ends : α → σ → Prop} {result : α} (h : ends result state) :
    (pure result : Plan α).Reaches host ends state := fun _ => h

/-- Noting something does not change what is reached. -/
theorem reaches_noting_bind {ends : α → σ → Prop} {happening : Happening} {next : Unit → Plan α}
    (h : (next ()).Reaches host ends state) :
    (noting happening >>= next).Reaches host ends state :=
  fun hsucceeds => h fun moment hmem => hsucceeds moment (List.mem_cons_of_mem _ hmem)

/-- What is reached is reached after every answer that is no failure. -/
theorem reaches_asking_bind {ends : α → σ → Prop} {question : Ask}
    {next : question.Answer → Plan α}
    (h : ∀ answer after, host.answer question state = (answer, after) →
      (question.moment answer).Succeeds → (next answer).Reaches host ends after) :
    (asking question >>= next).Reaches host ends state :=
  fun hsucceeds => h _ _ rfl (hsucceeds _ List.mem_cons_self)
    fun moment hmem => hsucceeds moment (List.mem_cons_of_mem _ hmem)

/-- One plan after another, the second from where the first has come to. -/
theorem Reaches.bind {ends : β → σ → Prop} {plan : Plan α} {after : α → Plan β}
    (h : plan.Reaches host (fun result => (after result).Reaches host ends) state) :
    (plan >>= after).Reaches host ends state := by
  unfold Reaches at h ⊢
  rw [carryOut_bind]
  intro hsucceeds
  exact h (fun moment hmem => hsucceeds moment (List.mem_append_left _ hmem))
    fun moment hmem => hsucceeds moment (List.mem_append_right _ hmem)

/-- What is weaker is reached too. -/
theorem Reaches.imp {ends ends' : α → σ → Prop} {plan : Plan α}
    (h : plan.Reaches host ends state)
    (himp : ∀ result after, ends result after → ends' result after) :
    plan.Reaches host ends' state :=
  fun hsucceeds => himp _ _ (h hsucceeds)

end Plan

/-! ## Reliable hosts -/

/-- What builds rely on in the states of their hosts. -/
structure View (σ : Type) where
  /-- A build can go on in this phase. -/
  isReady : Phase → σ → Prop
  /-- The artifact that the cache has under a key. -/
  entry : σ → (key : Bytes) → Option Bytes
  /-- The source that stands in a workspace. -/
  source : σ → Workspace → Option Bytes
  /-- The artifact in a workspace that can be executed. -/
  artifact : σ → Workspace → Option Bytes

/-- The steps of the host do what they should when they succeed, and the outside programs are these
functions. The cache shows its contents under the key of the request, and answers them. What is written
into the workspace is there. The compiler sees the toolchain and the source that was written, and leaves
the artifact if it succeeds; the compiled program sees the artifact and its environment. -/
structure Request.IsReliable {σ : Type} (view : View σ) (programs : Programs)
    (request : Request σ) : Prop where
  shows : request.host.ShowsCache request.toolchain request.key view.isReady view.entry
  /-- When a build is over, whether its workspace is kept or not, the next one can begin. -/
  again : ∀ {phase state}, view.isReady phase state → view.isReady .idle state
  wrote : ∀ {workspace before after}, view.isReady (.fresh workspace) before →
    request.host.writeSource workspace request.source before = (none, after) →
    view.source after workspace = some request.source
  found : ∀ {workspace before found after}, request.host.cache.isSome = true →
    view.isReady (.fresh workspace) before →
    request.host.answer (.lookup request.key) before = (.ok found, after) →
    found = view.entry before request.key ∧
      view.source after workspace = view.source before workspace
  restored : ∀ {workspace artifact before after}, view.isReady (.fresh workspace) before →
    request.host.restoreArtifact workspace artifact before = (none, after) →
    view.artifact after workspace = some artifact
  compiled : ∀ {workspace before ended after}, view.isReady (.fresh workspace) before →
    view.source before workspace = some request.source →
    request.host.compile request.toolchain workspace before = (ended, after) →
    ended = programs.compiled request.toolchain request.source ∧
      ∀ stdout stderr, ended = .completed 0 stdout stderr →
        view.artifact after workspace = some (programs.artifact request.toolchain request.source)
  read : ∀ {workspace artifact before found after}, view.isReady (.used workspace) before →
    view.artifact before workspace = some artifact →
    request.host.readArtifact workspace before = (.ok found, after) →
    found = artifact ∧ view.artifact after workspace = some artifact
  stored : ∀ {workspace artifact before after}, request.host.cache.isSome = true →
    view.isReady (.used workspace) before →
    request.host.answer (.store request.key artifact) before = (none, after) →
    view.artifact after workspace = view.artifact before workspace
  executed : ∀ {phase workspace artifact before}, phase.IsIn workspace → view.isReady phase before →
    view.artifact before workspace = some artifact →
    (request.host.execute workspace before).1 = programs.execute artifact request.environment

section Reliable

variable {σ : Type} {view : View σ} {programs : Programs} {request : Request σ}
  {requests : List (Request σ)} {workspace : Workspace}

/-- What an answer does to the contents of the cache, in words of the answer. -/
theorem Host.ShowsCache.of_answer {host : Host σ} {toolchain : Toolchain} {key : Bytes}
    {isReady : Phase → σ → Prop} {contents : σ → Bytes → Option Bytes}
    (h : host.ShowsCache toolchain key isReady contents) (ask : Ask) {answer : ask.Answer}
    {phase : Phase} {before after : σ} (hready : isReady phase before)
    (hturn : ask.IsTurn host.cache.isSome toolchain key phase)
    (hanswer : host.answer ask before = (answer, after)) :
    isReady (phase.next (ask.moment answer)) after ∧
      contents after = (ask.moment answer).contents (contents before) := by
  have hshown := h phase before ask hready hturn
  rwa [hanswer] at hshown

/-- Without a cache nothing is asked of one. -/
theorem Request.IsReliable.uncached (h : request.IsReliable view programs) :
    request.uncached.IsReliable view programs where
  shows phase state ask hready hturn := by
    have hshown (hturn' : ask.IsTurn request.host.cache.isSome request.toolchain request.key phase) :=
      h.shows phase state ask hready hturn'
    cases ask with
    | lookup key => cases hturn.1
    | store key artifact => cases hturn.1
    | _ => exact hshown hturn
  again := h.again
  wrote := h.wrote
  found := nofun
  restored := h.restored
  compiled := h.compiled
  read := h.read
  stored := nofun
  executed := h.executed

/-! ## Sound caches -/

/-- Whatever the cache answers to one of the requests is what its compiler would leave. -/
def View.IsSound (view : View σ) (programs : Programs) (requests : List (Request σ)) (state : σ) :
    Prop :=
  ∀ request ∈ requests, ∀ artifact, view.entry state request.key = some artifact →
    programs.failure? request.toolchain request.source = none ∧
      artifact = programs.artifact request.toolchain request.source

/-- Requests with the same key have the same toolchain and the same source. -/
def KeysTell (requests : List (Request σ)) : Prop :=
  ∀ a ∈ requests, ∀ b ∈ requests, a.key = b.key → a.toolchain = b.toolchain ∧ a.source = b.source

/-- Soundness depends on the entries of the cache only. -/
theorem View.IsSound.congr {before after : σ} (h : view.IsSound programs requests before)
    (he : view.entry after = view.entry before) : view.IsSound programs requests after := by
  intro request hmem artifact ha
  rw [he] at ha
  exact h request hmem artifact ha

/-- The cache stays sound when the artifact of a request is stored under its key. -/
theorem View.IsSound.store {before after : σ} (h : view.IsSound programs requests before)
    (hkeys : KeysTell requests) (hmem : request ∈ requests)
    (hf : programs.failure? request.toolchain request.source = none)
    (he : view.entry after = Function.update (view.entry before) request.key
      (some (programs.artifact request.toolchain request.source))) :
    view.IsSound programs requests after := by
  intro other hother artifact ha
  rw [he, Function.update_apply] at ha
  split at ha
  · next hk =>
    cases ha
    obtain ⟨ht, hs⟩ := hkeys other hother request hmem hk
    rw [ht, hs]
    exact ⟨hf, rfl⟩
  · exact h other hother artifact ha

/-- A compiler that leaves an artifact has exited with status 0. -/
theorem completed_of_failure?_eq_none {toolchain : Toolchain} {source : Bytes}
    (h : programs.failure? toolchain source = none) :
    ∃ stdout stderr, programs.compiled toolchain source = .completed 0 stdout stderr := by
  unfold Programs.failure? at h
  cases hc : programs.compiled toolchain source with
  | notStarted cause => simp [hc, compileError?] at h
  | interrupted why cause => simp [hc, compileError?] at h
  | completed exitCode stdout stderr =>
    simp only [hc, compileError?] at h
    split at h
    · next h0 =>
      obtain rfl : exitCode = 0 := eq_of_beq h0
      exact ⟨stdout, stderr, rfl⟩
    · cases h

/-! ## Bringing the artifact -/

/-- The state of a request that is past its compilation: the cache is sound, and the artifact is
there unless the compiler failed. -/
structure Supplied (view : View σ) (programs : Programs) (requests : List (Request σ))
    (request : Request σ) (workspace : Workspace) (state : σ) : Prop where
  isReady : ∃ phase : Phase, phase.IsIn workspace ∧ view.isReady phase state
  isSound : view.IsSound programs requests state
  artifact : programs.failure? request.toolchain request.source = none →
    view.artifact state workspace = some (programs.artifact request.toolchain request.source)

section Steps

variable (hr : request.IsReliable view programs) (hkeys : KeysTell requests)
  (hcache : request.host.cache.isSome = true → request ∈ requests) {before : σ}
include hr hkeys hcache

/-- What has just been compiled is kept in the cache. -/
theorem keeping_reaches {key : Bytes}
    (hkey : request.host.cache.isSome = true → key = request.key)
    (hready : view.isReady (.used workspace) before)
    (hsound : view.IsSound programs requests before)
    (hf : programs.failure? request.toolchain request.source = none)
    (hartifact : view.artifact before workspace
      = some (programs.artifact request.toolchain request.source)) :
    (keeping request.host.cache.isSome key
      (programs.artifact request.toolchain request.source)).Reaches request.host
      (fun _ => Supplied view programs requests request workspace) before := by
  unfold keeping
  split
  · next hsome =>
    obtain rfl := hkey hsome
    refine Plan.reaches_asking_bind fun failure after hstore hsucceeds => ?_
    cases failure with
    | some error => exact hsucceeds.elim
    | none =>
      obtain ⟨hready', hentry⟩ := hr.shows.of_answer (.store _ _) hready ⟨hsome, rfl, _, rfl⟩ hstore
      have hkept := hr.stored hsome hready hstore
      exact Plan.reaches_noting_bind (Plan.reaches_pure ⟨⟨_, .inr rfl, hready'⟩,
        hsound.store hkeys (hcache hsome) hf hentry, fun _ => hkept.trans hartifact⟩)
  · exact Plan.reaches_pure ⟨⟨_, .inr rfl, hready⟩, hsound, fun _ => hartifact⟩

/-- Compiling fails as the toolchain does, and leaves the artifact and a sound cache if it does not. -/
theorem compiling_reaches (key : Bytes)
    (hkey : request.host.cache.isSome = true → key = request.key)
    (hready : view.isReady (.fresh workspace) before)
    (hsource : view.source before workspace = some request.source)
    (hsound : view.IsSound programs requests before) :
    (compiling request.host.cache.isSome request.toolchain key workspace).Reaches request.host
      (fun failure after => failure = programs.failure? request.toolchain request.source ∧
        Supplied view programs requests request workspace after) before := by
  refine Plan.reaches_noting_bind (Plan.reaches_asking_bind fun ended compiled hcompile _ => ?_)
  obtain ⟨hused, hentry⟩ := hr.shows.of_answer (.compile _ _) hready ⟨rfl, rfl⟩ hcompile
  obtain ⟨rfl, hleft⟩ := hr.compiled hready hsource hcompile
  have hsound := hsound.congr hentry
  have hfailure : compileError? request.toolchain
      (programs.compiled request.toolchain request.source)
      = programs.failure? request.toolchain request.source := rfl
  rw [hfailure]
  cases hf : programs.failure? request.toolchain request.source with
  | some error =>
    exact Plan.reaches_pure ⟨rfl, ⟨_, .inr rfl, hused⟩, hsound, by rw [hf]; nofun⟩
  | none =>
    obtain ⟨stdout, stderr, hcompleted⟩ := completed_of_failure?_eq_none hf
    refine Plan.reaches_asking_bind fun found read hread hsucceeds => ?_
    obtain ⟨hused', hentry⟩ := hr.shows.of_answer (.readArtifact _) hused rfl hread
    cases found with
    | error cause => exact hsucceeds.elim
    | ok artifact =>
      obtain ⟨rfl, hartifact⟩ := hr.read hused (hleft stdout stderr hcompleted) hread
      refine (keeping_reaches hr hkeys hcache hkey hused' (hsound.congr hentry) hf hartifact).imp
        (fun _ last hsupplied => ?_) |>.bind
      exact Plan.reaches_pure ⟨rfl, hsupplied⟩

/-- The artifact of a request is there after it was obtained, from the cache or not, and there is an
error exactly when the compiler would fail. -/
theorem obtaining_reaches (hready : view.isReady (.fresh workspace) before)
    (hsource : view.source before workspace = some request.source)
    (hsound : view.IsSound programs requests before) :
    (obtaining request.host.cache.isSome request.toolchain request.source workspace).Reaches
      request.host
      (fun failure after => failure = programs.failure? request.toolchain request.source ∧
        Supplied view programs requests request workspace after) before := by
  unfold obtaining
  split
  · next hsome =>
    refine Plan.reaches_asking_bind fun found looked hlookup hsucceeds => ?_
    obtain ⟨hready', hentry⟩ := hr.shows.of_answer (.lookup _) hready ⟨hsome, rfl, _, rfl⟩ hlookup
    rcases found with error | found
    · exact hsucceeds.elim
    obtain ⟨rfl, hkept⟩ := hr.found hsome hready hlookup
    have hsound' := hsound.congr hentry
    cases ha : view.entry before request.key with
    | none =>
      refine Plan.reaches_noting_bind ?_
      rw [← hsome]
      exact compiling_reaches hr hkeys hcache _ (fun _ => rfl) hready' (hkept.trans hsource) hsound'
    | some artifact =>
      -- The compiler is not run, but the cache says what it would have done.
      obtain ⟨hf, rfl⟩ := hsound request (hcache hsome) artifact ha
      refine Plan.reaches_asking_bind fun failure restored hrestore hsucceeds => ?_
      cases failure with
      | some cause => exact hsucceeds.elim
      | none =>
        obtain ⟨hready'', hentry'⟩ := hr.shows.of_answer (.restoreArtifact _ _) hready' rfl hrestore
        have hartifact := hr.restored hready' hrestore
        exact Plan.reaches_noting_bind (Plan.reaches_pure ⟨hf.symm, ⟨_, .inl rfl, hready''⟩,
          hsound'.congr hentry', fun _ => hartifact⟩)
  · next hnone =>
    obtain hnone : request.host.cache.isSome = false := by simpa using hnone
    have hcompiling := compiling_reaches hr hkeys hcache []
      (fun hsome => Bool.noConfusion (hnone.symm.trans hsome)) hready hsource hsound
    rw [hnone] at hcompiling
    exact hcompiling

end Steps

/-! ## Endings -/

/-- The ending that the outside programs decide on for a request, before its conclusion: the error of
the compiler, or what a run of the program comes to that ends as this one does. -/
def Programs.Decide (programs : Programs) (request : Request σ) (ending : Ending) : Prop :=
  match programs.failure? request.toolchain request.source with
  | some error => ending = ⟨.written, .nothing, some error⟩
  | none => ∃ (host : Host σ) (workspace : Workspace) (state : σ),
    (host.execute workspace state).1
      = programs.execute (programs.artifact request.toolchain request.source) request.environment ∧
    ending = ((executing workspace).carryOut host state).2.1

/-- Programs that end alike make builds end alike, whoever runs them. -/
theorem executing_congr {first second : Host σ} {w₁ w₂ : Workspace} {s₁ s₂ : σ}
    (h : (first.execute w₁ s₁).1 = (second.execute w₂ s₂).1) :
    ((executing w₁).carryOut first s₁).2.1 = ((executing w₂).carryOut second s₂).2.1 := by
  unfold executing
  rw [Plan.carryOut_asking_bind, Plan.carryOut_asking_bind]
  simp only [Host.answer]
  rw [← h]
  cases (first.execute w₁ s₁).1 with
  | notStarted cause => rfl
  | interrupted why cause => rfl
  | completed exitCode stdout stderr =>
    dsimp only
    split <;> rfl

/-- After its program has ended a build asks nothing more in its workspace. -/
theorem executing_after (host : Host σ) (workspace : Workspace) (state : σ) :
    ((executing workspace).carryOut host state).2.2 = (host.execute workspace state).2 := by
  unfold executing
  rw [Plan.carryOut_asking_bind]
  simp only [Host.answer]
  cases (host.execute workspace state).1 with
  | notStarted cause => rfl
  | interrupted why cause => rfl
  | completed exitCode stdout stderr =>
    dsimp only
    split <;> rfl

/-- Requests with the same toolchain, source and environment come to the same. -/
theorem Programs.Decide.unique {request other : Request σ} {first second : Ending}
    (h : programs.Decide request first) (h' : programs.Decide other second)
    (htoolchain : request.toolchain = other.toolchain) (hsource : request.source = other.source)
    (henvironment : request.environment = other.environment) : first = second := by
  unfold Programs.Decide at h h'
  rw [htoolchain, hsource, henvironment] at h
  split at h
  · next error heq =>
    rw [heq] at h'
    exact h.trans h'.symm
  · next heq =>
    rw [heq] at h'
    obtain ⟨_, _, _, hended, rfl⟩ := h
    obtain ⟨_, _, _, hended', rfl⟩ := h'
    exact executing_congr (hended.trans hended'.symm)

/-- The ending is decided, the next request can be taken, and the cache is sound. -/
structure Settles (view : View σ) (programs : Programs) (requests : List (Request σ))
    (request : Request σ) (isIn : Phase → Prop) (ending : Ending) (after : σ) : Prop where
  decided : programs.Decide request ending
  isReady : ∃ phase, isIn phase ∧ view.isReady phase after
  isSound : view.IsSound programs requests after

section Builds

variable (hr : request.IsReliable view programs) {before : σ}
include hr

/-- Executing an artifact that is supplied settles the request. -/
theorem executing_reaches (hf : programs.failure? request.toolchain request.source = none)
    (hsupplied : Supplied view programs requests request workspace before) :
    (executing workspace).Reaches request.host
      (Settles view programs requests request (Phase.IsIn workspace)) before := by
  obtain ⟨⟨phase, hin, hready⟩, hsound, hartifact⟩ := hsupplied
  rcases hexecute : request.host.execute workspace before with ⟨ended, after⟩
  obtain ⟨hready', hentry⟩ := hr.shows.of_answer (.execute _) hready hin hexecute
  have hafter : ((executing workspace).carryOut request.host before).2.2 = after := by
    rw [executing_after, hexecute]
  have hsettles : Settles view programs requests request (Phase.IsIn workspace)
      ((executing workspace).carryOut request.host before).2.1
      ((executing workspace).carryOut request.host before).2.2 := by
    rw [hafter]
    refine ⟨?_, ⟨.used workspace, .inr rfl, hready'⟩, hsound.congr hentry⟩
    simp only [Programs.Decide, hf]
    exact ⟨request.host, workspace, before, hr.executed hin hready (hartifact hf), rfl⟩
  exact fun _ => hsettles

variable (hkeys : KeysTell requests) (hcache : request.host.cache.isSome = true → request ∈ requests)
include hkeys hcache

/-- Building from a written source settles the request. -/
theorem buildingWritten_reaches (hready : view.isReady (.fresh workspace) before)
    (hsource : view.source before workspace = some request.source)
    (hsound : view.IsSound programs requests before) :
    (buildingWritten request.host.cache.isSome request.toolchain request.source workspace).Reaches
      request.host (Settles view programs requests request (Phase.IsIn workspace)) before := by
  refine (obtaining_reaches hr hkeys hcache hready hsource hsound).imp
    (fun failure after hobtained => ?_) |>.bind
  obtain ⟨rfl, hsupplied⟩ := hobtained
  cases hf : programs.failure? request.toolchain request.source with
  | some error =>
    refine Plan.reaches_pure ⟨?_, hsupplied.isReady, hsupplied.isSound⟩
    simp only [Programs.Decide, hf]
  | none =>
    exact Plan.reaches_noting_bind (Plan.reaches_noting_bind (executing_reaches hr hf hsupplied))

/-- Building in a workspace settles the request. -/
theorem buildingIn_reaches (hready : view.isReady (.fresh workspace) before)
    (hsound : view.IsSound programs requests before) :
    (buildingIn request.host.cache.isSome request.toolchain request.source workspace).Reaches
      request.host (Settles view programs requests request (Phase.IsIn workspace)) before := by
  refine Plan.reaches_asking_bind fun failure after hwrite hsucceeds => ?_
  cases failure with
  | some cause => exact hsucceeds.elim
  | none =>
    obtain ⟨hready', hentry⟩ := hr.shows.of_answer (.writeSource _ _) hready rfl hwrite
    exact Plan.reaches_noting_bind (Plan.reaches_noting_bind
      (buildingWritten_reaches hr hkeys hcache hready' (hr.wrote hready hwrite)
        (hsound.congr hentry)))

omit hkeys hcache in
/-- Cleaning up leaves the request settled. -/
theorem cleaningUp_reaches (keeps : Bool) {ending : Ending}
    (h : Settles view programs requests request (Phase.IsIn workspace) ending before) :
    (cleaningUp keeps workspace ending).Reaches request.host
      (Settles view programs requests request fun _ => True) before := by
  obtain ⟨hdecided, ⟨phase, hin, hready⟩, hsound⟩ := h
  unfold cleaningUp
  split
  · exact Plan.reaches_pure ⟨hdecided, ⟨phase, trivial, hready⟩, hsound⟩
  · refine Plan.reaches_asking_bind fun failure after hremove hsucceeds => ?_
    cases failure with
    | some error => exact hsucceeds.elim
    | none =>
      obtain ⟨hready', hentry⟩ := hr.shows.of_answer (.removeWorkspace _) hready hin hremove
      exact Plan.reaches_pure ⟨hdecided, ⟨.gone, trivial, hready'⟩, hsound.congr hentry⟩

/-- A build in which nothing fails comes to what the outside programs decide, with a sound cache or
none. -/
theorem buildingAll_reaches (hready : view.isReady .idle before)
    (hsound : view.IsSound programs requests before) :
    (buildingAll request.host.cache.isSome request.toolchain request.keeps request.jobId
      request.source).Reaches request.host
      (fun result => Settles view programs requests request (fun _ => True) result.2) before := by
  refine Plan.reaches_asking_bind fun made after hcreate hsucceeds => ?_
  cases made with
  | error cause => exact hsucceeds.elim
  | ok workspace =>
    obtain ⟨hready', hentry⟩ := hr.shows.of_answer (.createWorkspace _) hready rfl hcreate
    refine (buildingIn_reaches hr hkeys hcache hready' (hsound.congr hentry)).imp
      (fun ending _ hsettles => ?_) |>.bind
    refine (cleaningUp_reaches hr request.keeps hsettles).imp (fun ending _ hsettles => ?_) |>.bind
    exact Plan.reaches_pure hsettles

/-- All the work of a build settles its request. -/
theorem workOf_settles (hready : view.isReady .idle before)
    (hsound : view.IsSound programs requests before) (hsucceeds : request.Succeeds before) :
    let work := (workOf request.host request.toolchain request.keeps request.jobId request.source
      before).2
    programs.Decide request ⟨work.stage, work.printed, work.error⟩ ∧
      view.isReady .idle work.state ∧ view.IsSound programs requests work.state := by
  have hsettles := buildingAll_reaches hr hkeys hcache hready hsound fun moment hmem => by
    refine hsucceeds moment ?_
    unfold historyOf building
    rw [Plan.carryOut_noting_bind, Plan.carryOut_bind]
    exact List.mem_cons_of_mem _ (List.mem_append_left _ hmem)
  obtain ⟨hdecided, ⟨phase, -, hphase⟩, hlast⟩ := hsettles
  rw [workOf_eq]
  exact ⟨hdecided, hr.again hphase, hlast⟩

end Builds

/-! ## Agreeing outcomes -/

/-- The outcomes differ in what the cache did and in nothing else. -/
structure Outcome.AgreesButForCache (cached plain : Outcome) : Prop where
  stage : cached.stage = plain.stage
  printed : cached.printed = plain.printed
  error : cached.error = plain.error
  trace : cached.trace.withoutCache = plain.trace
  isCacheHit : plain.isCacheHit = false

/-- Without the events of the cache nothing is left of what the cache has done. -/
theorem CacheWord.filter_isOfCache {hasCache : Bool} {word : List Trace.Event}
    (h : CacheWord hasCache word) : word.filter (!·.isOfCache) = [] := by
  cases h with
  | silent => rfl
  | hit => rfl
  | stored => rfl

/-- Without a cache nothing is told of one. -/
theorem CacheWord.eq_nil {word : List Trace.Event} (h : CacheWord false word) : word = [] := by
  cases h with
  | silent => rfl
  | hit h => cases h
  | stored h => cases h

/-- Builds that come equally far leave the same events but for those of the cache. -/
theorem Course.filter_isOfCache {first second : Host σ} (hnone : second.cache = none)
    {stage : Stage} {error : Option Error} {e₁ e₂ : List Trace.Event}
    (h₁ : Course first stage e₁ error) (h₂ : Course second stage e₂ error) :
    e₁.filter (!·.isOfCache) = e₂ := by
  have hword {word : List Trace.Event} (h : CacheWord second.cache.isSome word) : word = [] := by
    rw [hnone] at h
    exact h.eq_nil
  cases h₁ with
  | generated =>
    cases h₂
    rfl
  | written =>
    cases h₂
    rfl
  | compiled hc₁ =>
    cases h₂ with
    | compiled hc₂ =>
      rw [hword hc₂, List.filter_cons, List.filter_append, hc₁.filter_isOfCache]
      rfl
  | succeeded hc₁ =>
    cases h₂ with
    | succeeded hc₂ =>
      rw [hword hc₂, List.filter_cons, List.filter_append, hc₁.filter_isOfCache]
      rfl

/-- The last events are none of the cache. -/
theorem filter_finalEvents (error : Option Error) :
    (finalEvents error).filter (!·.isOfCache) = finalEvents error := by
  cases error with
  | none => rfl
  | some error => rfl

/-- Builds of equal verdict, one of them without a cache, have agreeing outcomes. -/
theorem conclude_agrees {first second : Host σ} (hnone : second.cache = none) (source : Bytes)
    {w₁ w₂ : Option Workspace} {cached plain : Work σ}
    (h₁ : Course first cached.stage (Journal.recorded cached.journal) cached.error)
    (h₂ : Course second plain.stage (Journal.recorded plain.journal) plain.error)
    (hending : Ending.mk cached.stage cached.printed cached.error
      = ⟨plain.stage, plain.printed, plain.error⟩) :
    (conclude source w₁ cached).AgreesButForCache (conclude source w₂ plain) := by
  rw [Ending.mk.injEq] at hending
  obtain ⟨hstage, hprinted, herror⟩ := hending
  rw [hstage, herror] at h₁
  have hevents := h₁.filter_isOfCache hnone h₂
  refine ⟨?_, ?_, ?_, ?_, ?_⟩
  · rw [conclude_stage, conclude_stage, hstage, herror]
  · rw [conclude_printed, conclude_printed, hprinted]
  · rw [conclude_error, conclude_error, herror]
  · rw [conclude_trace, conclude_trace, Trace.withoutCache]
    dsimp only
    rw [Trace.numbered_filter_numbered, conclude_recorded, conclude_recorded, List.filter_append,
      List.filter_cons, hevents, herror, filter_finalEvents]
    rfl
  · have hplain : (conclude source w₂ plain).journal.recorded.filter (!·.isOfCache)
        = (conclude source w₂ plain).journal.recorded := by
      rw [conclude_recorded, List.filter_append, List.filter_cons,
        h₂.filter_isOfCache hnone h₂, filter_finalEvents]
      rfl
    rw [conclude_isCacheHit, ← Bool.not_eq_true, Journal.isHit_iff]
    rintro ⟨event, hmem, hkind⟩
    rw [← hplain, List.mem_filter] at hmem
    simp [Trace.Event.isOfCache, hkind] at hmem

/-- The workspace of a build is the one that was created. -/
theorem workOf_workspace (host : Host σ) (toolchain : Toolchain) (keeps : Bool)
    (jobId source : Bytes) (before : σ) :
    (workOf host toolchain keeps jobId source before).1
      = (host.createWorkspace jobId before).1.toOption := by
  unfold workOf
  generalize host.createWorkspace jobId before = made
  obtain ⟨made, state⟩ := made
  cases made with
  | error cause => rfl
  | ok workspace => rfl

/-! ## Sequences of requests -/

/-- No two of the requests have different inputs that are digested alike. -/
def CollisionFree (requests : List (Request σ)) : Prop :=
  ∀ a ∈ requests, ∀ b ∈ requests,
    Sha256.hexDigest (CacheKey.input a.toolchain a.source)
      = Sha256.hexDigest (CacheKey.input b.toolchain b.source) →
    CacheKey.input a.toolchain a.source = CacheKey.input b.toolchain b.source

/-- Keys without collisions tell their requests. -/
theorem CollisionFree.keysTell (h : CollisionFree requests)
    (hfits : ∀ request ∈ requests, CacheKey.Fits request.toolchain request.source) :
    KeysTell requests := by
  intro a ha b hb hkey
  exact CacheKey.input_inj (hfits a ha) (hfits b hb) (h a ha b hb hkey)

/-- The cache is sound after any number of the requests, in any order, if nothing fails. -/
theorem stateAfter_sound (hreliable : ∀ request ∈ requests, request.IsReliable view programs)
    (hkeys : KeysTell requests) {done : List (Request σ)}
    (hdone : ∀ request ∈ done, request ∈ requests) {before : σ} (hready : view.isReady .idle before)
    (hsound : view.IsSound programs requests before) (hsucceed : AllSucceed done before) :
    view.isReady .idle (stateAfter done before) ∧
      view.IsSound programs requests (stateAfter done before) := by
  -- On the requests that are done: soundness is about all requests, so it does not change with them.
  induction done generalizing before with
  | nil => exact ⟨hready, hsound⟩
  | cons request rest ih =>
    rw [List.forall_mem_cons] at hdone
    obtain ⟨hmem, hrest⟩ := hdone
    obtain ⟨hnow, hlater⟩ := hsucceed
    obtain ⟨-, hready', hsound'⟩ := workOf_settles (hreliable request hmem) hkeys (fun _ => hmem)
      hready hsound hnow
    have hstate : (request.run before).2 = (workOf request.host request.toolchain request.keeps
        request.jobId request.source before).2.state := by rw [request.run_eq]
    rw [← hstate] at hready' hsound'
    exact ih hrest hready' hsound' hlater

end Reliable

end Build

end FunctionChain
