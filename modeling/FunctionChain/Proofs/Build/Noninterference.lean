import FunctionChain.Proofs.Build.TraceLanguage

/-!
# What a trace gives away

The trace of a build tells how far it came, what the cache did and under which code it failed. It
tells nothing else: it is written from these three and the program alone (`run_tellsOnly`). So
builds of one program that do not differ in them have the same trace, wherever, when and by
whatever they are done (`trace_noninterference`).

The three are read off the journal and the error of a build and not off its trace. What the journal
holds besides, such as keys, commands, paths and errors, goes into the log only.
-/

namespace FunctionChain

namespace Build

/-! ## What may be told -/

/-- What the cache has done for a build. -/
inductive CacheUse where
  | hit
  | stored
deriving Repr, DecidableEq

/-- What the cache has done, by what has happened. -/
def Happening.cacheUse? : Happening → Option CacheUse
  | .restored _ => some .hit
  | .stored => some .stored
  | _ => none

/-- The stage that was entered, if one was. -/
def Happening.stage? : Happening → Option Stage
  | .entered stage _ => some stage
  | _ => none

namespace Outcome

/-- The last stage before the final one. -/
def reached? (outcome : Outcome) : Option Stage :=
  (outcome.journal.filterMap Happening.stage?).dropLast.getLast?

/-- What the cache has done, if anything. -/
def cacheUse? (outcome : Outcome) : Option CacheUse :=
  outcome.journal.findSome? Happening.cacheUse?

/-- The code of the failure. There is none when the build has not failed, or with an error that
cannot be classified. -/
def failureCode? (outcome : Outcome) : Option Bytes :=
  outcome.error.bind fun error => (Failure.classify error).map (·.code)

end Outcome

/-! ## The word of a build -/

/-- The event that tells what the cache has done. -/
def CacheUse.event : CacheUse → Trace.Event
  | .hit => ⟨0, Trace.cacheHit, [], []⟩
  | .stored => ⟨0, Trace.cacheStored, [], []⟩

/-- The event of the cache tells its use. -/
theorem CacheUse.event_inj {first second : CacheUse} :
    first.event = second.event ↔ first = second := by
  cases first <;> cases second <;> decide

/-- The events of a build that came so far, before they are numbered. -/
def wordOf (reached : Stage) (cache : Option CacheUse) (reason : Bytes) : List Trace.Event :=
  let obtained := (cache.map (·.event)).toList
  match reached with
  | .generated => [entering .generated [], entering .failed reason]
  | .written => [entering .generated [], entering .written [], entering .failed reason]
  | .compiled => [entering .generated [], entering .written []] ++ obtained
      ++ [entering .compiled [], entering .failed reason]
  | _ => [entering .generated [], entering .written []] ++ obtained
      ++ [entering .compiled [], entering .executed [], entering .succeeded []]

/-- Only the word of a build that failed has the reason in it. -/
theorem wordOf_congr {reached : Stage} (cache : Option CacheUse) {first second : Bytes}
    (h : reached ≠ .executed → first = second) :
    wordOf reached cache first = wordOf reached cache second := by
  by_cases hexecuted : reached = .executed
  · rw [hexecuted]
    rfl
  · rw [h hexecuted]

/-- Every word is written so, and it shows how far the build came and what the cache did. -/
theorem JobWord.exists_wordOf {hasCache : Bool} {reason : Bytes} {stage : Stage}
    {word : List Trace.Event} (h : JobWord hasCache reason stage word) (source : Bytes) :
    ∃ reached cache, word = wordOf reached cache reason ∧
      (Trace.states ⟨source, word⟩).dropLast.getLast? = some reached.name ∧
      word.find? (·.isOfCache) = cache.map (·.event) ∧
      (stage = .succeeded ↔ reached = .executed) := by
  cases h with
  | unwritten => exact ⟨.generated, none, rfl, rfl, rfl, by decide⟩
  | uncompiled => exact ⟨.written, none, rfl, rfl, rfl, by decide⟩
  | unexecuted hcache =>
    cases hcache with
    | silent => exact ⟨.compiled, none, rfl, rfl, rfl, by decide⟩
    | hit => exact ⟨.compiled, some .hit, rfl, rfl, rfl, by decide⟩
    | stored => exact ⟨.compiled, some .stored, rfl, rfl, rfl, by decide⟩
  | succeeded hcache =>
    cases hcache with
    | silent => exact ⟨.executed, none, rfl, rfl, rfl, by decide⟩
    | hit => exact ⟨.executed, some .hit, rfl, rfl, rfl, by decide⟩
    | stored => exact ⟨.executed, some .stored, rfl, rfl, rfl, by decide⟩

/-! ## Journals and words -/

/-- The states of a trace are the stages of the journal. -/
theorem Journal.states_recorded (journal : Journal) (source : Bytes) :
    Trace.states ⟨source, journal.recorded⟩
      = (journal.filterMap Happening.stage?).map Stage.name := by
  have hview : (fun happening : Happening =>
      (happening.event?.filter (·.kind == Trace.stateEntered)).map (·.state))
        = fun happening => happening.stage?.map Stage.name := by
    funext happening
    cases happening <;> rfl
  rw [Trace.states, Journal.recorded, List.filter_filterMap, List.map_filterMap, List.map_filterMap,
    hview]

/-- The event of the cache tells what the cache has done. -/
theorem Journal.find?_recorded (journal : Journal) :
    journal.recorded.find? (·.isOfCache)
      = (journal.findSome? Happening.cacheUse?).map (·.event) := by
  have hview : (fun happening : Happening => happening.event?.filter (·.isOfCache))
      = fun happening => happening.cacheUse?.map (·.event) := by
    funext happening
    cases happening <;> rfl
  rw [← List.head?_filter, Journal.recorded, List.filter_filterMap, hview, ← List.map_filterMap,
    List.head?_map, List.head?_filterMap]

/-- The reason of a failure is its code. -/
theorem reasonOf?_eq {outcome : Outcome} (h : outcome.error ≠ none) :
    reasonOf? outcome.error = outcome.failureCode?.getD (bytes "internal") := by
  unfold Outcome.failureCode?
  cases herror : outcome.error with
  | none => exact absurd herror h
  | some error =>
    simp only [reasonOf?, Option.elim_some, reasonOf, Option.bind_some]
    cases Failure.classify error <;> rfl

/-! ## Builds -/

/-- The trace of a build over a program is written from how far it came, from what the cache did
and, when it failed, from the reason. -/
def Outcome.TellsOnly (source : Bytes) (outcome : Outcome) : Prop :=
  ∃ reached, outcome.reached? = some reached ∧ (reached = .executed ↔ outcome.error = none) ∧
    outcome.trace = ⟨Trace.sourceHash source,
      Trace.numbered 0 (wordOf reached outcome.cacheUse? (reasonOf? outcome.error))⟩

/-- The trace of a build tells only how far it came, what the cache did and why it failed. -/
theorem run_tellsOnly {σ : Type} (host : Host σ) (toolchain : Toolchain) (keeps : Bool)
    (jobId source : Bytes) (state : σ) :
    (run host toolchain keeps jobId source state).1.TellsOnly source := by
  have hcourse := workOf_course host toolchain keeps jobId source state
  rw [run_eq_workOf]
  generalize workOf host toolchain keeps jobId source state = made at hcourse ⊢
  obtain ⟨workspace, work⟩ := made
  obtain ⟨hword, hsucceeded, -⟩ := conclude_word host source workspace hcourse
  have htrace := conclude_trace source workspace work
  dsimp only
  generalize conclude source workspace work = outcome at hword hsucceeded htrace ⊢
  obtain ⟨reached, cache, hrecorded, hreached, hcache, hexecuted⟩ := hword.exists_wordOf source
  rw [Journal.states_recorded, ← List.map_dropLast, List.getLast?_map,
    Option.map_eq_some_iff] at hreached
  obtain ⟨stage, hstage, hname⟩ := hreached
  obtain rfl := Stage.name_inj.1 hname
  rw [Journal.find?_recorded] at hcache
  have hcache : outcome.cacheUse? = cache :=
    Option.map_injective (fun _ _ => CacheUse.event_inj.1) hcache
  refine ⟨stage, hstage, hexecuted.symm.trans hsucceeded, ?_⟩
  rw [htrace, hrecorded, hcache]

/-- Traces of one program that are written from the same are the same. -/
theorem Outcome.TellsOnly.trace_eq {source : Bytes} {first second : Outcome}
    (hfirst : first.TellsOnly source) (hsecond : second.TellsOnly source)
    (hreached : first.reached? = second.reached?) (hcache : first.cacheUse? = second.cacheUse?)
    (hcode : first.error ≠ none → second.error ≠ none →
      first.failureCode? = second.failureCode?) : first.trace = second.trace := by
  obtain ⟨reached, hreached₁, hexecuted₁, htrace₁⟩ := hfirst
  obtain ⟨reached₂, hreached₂, hexecuted₂, htrace₂⟩ := hsecond
  obtain rfl : reached = reached₂ :=
    Option.some.inj (hreached₁.symm.trans (hreached.trans hreached₂))
  have hreason (hne : reached ≠ .executed) : reasonOf? first.error = reasonOf? second.error := by
    have herror₁ : first.error ≠ none := fun h => hne (hexecuted₁.2 h)
    have herror₂ : second.error ≠ none := fun h => hne (hexecuted₂.2 h)
    rw [reasonOf?_eq herror₁, reasonOf?_eq herror₂, hcode herror₁ herror₂]
  rw [htrace₁, htrace₂, hcache, wordOf_congr _ hreason]

/-- **Noninterference.** Let a program be built twice, on any hosts, with any toolchains, under any
job ids and from any states, whatever the steps come to. If both builds reach the same stage before
the final one, the cache does the same for both, and they have the same code if they fail, then they
have the same canonical trace, byte for byte, and the same digest of it. -/
theorem trace_noninterference {σ τ : Type} (host : Host σ) (other : Host τ)
    (toolchain otherToolchain : Toolchain) (keeps otherKeeps : Bool) (jobId otherId source : Bytes)
    (state : σ) (otherState : τ) :
    let first := (run host toolchain keeps jobId source state).1
    let second := (run other otherToolchain otherKeeps otherId source otherState).1
    first.reached? = second.reached? →
    first.cacheUse? = second.cacheUse? →
    (first.error ≠ none → second.error ≠ none → first.failureCode? = second.failureCode?) →
    ∃ text digest, first.trace.canonicalJson = .ok text ∧ second.trace.canonicalJson = .ok text ∧
      first.trace.hash = .ok digest ∧ second.trace.hash = .ok digest := by
  intro first second hreached hcache hcode
  have hfirst : first.TellsOnly source := run_tellsOnly _ _ _ _ _ _
  have hsecond : second.TellsOnly source := run_tellsOnly _ _ _ _ _ _
  have htraced : first.IsTraced host source := run_isTraced _ _ _ _ _ _
  obtain ⟨text, htext⟩ := htraced.canonical
  have hhash : first.trace.hash = .ok (Trace.hashOf text) := by
    rw [Trace.hash, htext]
    rfl
  rw [← hfirst.trace_eq hsecond hreached hcache hcode]
  exact ⟨text, _, htext, htext, hhash, hhash⟩

namespace Sample

/-- A host without a cache whose compiler finds an error. -/
def bare : Host Unit where
  createWorkspace jobId _ := (.ok ⟨bytes "/tmp/" ++ jobId⟩, ())
  writeSource _ _ _ := (none, ())
  cache := none
  restoreArtifact _ _ _ := (none, ())
  compile _ _ _ := (.completed 1 [] (bytes "main.cpp:1: unknown name"), ())
  readArtifact _ _ := (.error (.plain (bytes "no artifact")), ())
  execute _ _ := (.notStarted (.plain (bytes "no artifact")), ())
  removeWorkspace _ _ := (none, ())

/-- A host that counts its steps. Its cache cannot be read, its compiler crashes, and its workspaces
cannot be removed. -/
def counting : Host Nat where
  createWorkspace jobId steps := (.ok ⟨bytes "/var/jobs/" ++ jobId⟩, steps + 1)
  writeSource _ _ steps := (none, steps + 1)
  cache := some ⟨fun _ steps => (.error (.plain (bytes "locked")), steps + 1),
    fun _ _ steps => (none, steps + 1)⟩
  restoreArtifact _ _ steps := (none, steps + 1)
  compile _ _ steps := (.completed 139 (bytes "killed") [], steps + 1)
  readArtifact _ steps := (.error (.plain (bytes "no artifact")), steps + 1)
  execute _ steps := (.notStarted (.plain (bytes "no artifact")), steps + 1)
  removeWorkspace _ steps := (some (.plain (bytes "device busy")), steps + 1)

def compiler : Toolchain := ⟨bytes "clang++", [], [bytes "/opt/include"], [], [], bytes "2"⟩

/-- Two failures that have nothing but the code in common leave the same trace. -/
theorem trace_of_failures :
    let first := (run bare .standard true (bytes "job 1") (bytes "f()") ()).1
    let second := (run counting compiler false (bytes "job 2") (bytes "f()") 7).1
    first.reached? = second.reached? ∧ first.cacheUse? = second.cacheUse? ∧
      first.failureCode? = second.failureCode? ∧
      first.error.map (·.text) ≠ second.error.map (·.text) ∧
      ∃ text digest, first.trace.canonicalJson = .ok text ∧
        second.trace.canonicalJson = .ok text ∧
        first.trace.hash = .ok digest ∧ second.trace.hash = .ok digest := by
  intro first second
  have hreached : first.reached? = second.reached? := by decide +kernel
  have hcache : first.cacheUse? = second.cacheUse? := by decide +kernel
  have hcode : first.failureCode? = second.failureCode? := by decide +kernel
  exact ⟨hreached, hcache, hcode, by decide +kernel,
    trace_noninterference bare counting .standard compiler true false _ _ _ () 7
      hreached hcache fun _ _ => hcode⟩

end Sample

end Build

end FunctionChain
