import FunctionChain.Build.Database
import FunctionChain.Build.Machine
import FunctionChain.Proofs.Build.Plan
import FunctionChain.Proofs.Files.Writing
import Mathlib.Logic.Function.Basic

/-!
# The contents of caches

What a cache holds can be told from the history of a build: each artifact that was stored is there
from then on under its key, and nothing else that is asked of the host changes the contents
(`Plan.TakesTurns.carryOut`). A build asks only what it is its turn to ask, in the workspace that was
made for it and under the key of its program (`building_takesTurns`); so it is enough that a host
shows the contents of its cache as long as it is asked by turns (`Host.ShowsCache`).

Caches in memory and in databases hold their artifacts themselves (`Cache.IsHeld`): whatever else
happens on their machine, they show their contents (`Machine.host_showsCache`). What a database holds
is what its library says: that is assumed to be a map (`DatabaseLibrary.IsMap`).
-/

namespace FunctionChain

namespace Build

open Plan (noting asking)

/-! ## Contents by history -/

/-- What the contents become at a moment. -/
def Moment.contents (contents : Bytes → Option Bytes) : Moment → Bytes → Option Bytes
  | .stored key artifact none => Function.update contents key (some artifact)
  | _ => contents

/-- What the contents become in a history. -/
def History.contents (history : History) (contents : Bytes → Option Bytes) : Bytes → Option Bytes :=
  history.foldl Moment.contents contents

/-- Only what is stored changes the contents of a cache. -/
theorem Moment.contents_of_ne {moment : Moment} (contents : Bytes → Option Bytes)
    (h : ∀ key artifact, moment ≠ .stored key artifact none) :
    moment.contents contents = contents := by
  cases moment with
  | stored key artifact failure =>
    cases failure with
    | none => exact absurd rfl (h key artifact)
    | some error => rfl
  | _ => rfl

/-- Without an artifact that was stored the contents are as they were. -/
theorem History.contents_of_not_mem {history : History} (contents : Bytes → Option Bytes)
    (h : ∀ key artifact, .stored key artifact none ∉ history) :
    history.contents contents = contents := by
  induction history with
  | nil => rfl
  | cons moment rest ih =>
    have hmoment : moment.contents contents = contents :=
      moment.contents_of_ne contents fun key artifact heq =>
        h key artifact (heq ▸ List.mem_cons_self)
    rw [History.contents, List.foldl_cons, hmoment]
    exact ih fun key artifact hmem => h key artifact (List.mem_cons_of_mem _ hmem)

/-- An artifact that is stored once is all that has changed. -/
theorem History.contents_of_once {before after : History} {key artifact : Bytes}
    (contents : Bytes → Option Bytes) (hbefore : ∀ key artifact, .stored key artifact none ∉ before)
    (hafter : ∀ key artifact, .stored key artifact none ∉ after) :
    History.contents (before ++ .stored key artifact none :: after) contents
      = Function.update contents key (some artifact) := by
  have hfirst := History.contents_of_not_mem contents hbefore
  have hlast := History.contents_of_not_mem (Function.update contents key (some artifact)) hafter
  unfold History.contents at hfirst hlast ⊢
  rw [List.foldl_append, hfirst, List.foldl_cons]
  exact hlast

/-! ## Turns -/

/-- How far a build is with its workspace. -/
inductive Phase where
  /-- There is none yet. -/
  | idle
  /-- It was made, and nothing but the build itself has worked in it. -/
  | fresh (workspace : Workspace)
  /-- The toolchain or the program has worked in it. -/
  | used (workspace : Workspace)
  /-- It was taken away, or could not be made. -/
  | gone

/-- The phase after a moment. -/
def Phase.next (phase : Phase) : Moment → Phase
  | .created _ (.ok workspace) => .fresh workspace
  | .created _ (.error _) | .removed _ _ => .gone
  | .compiled _ workspace _ | .executed workspace _ => .used workspace
  | _ => phase

/-- The workspace is there. -/
def Phase.IsIn (workspace : Workspace) (phase : Phase) : Prop :=
  phase = .fresh workspace ∨ phase = .used workspace

/-- What it is the turn of a build with this toolchain and this key to ask. -/
def Ask.IsTurn (hasCache : Bool) (toolchain : Toolchain) (key : Bytes) (phase : Phase) : Ask → Prop
  | .createWorkspace _ => phase = .idle
  | .writeSource workspace _ | .restoreArtifact workspace _ => phase = .fresh workspace
  | .lookup other => hasCache = true ∧ other = key ∧ ∃ workspace, phase = .fresh workspace
  | .compile used workspace => used = toolchain ∧ phase = .fresh workspace
  | .readArtifact workspace => phase = .used workspace
  | .store other _ => hasCache = true ∧ other = key ∧ ∃ workspace, phase = .used workspace
  | .execute workspace | .removeWorkspace workspace => phase.IsIn workspace

section Turns

variable {σ α β : Type} {hasCache : Bool} {toolchain : Toolchain} {key : Bytes}

/-- A plan that asks only what it is its turn to ask, and ends in a phase as it should. -/
def Plan.TakesTurns (hasCache : Bool) (toolchain : Toolchain) (key : Bytes)
    (ends : α → Phase → Prop) : Plan α → Phase → Prop
  | .done result, phase => ends result phase
  | .note _ next, phase => next.TakesTurns hasCache toolchain key ends phase
  | .ask question next, phase => question.IsTurn hasCache toolchain key phase ∧ ∀ answer,
    (next answer).TakesTurns hasCache toolchain key ends (phase.next (question.moment answer))

namespace Plan.TakesTurns

variable {ends : α → Phase → Prop} {phase : Phase}

/-- A plan that takes turns and ends in one way ends in every weaker way. -/
theorem imp {plan : Plan α} {ends' : α → Phase → Prop}
    (h : plan.TakesTurns hasCache toolchain key ends phase)
    (himp : ∀ result last, ends result last → ends' result last) :
    plan.TakesTurns hasCache toolchain key ends' phase := by
  induction plan generalizing phase with
  | done result => exact himp result phase h
  | note happening next ih => exact ih h
  | ask question next ih => exact ⟨h.1, fun answer => ih answer (h.2 answer)⟩

/-- One plan after another, the second in the phase that the first has come to. -/
theorem bind {plan : Plan α} {after : α → Plan β} {ends : β → Phase → Prop}
    (h : plan.TakesTurns hasCache toolchain key
      (fun result last => (after result).TakesTurns hasCache toolchain key ends last) phase) :
    (plan >>= after).TakesTurns hasCache toolchain key ends phase := by
  induction plan generalizing phase with
  | done result => exact h
  | note happening next ih => exact ih h
  | ask question next ih => exact ⟨h.1, fun answer => ih answer (h.2 answer)⟩

end Plan.TakesTurns

section Building

variable {workspace : Workspace} {source : Bytes} {phase : Phase}

/-- Keeping an artifact is a turn, and the workspace stays used. -/
theorem keeping_takesTurns (artifact : Bytes) :
    (keeping hasCache key artifact).TakesTurns hasCache toolchain key
      (fun _ last => last = .used workspace) (.used workspace) := by
  unfold keeping
  split
  · next hcache =>
    refine ⟨⟨hcache, rfl, workspace, rfl⟩, fun failure => ?_⟩
    cases failure <;> exact rfl
  · exact rfl

/-- Compiling is a turn in a fresh workspace, which is used then. -/
theorem compiling_takesTurns {used : Bytes} (hused : hasCache = true → used = key) :
    (compiling hasCache toolchain used workspace).TakesTurns hasCache toolchain key
      (fun _ last => last = .used workspace) (.fresh workspace) := by
  refine ⟨⟨rfl, rfl⟩, fun ended => ?_⟩
  dsimp only [Plan.bind]
  cases compileError? toolchain ended with
  | some error => exact rfl
  | none =>
    refine ⟨rfl, fun found => ?_⟩
    cases found with
    | error cause => exact rfl
    | ok artifact =>
      change (keeping hasCache used artifact >>= fun _ => (pure none : Plan (Option Error))).TakesTurns
        hasCache toolchain key (fun _ last => last = .used workspace) (.used workspace)
      refine Plan.TakesTurns.bind ?_
      cases hasCache with
      | false => exact rfl
      | true =>
        rw [hused rfl]
        exact (keeping_takesTurns artifact).imp fun _ _ h => h

/-- Obtaining an artifact takes turns in a fresh workspace, and is in it after that. -/
theorem obtaining_takesTurns :
    (obtaining hasCache toolchain source workspace).TakesTurns hasCache toolchain
      (CacheKey.compute toolchain source) (fun _ last => last.IsIn workspace)
      (.fresh workspace) := by
  have hcompiling {used : Bytes}
      (hused : hasCache = true → used = CacheKey.compute toolchain source) :
      (compiling hasCache toolchain used workspace).TakesTurns hasCache toolchain
        (CacheKey.compute toolchain source) (fun _ last => last.IsIn workspace)
        (.fresh workspace) :=
    (compiling_takesTurns hused).imp fun _ _ => .inr
  unfold obtaining
  split
  · next hcache =>
    subst hcache
    refine ⟨⟨rfl, rfl, workspace, rfl⟩, fun found => ?_⟩
    rcases found with error | _ | artifact
    · exact hcompiling fun _ => rfl
    · exact hcompiling fun _ => rfl
    · refine ⟨rfl, fun failure => ?_⟩
      cases failure <;> exact .inl rfl
  · next hcache =>
    obtain rfl : hasCache = false := by simpa using hcache
    exact hcompiling nofun

/-- Executing is a turn in any workspace. -/
theorem executing_takesTurns (h : phase.IsIn workspace) :
    (executing workspace).TakesTurns hasCache toolchain key (fun _ last => last.IsIn workspace)
      phase := by
  refine ⟨h, fun ended => ?_⟩
  cases ended with
  | notStarted cause => exact .inr rfl
  | interrupted why cause => exact .inr rfl
  | completed exitCode stdout stderr =>
    dsimp only [Plan.bind]
    split <;> exact .inr rfl

/-- Building takes turns in a fresh workspace. -/
theorem buildingIn_takesTurns :
    (buildingIn hasCache toolchain source workspace).TakesTurns hasCache toolchain
      (CacheKey.compute toolchain source) (fun _ last => last.IsIn workspace)
      (.fresh workspace) := by
  refine ⟨rfl, fun failure => ?_⟩
  cases failure with
  | some cause => exact .inl rfl
  | none =>
    refine obtaining_takesTurns.imp (fun failure last hin => ?_) |>.bind
    cases failure with
    | some error => exact hin
    | none => exact executing_takesTurns hin

/-- All the work of a build takes turns from its beginning. -/
theorem buildingAll_takesTurns (keeps : Bool) (jobId : Bytes) :
    (buildingAll hasCache toolchain keeps jobId source).TakesTurns hasCache toolchain
      (CacheKey.compute toolchain source) (fun _ last => last ≠ .idle) .idle := by
  refine ⟨rfl, fun made => ?_⟩
  cases made with
  | error cause => exact nofun
  | ok workspace =>
    refine buildingIn_takesTurns.imp (fun ending last hin => ?_) |>.bind
    have hnext : last ≠ .idle := by rcases hin with rfl | rfl <;> nofun
    unfold cleaningUp
    split
    · exact hnext
    · refine ⟨hin, fun failure => ?_⟩
      cases failure <;> exact nofun

/-- **Turns.** A build asks only what it is its turn to ask. -/
theorem building_takesTurns (keeps : Bool) (jobId : Bytes) :
    (building hasCache toolchain keeps jobId source).TakesTurns hasCache toolchain
      (CacheKey.compute toolchain source) (fun _ last => last ≠ .idle) .idle := by
  refine (buildingAll_takesTurns keeps jobId).imp (fun ⟨workspace, ending⟩ last hlast => ?_) |>.bind
  cases herror : ending.error <;> simp only [concluding, herror] <;> exact hlast

end Building

/-! ## Caches whose contents can be seen -/

/-- The contents of the cache of a host can be seen in states that are ready in a phase: as long as a
build asks by turns, an artifact that was stored is there, and neither a failed attempt to store one,
nor a lookup, nor any other step of the host changes what is there. -/
def Host.ShowsCache (host : Host σ) (toolchain : Toolchain) (key : Bytes)
    (isReady : Phase → σ → Prop) (contents : σ → Bytes → Option Bytes) : Prop :=
  ∀ (phase : Phase) (state : σ) (ask : Ask), isReady phase state →
    ask.IsTurn host.cache.isSome toolchain key phase →
    isReady (phase.next (ask.moment (host.answer ask state).1)) (host.answer ask state).2 ∧
      contents (host.answer ask state).2
        = (ask.moment (host.answer ask state).1).contents (contents state)

/-- What a plan that takes turns makes of the contents is told by its history. -/
theorem Plan.TakesTurns.carryOut {host : Host σ} {isReady : Phase → σ → Prop}
    {contents : σ → Bytes → Option Bytes} (hshows : host.ShowsCache toolchain key isReady contents)
    {ends : α → Phase → Prop} {plan : Plan α} {phase : Phase} {state : σ}
    (h : plan.TakesTurns host.cache.isSome toolchain key ends phase)
    (hready : isReady phase state) :
    let (history, result, after) := plan.carryOut host state
    (∃ last, ends result last ∧ isReady last after) ∧
      contents after = history.contents (contents state) := by
  induction plan generalizing phase state with
  | done result => exact ⟨⟨phase, h, hready⟩, rfl⟩
  | note happening next ih => exact ih h hready
  | ask question next ih =>
    obtain ⟨hmiddle, hmoment⟩ := hshows phase state question hready h.1
    obtain ⟨hlast, hcontents⟩ := ih _ (h.2 _) hmiddle
    refine ⟨hlast, hcontents.trans ?_⟩
    rw [hmoment]
    rfl

end Turns

/-! ## Caches that hold their artifacts -/

section Held

variable [DatabaseLibrary]

/-- A kind of caches that hold their artifacts themselves: they answer what they hold, and hold what
was stored. -/
structure Cache.IsHeld (isOne : Cache → Prop) (contents : Cache → Bytes → Option Bytes) : Prop where
  lookup : ∀ {cache : Cache} {key : Bytes} {found : Option Bytes} {tree after : Files.Tree},
    isOne cache → (cache.lookup key).on tree = (.ok found, after) → found = contents cache key
  store : ∀ {cache changed : Cache} {key artifact : Bytes} {tree after : Files.Tree},
    isOne cache → (cache.store key artifact).on tree = (.ok changed, after) →
    isOne changed ∧ contents changed = Function.update (contents cache) key (some artifact)

/-- A bucket is a map from byte strings to byte strings in databases that are open: a key is answered
with its value, and what is put is there. It is put under every key that is neither empty nor too
long, unless the value is too long or a file operation fails. -/
structure DatabaseLibrary.IsMap (bucket : Bytes) (isOpen : Database → Prop)
    (contents : Database → Bytes → Option Bytes) : Prop where
  get : ∀ {database : Database}, isOpen database → ∀ key,
    DatabaseLibrary.get database bucket key = .ok (contents database key)
  put : ∀ {database changed : Database} {key value : Bytes} {tree after : Files.Tree},
    isOpen database → (DatabaseLibrary.put database bucket key value).on tree = (.ok changed, after) →
    isOpen changed ∧ contents changed = Function.update (contents database) key (some value)
  failed : ∀ {database : Database} {key value : Bytes} {tree after : Files.Tree} {error : Error},
    isOpen database → key ≠ [] → key.length ≤ longestKey →
    (DatabaseLibrary.put database bucket key value).on tree = (.error error, after) →
    error.IsFault ∨ longestValue < value.length

/-- Databases change nothing but their files, which stay where they are. -/
def DatabaseLibrary.KeepsToFile : Prop :=
  ∀ {database : Database} {bucket key value : Bytes} {tree after : Files.Tree}
    {result : Except Error Database},
    (DatabaseLibrary.put database bucket key value).on tree = (result, after) →
      (after = tree ∨ ∃ content mode,
        after = ((Files.writeFile (path database) content mode).on tree).2) ∧
      ∀ changed, result = .ok changed → path changed = path database

namespace Cache

/-- Caches in memory. -/
def IsMemory : Cache → Prop
  | .memory _ => True
  | _ => False

/-- The artifacts of a cache in memory, by key. -/
def remembered : Cache → Bytes → Option Bytes
  | .memory entries => fun key => entries.lookup key
  | _ => fun _ => none

/-- Caches in databases that are open. -/
def IsRecord (isOpen : DatabaseLibrary.Database → Prop) : Cache → Prop
  | .database opened => isOpen opened
  | _ => False

/-- The artifacts of a cache in a database, by key. -/
def recorded (contents : DatabaseLibrary.Database → Bytes → Option Bytes) :
    Cache → Bytes → Option Bytes
  | .database opened => contents opened
  | _ => fun _ => none

omit [DatabaseLibrary] in
/-- What is assigned is found, and nothing else changes. -/
theorem lookup_assign_eq_update (entries : List (Bytes × Bytes)) (key artifact : Bytes) :
    (fun other => (Association.assign entries key artifact).lookup other)
      = Function.update (fun other => entries.lookup other) key (some artifact) := by
  funext other
  rw [Association.lookup_assign, Function.update_apply]
  by_cases h : other = key <;> simp [h]

/-- What is looked up in memory is the last artifact of the key. -/
theorem lookup_memory (entries : List (Bytes × Bytes)) (key : Bytes) (tree : Files.Tree) :
    ((Cache.memory entries).lookup key).on tree = (.ok (entries.lookup key), tree) := by
  have hsame : (entries.lookup key).map duplicate = entries.lookup key := by
    cases entries.lookup key <;> simp
  change (Except.ok ((entries.lookup key).map duplicate), tree) = _
  rw [hsame]

/-- Storing in memory assigns the artifact to the key. -/
theorem store_memory (entries : List (Bytes × Bytes)) (key artifact : Bytes) (tree : Files.Tree) :
    ((Cache.memory entries).store key artifact).on tree
      = (.ok (.memory (Association.assign entries key artifact)), tree) := by
  change (Except.ok (Cache.memory (Association.assign entries key (duplicate artifact))), tree) = _
  rw [duplicate_eq]

/-- An artifact is found in a database exactly if its slice is not nil, and then it is a copy. -/
theorem lookup_database {opened : DatabaseLibrary.Database} {key : Bytes} {value : Option Bytes}
    (h : DatabaseLibrary.get opened artifactsBucket key = .ok value) (tree : Files.Tree) :
    ((Cache.database opened).lookup key).on tree = (.ok value, tree) := by
  unfold Cache.lookup
  dsimp only
  rw [h]
  cases value with
  | none => rfl
  | some value =>
    change (Except.ok (some (duplicate value)), tree) = _
    rw [duplicate_eq]

/-- Caches in memory hold their artifacts. -/
theorem isMemory_isHeld : IsHeld IsMemory remembered where
  lookup {cache key found tree after} hone h := by
    cases cache with
    | memory entries =>
      rw [lookup_memory] at h
      cases h
      rfl
    | directory path => exact hone.elim
    | database opened => exact hone.elim
  store {cache changed key artifact tree after} hone h := by
    cases cache with
    | memory entries =>
      rw [store_memory] at h
      cases h
      exact ⟨trivial, lookup_assign_eq_update entries key artifact⟩
    | directory path => exact hone.elim
    | database opened => exact hone.elim

/-- Caches in databases hold their artifacts, as far as the library holds what is put. -/
theorem isRecord_isHeld {isOpen : DatabaseLibrary.Database → Prop}
    {contents : DatabaseLibrary.Database → Bytes → Option Bytes}
    (hmap : DatabaseLibrary.IsMap artifactsBucket isOpen contents) :
    IsHeld (IsRecord isOpen) (recorded contents) where
  lookup {cache key found tree after} hone h := by
    cases cache with
    | memory entries => exact hone.elim
    | directory path => exact hone.elim
    | database opened =>
      rw [lookup_database (hmap.get hone key)] at h
      cases h
      rfl
  store {cache changed key artifact tree after} hone h := by
    cases cache with
    | memory entries => exact hone.elim
    | directory path => exact hone.elim
    | database opened =>
      obtain ⟨put, middle, hput, hlast⟩ := Files.bind_eq_ok h
      cases hlast
      exact hmap.put hone (Files.labelled_eq_ok hput)

end Cache

/-! ## Machines -/

namespace Machine

/-- The machine has a cache of a kind. -/
def Has (isOne : Cache → Prop) (machine : Machine) : Prop :=
  ∃ cache, machine.cache = some cache ∧ isOne cache

/-- What the cache of the machine holds. -/
def held (contents : Cache → Bytes → Option Bytes) (machine : Machine) (key : Bytes) :
    Option Bytes :=
  machine.cache.bind fun cache => contents cache key

variable {isOne : Cache → Prop} {contents : Cache → Bytes → Option Bytes}

section Steps

variable (machine : Machine)

/-- Work on files leaves the cache of a machine. -/
theorem attempt_cache {α : Type} (action : Files.Action α) :
    (machine.attempt action).2.cache = machine.cache := by
  unfold attempt
  split
  · next heq => exact congrArg (fun out => out.2.cache) heq.symm
  · next heq => exact congrArg (fun out => out.2.cache) heq.symm

/-- Programs leave the cache of a machine. -/
theorem launch_cache (isCancelled : Bool) (request : Launch.Request) (timeout : Duration) :
    (machine.launch isCancelled request timeout).2.cache = machine.cache := by
  unfold launch
  split <;> rfl

/-- Looking up leaves the cache of a machine. -/
theorem cacheAccess_lookup_cache (key : Bytes) :
    (cacheAccess.lookup key machine).2.cache = machine.cache := by
  unfold cacheAccess
  dsimp only
  split
  · rfl
  · rfl

end Steps

/-- What a machine holds is what its cache holds. -/
theorem held_eq (contents : Cache → Bytes → Option Bytes) {machine : Machine} {cache : Cache}
    (h : machine.cache = some cache) : machine.held contents = contents cache := by
  funext key
  rw [held, h, Option.bind_some]

/-- Storing through the access to a cache that holds its artifacts. -/
theorem cacheAccess_store (hheld : Cache.IsHeld isOne contents) {machine : Machine}
    (hhas : machine.Has isOne) (key artifact : Bytes) :
    let (failure, after) := cacheAccess.store key artifact machine
    after.Has isOne ∧
      after.held contents = (Moment.stored key artifact failure).contents (machine.held contents) := by
  obtain ⟨cache, hcache, hone⟩ := hhas
  simp only [cacheAccess, hcache]
  split
  · next changed after heq =>
    have hresult : ((cache.store key artifact).on machine.tree).1 = .ok changed :=
      congrArg Prod.fst heq
    have hstore : (cache.store key artifact).on machine.tree = (.ok changed, after.tree) :=
      Prod.ext hresult (congrArg (fun out => out.2.tree) heq)
    obtain ⟨hchanged, hcontents⟩ := hheld.store hone hstore
    refine ⟨⟨changed, rfl, hchanged⟩, ?_⟩
    rw [held_eq contents rfl, hcontents, ← held_eq contents hcache]
    rfl
  · next error after heq =>
    have hkept : after.cache = machine.cache := congrArg (·.2.cache) heq.symm
    refine ⟨⟨cache, hkept.trans hcache, hone⟩, ?_⟩
    rw [held_eq contents (hkept.trans hcache), ← held_eq contents hcache]
    rfl

/-- Whatever else happens on a machine whose cache holds its artifacts itself, its contents are what
the builds have stored there. -/
theorem host_showsCache (hheld : Cache.IsHeld isOne contents) (settings : Settings)
    (temporary : Bytes) (environment : List Bytes) (isCancelled : Bool) (toolchain : Toolchain)
    (key : Bytes) :
    (host settings temporary environment true isCancelled).ShowsCache toolchain key
      (fun _ => Has isOne) (held contents) := by
  have hkept {before after : Machine} (hhas : before.Has isOne)
      (hcache : after.cache = before.cache) :
      after.Has isOne ∧ after.held contents = before.held contents := by
    unfold Has held at *
    rw [hcache]
    exact ⟨hhas, rfl⟩
  intro phase machine ask hhas _
  cases ask with
  | createWorkspace jobId => exact hkept hhas rfl
  | writeSource workspace source => exact hkept hhas (machine.attempt_cache _)
  | lookup key => exact hkept hhas (machine.cacheAccess_lookup_cache key)
  | restoreArtifact workspace artifact => exact hkept hhas (machine.attempt_cache _)
  | compile toolchain workspace => exact hkept hhas (machine.launch_cache _ _ _)
  | readArtifact workspace => exact hkept hhas rfl
  | store key artifact => exact cacheAccess_store hheld hhas key artifact
  | execute workspace => exact hkept hhas (machine.launch_cache _ _ _)
  | removeWorkspace workspace => exact hkept hhas (machine.attempt_cache _)

end Machine

end Held

/-! ## A library -/

namespace Database

open Files.Action (FailsByFault)

variable {database : Database} {bucket key value : Bytes} {tree after : Files.Tree}

/-- What is put is brought to the file, unless it is refused. -/
theorem put_cases (database : Database) (bucket key value : Bytes) :
    (∃ error, database.put bucket key value = throw error ∧
      (database.isOpen = true → key ≠ [] → key.length ≤ DatabaseLibrary.longestKey →
        DatabaseLibrary.longestValue < value.length)) ∨
    database.isOpen = true ∧ database.put bucket key value = (do
      (database.assigned bucket key value).save
      return database.assigned bucket key value) := by
  unfold put
  by_cases hopen : database.isOpen = true
  · rw [hopen]
    by_cases hempty : key = []
    · refine .inl ⟨.plain (bytes "key required"), ?_, fun _ hne => absurd hempty hne⟩
      rw [if_neg (by simp), if_pos (by simpa using hempty)]
    by_cases hkey : key.length > DatabaseLibrary.longestKey
    · refine .inl ⟨.plain (bytes "key too large"), ?_,
        fun _ _ hshort => absurd hshort (Nat.not_le.2 hkey)⟩
      rw [if_neg (by simp), if_neg (by simpa using hempty), if_pos hkey]
    by_cases hvalue : value.length > DatabaseLibrary.longestValue
    · refine .inl ⟨.plain (bytes "value too large"), ?_, fun _ _ _ => hvalue⟩
      rw [if_neg (by simp), if_neg (by simpa using hempty), if_neg hkey, if_pos hvalue]
    · refine .inr ⟨rfl, ?_⟩
      rw [if_neg (by simp), if_neg (by simpa using hempty), if_neg hkey, if_neg hvalue]
  · exact .inl ⟨_, if_pos (by simpa using hopen), fun hyes => absurd hyes hopen⟩

/-- Saving a database fails by a fault of the files at most. -/
theorem save_failsByFault (database : Database) : FailsByFault database.save := by
  refine Files.Action.failsByFault_get.bind fun tree => ?_
  split
  · split
    · exact Files.writeFile_failsByFault _ _ _
    · exact Files.Action.failsByFault_pure _
  · exact Files.Action.failsByFault_pure _

/-- Nothing but the file of the database is changed. -/
theorem save_tree (database : Database) (tree : Files.Tree) :
    (database.save.on tree).2 = tree ∨ ∃ content mode,
      (database.save.on tree).2 = ((Files.writeFile database.path content mode).on tree).2 := by
  unfold save
  rw [Files.on_get_bind]
  split
  · split
    · exact .inr ⟨_, _, rfl⟩
    · exact .inl rfl
  · exact .inl rfl

/-- Keys differ behind the name of their bucket too. -/
theorem entryKey_inj {other : Bytes} : entryKey bucket key = entryKey bucket other ↔ key = other :=
  ⟨List.append_cancel_left, congrArg _⟩

section Library

local instance : DatabaseLibrary := library

/-- Buckets of open databases are maps. -/
theorem library_isMap (bucket : Bytes) :
    DatabaseLibrary.IsMap bucket (fun database : Database => database.isOpen = true)
      fun database key => database.entries.lookup (entryKey bucket key) where
  get {database} hopen key := by
    change database.get? bucket key = _
    rw [get?, hopen]
    rfl
  put {database changed key value tree after} hopen hput := by
    change (database.put bucket key value).on tree = _ at hput
    rcases database.put_cases bucket key value with ⟨error, hthrow, -⟩ | ⟨-, hsave⟩
    · rw [hthrow] at hput
      cases hput
    · rw [hsave] at hput
      obtain ⟨_, middle, -, hlast⟩ := Files.bind_eq_ok hput
      cases hlast
      refine ⟨hopen, funext fun other => ?_⟩
      change (Association.assign database.entries (entryKey bucket key) value).lookup _ = _
      rw [Association.lookup_assign, Function.update_apply]
      by_cases heq : other = key
      · simp [heq]
      · simp [heq, entryKey_inj]
  failed {database key value tree after error} hopen hne hshort hput := by
    change (database.put bucket key value).on tree = _ at hput
    rcases database.put_cases bucket key value with ⟨error, -, hlong⟩ | ⟨-, hsave⟩
    · exact .inr (hlong hopen hne hshort)
    · rw [hsave] at hput
      have hfails := (save_failsByFault (database.assigned bucket key value)).bind fun _ =>
        Files.Action.failsByFault_pure (database.assigned bucket key value)
      exact .inl (hfails tree error (congrArg Prod.fst hput))

/-- These databases change nothing but their files. -/
theorem library_keepsToFile : DatabaseLibrary.KeepsToFile := by
  intro database bucket key value tree after result hput
  change (database.put bucket key value).on tree = _ at hput
  rcases database.put_cases bucket key value with ⟨error, hthrow, -⟩ | ⟨-, hsave⟩
  · rw [hthrow] at hput
    cases hput
    exact ⟨.inl rfl, nofun⟩
  · rw [hsave, Files.Action.on_bind] at hput
    have htree := (database.assigned bucket key value).save_tree tree
    rcases hsaved : (database.assigned bucket key value).save.on tree with ⟨saved, last⟩
    rw [hsaved] at hput htree
    cases saved with
    | error error =>
      cases hput
      exact ⟨htree, nofun⟩
    | ok _ =>
      cases hput
      exact ⟨htree, fun _ heq => by cases heq; rfl⟩

end Library

end Database

end Build

end FunctionChain
