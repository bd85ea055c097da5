import FunctionChain.Proofs.Build.CacheFiles
import FunctionChain.Proofs.Build.Contents

/-!
# Any cache will do

All caches answer the same (`caches_interchangeable`): a key that was asked for is answered with the
artifact that was last stored under it, and with none if there was none. What a cache knows is a map
from keys to artifacts, and each of them *simulates* that map step by step (`Simulates`), until a file
operation fails. A cache in memory uses no files and never fails. A database has what its library
holds: that is assumed to be a map from byte strings to byte strings.
-/

namespace FunctionChain

namespace Build

namespace Cache

open Files (Action Tree)
open Files.Action (FailsByFault)

/-! ## What a cache should answer -/

/-- What is asked of a cache. -/
inductive Step where
  | put (key artifact : Bytes)
  | get (key : Bytes)

/-- The key of a step. -/
def Step.key : Step → Bytes
  | .put key _ | .get key => key

/-- The artifact that a step stores under a key, if it does. -/
def Step.artifact? (key : Bytes) : Step → Option Bytes
  | .put other artifact => if other = key then some artifact else none
  | .get _ => none

/-- The artifact that was last stored under a key. -/
def lastPut? (steps : List Step) (key : Bytes) : Option Bytes :=
  steps.reverse.findSome? (Step.artifact? key)

/-- What is answered to steps that come after others: to each question the artifact that was last
stored under its key. -/
def replies (before : List Step) : List Step → List (Option Bytes)
  | [] => []
  | .put key artifact :: rest => replies (before ++ [.put key artifact]) rest
  | .get key :: rest => lastPut? before key :: replies (before ++ [.get key]) rest

/-- What a cache answers to steps, one after the other. -/
def run [DatabaseLibrary] : Cache → List Step → Action (List (Option Bytes))
  | _, [] => pure []
  | cache, .put key artifact :: rest => do
    let changed ← cache.store key artifact
    run changed rest
  | cache, .get key :: rest => do
    let found ← cache.lookup key
    let others ← run cache rest
    return found :: others

/-- Only a step that stores something under the key has an artifact of it. -/
theorem Step.artifact?_eq_some_iff {key artifact : Bytes} {step : Step} :
    step.artifact? key = some artifact ↔ step = .put key artifact := by
  cases step <;> simp [Step.artifact?]

/-- All other steps have none. -/
theorem Step.artifact?_eq_none_iff {key : Bytes} {step : Step} :
    step.artifact? key = none ↔ ∀ artifact, .put key artifact ≠ step := by
  cases step <;> simp [Step.artifact?, eq_comm]

/-- Nothing was stored last just if nothing was stored. -/
theorem lastPut?_eq_none_iff {steps : List Step} {key : Bytes} :
    lastPut? steps key = none ↔ ∀ artifact, .put key artifact ∉ steps := by
  simp only [lastPut?, List.findSome?_eq_none_iff, List.mem_reverse, Step.artifact?_eq_none_iff]
  exact ⟨fun h artifact hmem => h _ hmem artifact rfl, fun h step hmem artifact heq =>
    h artifact (heq ▸ hmem)⟩

/-- It was stored, and no other one later. -/
theorem lastPut?_eq_some_iff {steps : List Step} {key artifact : Bytes} :
    lastPut? steps key = some artifact ↔ ∃ earlier later,
      steps = earlier ++ .put key artifact :: later ∧ ∀ other, .put key other ∉ later := by
  simp only [lastPut?, List.findSome?_eq_some_iff, Step.artifact?_eq_some_iff,
    Step.artifact?_eq_none_iff]
  constructor
  · rintro ⟨later, _, earlier, hsteps, rfl, hlater⟩
    refine ⟨earlier.reverse, later.reverse, ?_, fun other hmem => ?_⟩
    · rw [← List.reverse_reverse steps, hsteps]
      simp
    · exact hlater _ (List.mem_reverse.1 hmem) other rfl
  · rintro ⟨earlier, later, rfl, hlater⟩
    refine ⟨later.reverse, _, earlier.reverse, by simp, rfl, fun step hmem other heq => ?_⟩
    exact hlater other (heq ▸ List.mem_reverse.1 hmem)

/-- What is stored is what was stored last. -/
theorem lastPut?_put (before : List Step) (key artifact : Bytes) :
    lastPut? (before ++ [.put key artifact])
      = Function.update (lastPut? before) key (some artifact) := by
  funext other
  by_cases h : other = key
  · subst h
    simp [lastPut?, Step.artifact?]
  · simp [lastPut?, Step.artifact?, Function.update_of_ne h, Ne.symm h]

/-- Looking something up stores nothing. -/
theorem lastPut?_get (before : List Step) (key : Bytes) :
    lastPut? (before ++ [.get key]) = lastPut? before := by
  funext other
  simp [lastPut?, List.findSome?_cons, Step.artifact?]

section

variable [DatabaseLibrary]

/-! ## Simulation -/

/-- `Simulates relation mayFail`: a cache that stands in the relation to what is known answers a key
with what is known of it, and stands in the relation to what is known after an artifact has been
stored, unless a step fails with an error that is allowed for there. -/
structure Simulates (relation : Cache → Tree → (Bytes → Option Bytes) → Prop)
    (mayFail : Step → Error → Prop) : Prop where
  lookup : ∀ {cache : Cache} {tree : Tree} {known : Bytes → Option Bytes} {key : Bytes},
    relation cache tree known → IsKey key →
    (cache.lookup key).on tree = (.ok (known key), tree) ∨
      ∃ error, (cache.lookup key).on tree = (.error error, tree) ∧ mayFail (.get key) error
  stored : ∀ {cache changed : Cache} {tree after : Tree} {known : Bytes → Option Bytes}
    {key artifact : Bytes}, relation cache tree known → IsKey key →
    (cache.store key artifact).on tree = (.ok changed, after) →
    relation changed after (Function.update known key (some artifact))
  failed : ∀ {cache : Cache} {tree after : Tree} {known : Bytes → Option Bytes}
    {key artifact : Bytes} {error : Error}, relation cache tree known → IsKey key →
    (cache.store key artifact).on tree = (.error error, after) → mayFail (.put key artifact) error

/-- What comes of steps: the answers that they should have, or an error that is allowed for. -/
def Comes (mayFail : Error → Prop) (answers : List (Option Bytes)) :
    Except Error (List (Option Bytes)) → Prop
  | .ok result => result = answers
  | .error error => mayFail error

omit [DatabaseLibrary] in
/-- What comes with few errors comes with more of them allowed. -/
theorem Comes.imp {mayFail mayFail' : Error → Prop} {answers : List (Option Bytes)}
    {result : Except Error (List (Option Bytes))} (h : Comes mayFail answers result)
    (himp : ∀ error, mayFail error → mayFail' error) : Comes mayFail' answers result := by
  cases result with
  | ok answers => exact h
  | error error => exact himp error h

/-- **Simulation of runs.** What a cache answers to steps with keys is what it should answer, or one of
the steps has failed. -/
theorem Simulates.run {relation : Cache → Tree → (Bytes → Option Bytes) → Prop}
    {mayFail : Step → Error → Prop} (h : Simulates relation mayFail) {steps : List Step}
    (hkeys : ∀ step ∈ steps, IsKey step.key) {cache : Cache} {tree : Tree} {before : List Step}
    (hrelation : relation cache tree (lastPut? before)) :
    Comes (fun error => ∃ step ∈ steps, mayFail step error) (replies before steps)
      ((cache.run steps).on tree).1 := by
  -- A step moves from what is to come to what was before, so the past is generalized.
  induction steps generalizing cache tree before with
  | nil => exact rfl
  | cons step rest ih =>
    obtain ⟨hkey, hrestKeys⟩ := List.forall_mem_cons.1 hkeys
    have hlater {error : Error} : (∃ other ∈ rest, mayFail other error) →
        ∃ other ∈ step :: rest, mayFail other error :=
      fun ⟨other, hmem, hfails⟩ => ⟨other, List.mem_cons_of_mem _ hmem, hfails⟩
    cases step with
    | put key artifact =>
      dsimp only [Step.key] at hkey
      rw [Cache.run, Action.on_bind]
      rcases hstore : (cache.store key artifact).on tree with ⟨result, after⟩
      cases result with
      | error error => exact ⟨_, List.mem_cons_self, h.failed hrelation hkey hstore⟩
      | ok changed =>
        have hchanged := h.stored hrelation hkey hstore
        rw [← lastPut?_put] at hchanged
        exact (ih hrestKeys hchanged).imp fun _ => hlater
    | get key =>
      dsimp only [Step.key] at hkey
      rw [Cache.run, Action.on_bind]
      rcases h.lookup hrelation hkey with hlookup | ⟨error, hlookup, hfails⟩
      · rw [hlookup]
        dsimp only
        rw [← lastPut?_get before key] at hrelation
        have hrest := ih hrestKeys hrelation
        rw [Action.on_bind]
        generalize (cache.run rest).on tree = outcome at hrest ⊢
        obtain ⟨result, after⟩ := outcome
        cases result with
        | error error => exact hlater hrest
        | ok others =>
          have hothers : others = replies (before ++ [.get key]) rest := hrest
          rw [hothers]
          exact rfl
      · rw [hlookup]
        exact ⟨_, List.mem_cons_self, hfails⟩

/-! ## The caches -/

/-- A cache in memory has the artifacts that are known. -/
def Remembers (cache : Cache) (_ : Tree) (known : Bytes → Option Bytes) : Prop :=
  IsMemory cache ∧ remembered cache = known

/-- A cache in an open database has them. -/
def Records (isOpen : DatabaseLibrary.Database → Prop)
    (contents : DatabaseLibrary.Database → Bytes → Option Bytes) (cache : Cache) (_ : Tree)
    (known : Bytes → Option Bytes) : Prop :=
  IsRecord isOpen cache ∧ recorded contents cache = known

/-- What becomes of the artifacts that a cache holds when one more is stored. -/
theorem IsHeld.stored {isOne : Cache → Prop} {contents : Cache → Bytes → Option Bytes}
    (h : IsHeld isOne contents) {cache changed : Cache} {known : Bytes → Option Bytes}
    {key artifact : Bytes} {tree after : Tree} (hcache : isOne cache ∧ contents cache = known)
    (hstore : (cache.store key artifact).on tree = (.ok changed, after)) :
    isOne changed ∧ contents changed = Function.update known key (some artifact) := by
  obtain ⟨hone, rfl⟩ := hcache
  exact h.store hone hstore

/-- A cache in memory simulates what is known, and nothing fails in it. -/
theorem remembers_simulates : Simulates Remembers fun _ _ => False where
  lookup {cache tree known key} hrelation _ := by
    obtain ⟨hone, rfl⟩ := hrelation
    cases cache with
    | memory entries => exact .inl (lookup_memory entries key tree)
    | directory path => exact hone.elim
    | database opened => exact hone.elim
  stored hrelation _ hstore := isMemory_isHeld.stored hrelation hstore
  failed {cache tree after known key artifact error} hrelation _ hstore := by
    obtain ⟨hone, -⟩ := hrelation
    cases cache with
    | memory entries =>
      rw [store_memory] at hstore
      cases hstore
    | directory path => exact hone.elim
    | database opened => exact hone.elim

/-- A file operation fails, or the artifact is too long for a database. -/
def FailsAsDatabase : Step → Error → Prop
  | .put _ artifact, error => error.IsFault ∨ DatabaseLibrary.longestValue < artifact.length
  | .get _, error => error.IsFault

/-- A cache in a database simulates what is known, as far as its bucket is a map, unless a file
operation fails or an artifact is too long. -/
theorem records_simulates {isOpen : DatabaseLibrary.Database → Prop}
    {contents : DatabaseLibrary.Database → Bytes → Option Bytes}
    (hmap : DatabaseLibrary.IsMap artifactsBucket isOpen contents) :
    Simulates (Records isOpen contents) FailsAsDatabase where
  lookup {cache tree known key} hrelation _ := by
    obtain ⟨hone, rfl⟩ := hrelation
    cases cache with
    | memory entries => exact hone.elim
    | directory path => exact hone.elim
    | database opened => exact .inl (lookup_database (hmap.get hone key) tree)
  stored hrelation _ hstore := (isRecord_isHeld hmap).stored hrelation hstore
  failed {cache tree after known key artifact error} hrelation hkey hstore := by
    obtain ⟨hone, -⟩ := hrelation
    cases cache with
    | memory entries => exact hone.elim
    | directory path => exact hone.elim
    | database opened =>
      have hne : key ≠ [] := List.ne_nil_of_length_pos (hkey.length ▸ by decide)
      have hshort : key.length ≤ DatabaseLibrary.longestKey := hkey.length ▸ by decide
      unfold Cache.store at hstore
      dsimp only at hstore
      rw [Action.on_bind, Action.on_labelled] at hstore
      rcases hput : (DatabaseLibrary.put opened artifactsBucket key artifact).on tree
        with ⟨put, last⟩
      rw [hput] at hstore
      cases put with
      | ok changed => cases hstore
      | error cause =>
        cases hstore
        exact (hmap.failed hone hne hshort hput : cause.IsFault ∨ _)

/-- A cache directory simulates what is known, unless a file operation fails. -/
theorem stocks_simulates (directory : Bytes) :
    Simulates (fun cache tree known => cache = .directory directory ∧ Stocks directory tree known)
      fun _ => Error.IsFault where
  lookup := by
    rintro _ tree known key ⟨rfl, hstocks⟩ hkey
    exact hstocks.lookup hkey
  stored := by
    rintro _ changed tree after known key artifact ⟨rfl, hstocks⟩ hkey hstore
    exact hstocks.store hkey hstore
  failed := by
    rintro _ tree after known key artifact error ⟨rfl, -⟩ - hstore
    exact store_failsByFault directory key artifact tree error (congrArg Prod.fst hstore)

/-- **Interchangeable caches.** The keys of sources are keys. Caches that have nothing at first answer
any steps with keys alike, unless a file operation fails: with the artifact that was last stored, and
with none just if there was none. A database is taken for a map from byte strings to byte strings, and
takes no artifacts of 2 GiB. In a cache directory no key has the file of another, nor a temporary file
that has the path of one; directories aside at most the file of its key has changed when an artifact has
been stored, and nothing has if that fails. -/
theorem caches_interchangeable (steps : List Step) (hkeys : ∀ step ∈ steps, IsKey step.key) :
    (∀ tree : Tree, (((Cache.memory []).run steps).on tree).1 = .ok (replies [] steps)) ∧
    (∀ (directory : Bytes) (tree : Tree), IsVacant directory tree →
      Comes Error.IsFault (replies [] steps)
        (((Cache.directory directory).run steps).on tree).1) ∧
    (∀ (isOpen : DatabaseLibrary.Database → Prop)
      (contents : DatabaseLibrary.Database → Bytes → Option Bytes),
      DatabaseLibrary.IsMap artifactsBucket isOpen contents →
      ∀ (opened : DatabaseLibrary.Database) (tree : Tree), isOpen opened →
        (∀ key, contents opened key = none) →
        Comes (fun error => error.IsFault ∨ ∃ key artifact, .put key artifact ∈ steps ∧
            DatabaseLibrary.longestValue < artifact.length) (replies [] steps)
          (((Cache.database opened).run steps).on tree).1) ∧
    (∀ (before : List Step) (key : Bytes),
      (lastPut? before key = none ↔ ∀ artifact, .put key artifact ∉ before) ∧
      ∀ artifact, lastPut? before key = some artifact ↔ ∃ earlier later,
        before = earlier ++ .put key artifact :: later ∧ ∀ other, .put key other ∉ later) ∧
    (∀ (toolchain : Toolchain) (source : Bytes), IsKey (CacheKey.compute toolchain source)) ∧
    (∀ directory key other : Bytes, IsKey key → IsKey other →
      (entryPath directory key = entryPath directory other → key = other) ∧
      ∀ number, Files.inside (Path.parent (entryPath directory key))
        (Path.base (entryPath directory key) ++ bytes ".tmp." ++ Decimal.ofNat number)
          ≠ entryPath directory other) ∧
    ∀ (directory key artifact : Bytes) (tree after : Tree) (result : Except Error Cache),
      ((Cache.directory directory).store key artifact).on tree = (result, after) →
      ∃ middle, Files.AddsDirectories tree middle ∧
        ((∃ error, result = .error error) ∧ Tree.Alike middle after ∨
          result = .ok (.directory directory) ∧
          ∃ location, middle.locateName (entryPath directory key) = .ok location ∧
            Files.IsWritten middle location (.file 0o644 artifact) after) := by
  refine ⟨fun tree => ?_, fun directory tree hvacant => ?_,
    fun isOpen contents hmap opened tree hopen hempty => ?_,
    fun before key => ⟨lastPut?_eq_none_iff, fun artifact => lastPut?_eq_some_iff⟩, isKey_compute,
    fun directory key other hkey hother =>
      ⟨entryPath_inj directory hkey hother, temporary_ne_entryPath directory hkey hother⟩,
    fun directory key artifact tree after result => store_changes⟩
  · have hcomes := @Simulates.run _ _ _ remembers_simulates steps hkeys (.memory []) tree []
      ⟨trivial, rfl⟩
    generalize (((Cache.memory []).run steps).on tree).1 = result at hcomes ⊢
    cases result with
    | error error =>
      obtain ⟨_, -, hno⟩ := hcomes
      exact hno.elim
    | ok answers => exact congrArg Except.ok hcomes
  · exact (@Simulates.run _ _ _ (stocks_simulates directory) steps hkeys (.directory directory)
      tree [] ⟨rfl, hvacant.stocks⟩).imp fun _ ⟨_, _, hfault⟩ => hfault
  · refine (@Simulates.run _ _ _ (records_simulates hmap) steps hkeys (.database opened) tree []
      ⟨hopen, funext hempty⟩).imp ?_
    rintro error ⟨⟨key, artifact⟩ | key, hmem, hfails⟩
    · exact hfails.imp_right fun hlong => ⟨key, artifact, hmem, hlong⟩
    · exact .inl hfails

end

namespace Sample

local instance : DatabaseLibrary := Database.library

/-- The key of one digit again and again. -/
def repeated (b : UInt8) : Bytes := List.replicate 64 b

/-- One key is asked for before and after it has been given two artifacts, of which one is empty, and
another one in between. -/
def steps : List Step :=
  [.get (repeated (byte 'a')), .put (repeated (byte 'a')) [], .get (repeated (byte 'a')),
    .put (repeated (byte 'b')) (bytes "x"), .put (repeated (byte 'a')) (bytes "y"),
    .get (repeated (byte 'a')), .get (repeated (byte 'b'))]

/-- What a cache on an empty tree answers to the steps. -/
def answers (cache : Cache) : Except Error (List (Option Bytes)) :=
  ((cache.run steps).on Tree.empty).1

/-- In a new directory and in a new database it goes as in memory. -/
theorem caches_interchangeable_new :
    answers (.memory []) = .ok [none, some [], some (bytes "y"), some (bytes "x")] ∧
      answers (.directory (bytes "/c")) = .ok [none, some [], some (bytes "y"), some (bytes "x")] ∧
      answers (.database ⟨bytes "/db", [], true⟩)
        = .ok [none, some [], some (bytes "y"), some (bytes "x")] := by
  have hkey (b : UInt8) (hb : byte 'a' ≤ b ∧ b ≤ byte 'f') : IsKey (repeated b) :=
    ⟨List.length_replicate, fun _ hmem => .inr (List.eq_of_mem_replicate hmem ▸ hb)⟩
  have hkeys : ∀ step ∈ steps, IsKey step.key := by
    simp only [steps, List.forall_mem_cons, Step.key]
    simp [hkey (byte 'a') (by decide), hkey (byte 'b') (by decide)]
  have hvacant : IsVacant (bytes "/c") Tree.empty :=
    ⟨by decide, fun root _ name => by simp [Tree.isTaken, Tree.get?, Tree.link?, Tree.empty]⟩
  obtain ⟨hmemory, hdirectory, hdatabase, -⟩ := caches_interchangeable steps hkeys
  have hreplies : replies [] steps
      = [none, some [], some (bytes "y"), some (bytes "x")] := by
    decide +kernel
  rw [hreplies] at hmemory hdirectory hdatabase
  -- What comes of the steps is as it should be, as long as they come to an end.
  have hends {mayFail : Error → Prop} {result : Except Error (List (Option Bytes))}
      (hcomes : Comes mayFail [none, some [], some (bytes "y"), some (bytes "x")] result)
      (hworks : result.toBool = true) :
      result = .ok [none, some [], some (bytes "y"), some (bytes "x")] := by
    cases result with
    | error error => cases hworks
    | ok answers => exact congrArg Except.ok hcomes
  refine ⟨hmemory Tree.empty, ?_, ?_⟩
  · exact hends (hdirectory (bytes "/c") Tree.empty hvacant) (by decide +kernel)
  · exact hends (hdatabase _ _ (Database.library_isMap artifactsBucket) _ Tree.empty rfl
      fun _ => rfl) (by decide +kernel)

end Sample

end Cache

end Build

end FunctionChain
