import FunctionChain.Command.Configuration
import FunctionChain.Proofs.Text.Cutting
import FunctionChain.Proofs.Text.Order
import Mathlib.Data.List.Nodup

/-!
# The environment of compiled programs

Compiled programs see the variables that the entries of the configuration declare and no others. An
entry has a key, the text before its first equals sign; the entries are read one by one into bindings,
which at each point hold the last entry of every key so far (`Declares`), and the bindings are written
back as texts in order. So a program sees exactly the last entry of each key, as it was given
(`isolatedEnvironment_runEnvironment`).
-/

namespace FunctionChain

namespace Command

/-! ## Entries and their keys -/

/-- The sign between a key and its value. -/
def equals : UInt8 := byte '='

/-- The key of an entry is what stands before its first equals sign. -/
def HasKey (key entry : Bytes) : Prop := equals ∉ key ∧ ∃ value, entry = key ++ equals :: value

/-- An entry without an equals sign, or with nothing before it. -/
def IsBadEntry (entry : Bytes) : Prop := equals ∉ entry ∨ entry.head? = some equals

/-- The entry is the last one in the list with its key. -/
def IsLastOfKey (entries : List Bytes) (entry : Bytes) : Prop :=
  ∃ before after key, entries = before ++ entry :: after ∧ HasKey key entry ∧
    ∀ other ∈ after, ¬ HasKey key other

/-- The key of an entry is what is cut off at the equals sign. -/
theorem hasKey_iff {key entry : Bytes} :
    HasKey key entry ↔ ∃ value, Bytes.cut? entry equals = some (key, value) := by
  simp only [Bytes.cut?_eq_some_iff, HasKey]
  exact ⟨fun ⟨hkey, value, h⟩ => ⟨value, h, hkey⟩, fun ⟨value, h, hkey⟩ => ⟨hkey, value, h⟩⟩

/-- An entry has one key. -/
theorem HasKey.unique {key other entry : Bytes} (h : HasKey key entry) (h' : HasKey other entry) :
    key = other := by
  obtain ⟨value, hvalue⟩ := hasKey_iff.1 h
  obtain ⟨value', hvalue'⟩ := hasKey_iff.1 h'
  cases hvalue.symm.trans hvalue'
  rfl

/-- An entry is a variable just if it has a key that is not empty. -/
theorem runVariable?_eq_some_iff {entry key value : Bytes} :
    runVariable? entry = some (key, value) ↔
      entry = key ++ equals :: value ∧ equals ∉ key ∧ key ≠ [] := by
  rw [← and_assoc, ← Bytes.cut?_eq_some_iff]
  unfold runVariable? equals
  cases hcut : Bytes.cut? entry (byte '=') with
  | none => simp
  | some binding =>
    obtain ⟨_ | ⟨b, head⟩, tail⟩ := binding
    · simp only [Option.some.injEq, Prod.mk.injEq]
      grind
    · simp only [Option.some.injEq, Prod.mk.injEq]
      grind

/-- It is none just if it is a bad entry. -/
theorem runVariable?_eq_none_iff {entry : Bytes} :
    runVariable? entry = none ↔ IsBadEntry entry := by
  by_cases hmem : equals ∈ entry
  · obtain ⟨key, value, rfl, hkey⟩ := List.eq_append_cons_of_mem hmem
    have hsome : (∃ binding, runVariable? (key ++ equals :: value) = some binding) ↔ key ≠ [] := by
      constructor
      · rintro ⟨⟨other, rest⟩, h⟩
        obtain ⟨heq, hother, hne⟩ := runVariable?_eq_some_iff.1 h
        rwa [HasKey.unique ⟨hkey, value, rfl⟩ ⟨hother, rest, heq⟩]
      · exact fun hne => ⟨(key, value), runVariable?_eq_some_iff.2 ⟨rfl, hkey, hne⟩⟩
    have hhead : IsBadEntry (key ++ equals :: value) ↔ key = [] := by
      cases key with
      | nil => simp [IsBadEntry]
      | cons b key =>
        have hb : b ≠ equals := fun heq => hkey (heq ▸ List.mem_cons_self)
        simp [IsBadEntry, hb]
    rw [hhead, ← not_iff_not, ← ne_eq key, ← hsome, ← Option.isSome_iff_exists,
      Option.isSome_iff_ne_none]
  · have hcut : Bytes.cut? entry (byte '=') = none := Bytes.cut?_eq_none_iff.2 hmem
    simp [runVariable?, hcut, IsBadEntry, hmem]

/-! ## Reading the entries -/

/-- The error of a list of entries in which this one is the first malformed one. -/
def malformedEntry (entry : Bytes) : Error :=
  misconfigured (bytes "invalid --run-env entry " ++ Quoted.quote entry
    ++ bytes " (expected KEY=VALUE)")

/-- The first malformed entry is the one that is reported. -/
theorem runVariables_eq_error_iff {bindings : List (Bytes × Bytes)} {entries : List Bytes}
    {error : Error} :
    runVariables bindings entries = .error error ↔
      ∃ before entry after, entries = before ++ entry :: after ∧
        (∀ other ∈ before, ¬ IsBadEntry other) ∧ IsBadEntry entry ∧
        error = malformedEntry entry := by
  induction entries generalizing bindings with
  | nil => simp [runVariables]
  | cons first rest ih =>
    rw [runVariables]
    cases hfirst : runVariable? first with
    | none =>
      have hbad := runVariable?_eq_none_iff.1 hfirst
      constructor
      · rintro ⟨⟩
        exact ⟨[], first, rest, rfl, nofun, hbad, rfl⟩
      · rintro ⟨before, entry, after, heq, hbefore, -, rfl⟩
        cases before with
        | nil =>
          cases heq
          rfl
        | cons other before =>
          cases heq
          exact absurd hbad (hbefore _ List.mem_cons_self)
    | some binding =>
      have hgood : ¬ IsBadEntry first := by
        rw [← runVariable?_eq_none_iff, hfirst]
        exact nofun
      dsimp only
      rw [ih]
      constructor
      · rintro ⟨before, entry, after, rfl, hbefore, hentry, herror⟩
        exact ⟨first :: before, entry, after, rfl, List.forall_mem_cons.2 ⟨hgood, hbefore⟩, hentry,
          herror⟩
      · rintro ⟨before, entry, after, heq, hbefore, hentry, herror⟩
        cases before with
        | nil =>
          cases heq
          exact absurd hentry hgood
        | cons other before =>
          cases heq
          exact ⟨before, entry, after, rfl, (List.forall_mem_cons.1 hbefore).2, hentry, herror⟩

/-- Entries that are all read are not bad. -/
theorem not_isBadEntry_of_runVariables {bindings result : List (Bytes × Bytes)}
    {entries : List Bytes} (h : runVariables bindings entries = .ok result) :
    ∀ entry ∈ entries, ¬ IsBadEntry entry := by
  induction entries generalizing bindings with
  | nil => exact nofun
  | cons first rest ih =>
    rw [runVariables] at h
    split at h
    · next binding hfirst =>
      rw [List.forall_mem_cons, ← runVariable?_eq_none_iff, hfirst]
      exact ⟨nofun, ih h⟩
    · cases h

/-- The last entries of a list with one more entry: that one, and the others with other keys. -/
theorem isLastOfKey_concat_iff {entries : List Bytes} {entry key other : Bytes}
    (hkey : HasKey key entry) :
    IsLastOfKey (entries ++ [entry]) other ↔
      other = entry ∨ IsLastOfKey entries other ∧ ¬ HasKey key other := by
  constructor
  · rintro ⟨before, after, found, heq, hfound, hafter⟩
    rcases List.eq_nil_or_concat after with rfl | ⟨between, last, rfl⟩
    · obtain ⟨-, hlast⟩ := List.append_inj' heq rfl
      exact .inl (List.singleton_inj.1 hlast).symm
    · rw [List.concat_eq_append] at heq hafter
      rw [List.forall_mem_append, List.forall_mem_singleton] at hafter
      rw [← List.cons_append, ← List.append_assoc] at heq
      obtain ⟨rfl, hlast⟩ := List.append_inj' heq rfl
      obtain rfl := List.singleton_inj.1 hlast
      refine .inr ⟨⟨before, between, found, rfl, hfound, hafter.1⟩, fun hother => hafter.2 ?_⟩
      rwa [hfound.unique hother]
  · rintro (rfl | ⟨⟨before, after, found, rfl, hfound, hafter⟩, hother⟩)
    · exact ⟨entries, [], key, rfl, hkey, nofun⟩
    · refine ⟨before, after ++ [entry], found, by simp, hfound, ?_⟩
      rw [List.forall_mem_append, List.forall_mem_singleton]
      exact ⟨hafter, fun hentry => hother (hentry.unique hkey ▸ hfound)⟩

/-- The bindings have each key once, with the value of its last entry. -/
structure Declares (entries : List Bytes) (bindings : List (Bytes × Bytes)) : Prop where
  distinct : (bindings.map (·.1)).Nodup
  last : ∀ {key value}, (key, value) ∈ bindings ↔
    equals ∉ key ∧ IsLastOfKey entries (key ++ equals :: value)

/-- No entries declare nothing. -/
theorem declares_nil : Declares [] [] where
  distinct := .nil
  last := by simp [IsLastOfKey]

/-- One more entry. -/
theorem Declares.concat {entries : List Bytes} {bindings : List (Bytes × Bytes)}
    (h : Declares entries bindings) {entry : Bytes} {binding : Bytes × Bytes}
    (hentry : runVariable? entry = some binding) :
    Declares (entries ++ [entry]) (setVariable bindings binding) := by
  obtain ⟨key, value⟩ := binding
  obtain ⟨rfl, hkey, -⟩ := runVariable?_eq_some_iff.1 hentry
  have hhas : HasKey key (key ++ equals :: value) := ⟨hkey, value, rfl⟩
  constructor
  · rw [setVariable, List.map_append, List.map_singleton, List.nodup_append']
    refine ⟨h.distinct.sublist (List.filter_sublist.map _), List.nodup_singleton _, ?_⟩
    simp
  · intro other text
    have hother : equals ∉ other → (HasKey key (other ++ equals :: text) ↔ other = key) := by
      refine fun hnot => ⟨fun hk => HasKey.unique ⟨hnot, text, rfl⟩ hk, ?_⟩
      rintro rfl
      exact ⟨hnot, text, rfl⟩
    have hsame : equals ∉ other →
        (other ++ equals :: text = key ++ equals :: value ↔ other = key ∧ text = value) := by
      intro hnot
      refine ⟨fun heq => ?_, fun ⟨hk, hv⟩ => by rw [hk, hv]⟩
      obtain rfl := HasKey.unique ⟨hnot, text, rfl⟩ ⟨hkey, value, heq⟩
      simpa using heq
    rw [isLastOfKey_concat_iff hhas]
    simp only [setVariable, List.mem_append, List.mem_filter, List.mem_singleton, h.last,
      Prod.mk.injEq, bne_iff_ne]
    grind

/-- Reading entries: the bindings hold the last entry of every key. -/
theorem Declares.append {before rest : List Bytes} {bindings result : List (Bytes × Bytes)}
    (h : Declares before bindings) (hrun : runVariables bindings rest = .ok result) :
    Declares (before ++ rest) result := by
  induction rest generalizing before bindings with
  | nil =>
    cases hrun
    rwa [List.append_nil]
  | cons entry rest ih =>
    rw [runVariables] at hrun
    split at hrun
    · next binding hentry =>
      rw [List.append_cons]
      exact ih (h.concat hentry) hrun
    · cases hrun

/-- Entries that are all read declare their bindings. -/
theorem declares_runEnvironment {entries : List Bytes} {bindings : List (Bytes × Bytes)}
    (h : runEnvironment entries = .ok bindings) : Declares entries bindings :=
  declares_nil.append h

/-! ## Writing the bindings back -/

/-- Bindings in any order are written back as the last entry of every key. -/
theorem Declares.mem_isolatedEnvironment_iff {entries : List Bytes}
    {bindings order : List (Bytes × Bytes)} (h : Declares entries bindings)
    (horder : order.Perm bindings) {entry : Bytes} :
    entry ∈ Build.isolatedEnvironment order ↔ IsLastOfKey entries entry := by
  rw [Build.isolatedEnvironment, Bytes.sorted, List.mem_mergeSort, List.mem_map]
  constructor
  · rintro ⟨⟨key, value⟩, hmem, rfl⟩
    exact (h.last.1 (horder.mem_iff.1 hmem)).2
  · intro hlast
    obtain ⟨before, after, key, heq, ⟨hkey, value, rfl⟩, hafter⟩ := hlast
    refine ⟨(key, value), horder.mem_iff.2 (h.last.2 ⟨hkey, ?_⟩), rfl⟩
    exact ⟨before, after, key, heq, ⟨hkey, value, rfl⟩, hafter⟩

/-- No two bindings are written alike. -/
theorem Declares.pairwise_isolatedEnvironment {entries : List Bytes}
    {bindings order : List (Bytes × Bytes)} (h : Declares entries bindings)
    (horder : order.Perm bindings) :
    (Build.isolatedEnvironment order).Pairwise fun s t => Bytes.before s t = true := by
  apply Bytes.pairwise_before_sorted
  have hnodup : order.Nodup := horder.nodup_iff.2 h.distinct.of_map
  refine hnodup.map_on ?_
  rintro ⟨key, value⟩ hmem ⟨other, text⟩ hother heq
  have hkey := (h.last.1 (horder.mem_iff.1 hmem)).1
  have hkey' := (h.last.1 (horder.mem_iff.1 hother)).1
  obtain rfl := HasKey.unique ⟨hkey, value, rfl⟩ ⟨hkey', text, heq⟩
  simpa using heq

/-- **Programs see the declared environment.** A list of entries is refused just if one of them is
malformed, and the first such entry is reported. Otherwise the bindings have each key once, and in
whatever order they are gone through, the environment of a program is in strict bytewise order and
holds the last entry of each key, as it was given, and nothing else. -/
theorem isolatedEnvironment_runEnvironment (entries : List Bytes) :
    ((∃ error, runEnvironment entries = .error error) ↔ ∃ entry ∈ entries, IsBadEntry entry) ∧
    (∀ error, runEnvironment entries = .error error → ∃ before entry after,
      entries = before ++ entry :: after ∧ (∀ other ∈ before, ¬ IsBadEntry other) ∧
        IsBadEntry entry ∧ error = malformedEntry entry) ∧
    ∀ bindings, runEnvironment entries = .ok bindings →
      (bindings.map (·.1)).Nodup ∧ ∀ order, order.Perm bindings →
        (Build.isolatedEnvironment order).Pairwise (fun s t => Bytes.before s t = true) ∧
        ∀ entry, entry ∈ Build.isolatedEnvironment order ↔ IsLastOfKey entries entry := by
  refine ⟨⟨?_, ?_⟩, fun error h => runVariables_eq_error_iff.1 h, fun bindings h => ?_⟩
  · rintro ⟨error, h⟩
    obtain ⟨before, entry, after, rfl, -, hentry, -⟩ := runVariables_eq_error_iff.1 h
    exact ⟨entry, by simp, hentry⟩
  · rintro ⟨entry, hmem, hentry⟩
    cases h : runEnvironment entries with
    | error error => exact ⟨error, rfl⟩
    | ok bindings => exact absurd hentry (not_isBadEntry_of_runVariables h entry hmem)
  · have hdeclares := declares_runEnvironment h
    exact ⟨hdeclares.distinct, fun order horder =>
      ⟨hdeclares.pairwise_isolatedEnvironment horder, fun entry =>
        hdeclares.mem_isolatedEnvironment_iff horder⟩⟩

/-- A value with equals signs of its own, an empty one, and a key that is given twice. -/
theorem isolatedEnvironment_of_rebound :
    let entries := [bytes "B=1", bytes "A=x=y=", bytes "B=", bytes "A-=0"]
    let bindings := [(bytes "A", bytes "x=y="), (bytes "B", []), (bytes "A-", bytes "0")]
    let order := bindings.reverse
    runEnvironment entries = .ok bindings ∧ order.Perm bindings ∧
      (Build.isolatedEnvironment order).Pairwise (fun s t => Bytes.before s t = true) ∧
      bytes "B=" ∈ Build.isolatedEnvironment order ∧ IsLastOfKey entries (bytes "B=") ∧
      bytes "B=1" ∉ Build.isolatedEnvironment order ∧ ¬ IsLastOfKey entries (bytes "B=1") := by
  intro entries bindings order
  have hrun : runEnvironment entries = .ok bindings := by rfl
  have horder : order.Perm bindings := List.reverse_perm bindings
  obtain ⟨-, -, hseen⟩ := isolatedEnvironment_runEnvironment entries
  obtain ⟨hpairwise, hmem⟩ := (hseen bindings hrun).2 order horder
  have hlast : bytes "B=" ∈ Build.isolatedEnvironment order := List.mem_mergeSort.2 (by decide)
  have hfirst : bytes "B=1" ∉ Build.isolatedEnvironment order :=
    mt List.mem_mergeSort.1 (by decide)
  exact ⟨hrun, horder, hpairwise, hlast, (hmem _).1 hlast, hfirst, mt (hmem _).2 hfirst⟩

end Command

end FunctionChain
