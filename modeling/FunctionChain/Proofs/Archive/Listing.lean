import FunctionChain.Proofs.Archive.History
import FunctionChain.Proofs.Text.Order
import Mathlib.Data.List.Dedup

/-!
# Listing the archive

The archive is listed by the names of its directories, in order, without the white space around
them. An id may have white space around it, so the listing is that of the trimmed ids: it is exact
just if no id that was saved has any (`jobIds_saved`). Otherwise an id is listed under which there
is no job, or another one, and two jobs may be listed under the same.
-/

namespace FunctionChain

namespace Archive

open Files (Tree Location)

/-- An id does not vanish when white space is trimmed. -/
theorem IsJobId.trimmed_ne_nil {id : Bytes} (h : IsJobId id) : Blank.trimmed id ≠ [] := by
  have hblank := h.notBlank
  rwa [Blank.isAllBlank, List.isEmpty_eq_false_iff] at hblank

/-- The names are the ids, each once and in order. -/
structure ListsExactly (names ids : List Bytes) : Prop where
  ordered : names.Pairwise fun s t => Bytes.before s t = true
  mem_iff : ∀ id, id ∈ names ↔ id ∈ ids

/-- A listing of the trimmed ids is exact just if no id is changed by that. -/
theorem listsExactly_iff {names ids : List Bytes}
    (hordered : names.Pairwise fun s t => Bytes.atMost s t = true)
    (hperm : names.Perm (ids.dedup.map Blank.trimmed)) :
    ListsExactly names ids ↔ ∀ id ∈ ids, Blank.trimmed id = id := by
  constructor
  · intro hexact id hmem
    have hlisted := hperm.mem_iff.1 ((hexact.mem_iff id).2 hmem)
    obtain ⟨other, -, rfl⟩ := List.mem_map.1 hlisted
    exact Blank.trimmed_trimmed other
  · intro hsame
    have hmap : ids.dedup.map Blank.trimmed = ids.dedup :=
      List.map_congr_left (fun id hmem => hsame id (List.mem_dedup.1 hmem)) |>.trans (List.map_id _)
    rw [hmap] at hperm
    refine ⟨?_, fun id => hperm.mem_iff.trans List.mem_dedup⟩
    -- Of two different names in order the first stands before the second.
    have hdifferent : names.Pairwise (· ≠ ·) := hperm.nodup_iff.2 (List.nodup_dedup ids)
    refine (hordered.and hdifferent).imp fun {s t} ⟨hatMost, hne⟩ => ?_
    rw [Bytes.atMost, Bool.not_eq_true'] at hatMost
    cases hbefore : Bytes.before s t with
    | true => rfl
    | false => exact absurd (Bytes.eq_of_not_before hbefore hatMost) hne

namespace Store

namespace HoldsJobs

variable {store : Store} {tree : Tree} {root : Location} {jobs : Jobs}

/-- The directory of jobs holds a directory for each job, and nothing else. -/
theorem mem_children_iff (h : HoldsJobs store tree root jobs) {id : Bytes} :
    id ∈ (tree.children root).map (·.1) ↔ jobs id ≠ none := by
  rw [List.mem_map]
  constructor
  · rintro ⟨⟨_, node⟩, hmem, rfl⟩ hnone
    cases (h.absent hnone).symm.trans (h.once.mem_children_iff.1 hmem)
  · intro hsome
    obtain ⟨files, hfiles⟩ := Option.ne_none_iff_exists'.1 hsome
    obtain ⟨mode, hmode⟩ := (h.present hfiles).2.directory
    exact ⟨(id, .directory mode), h.once.mem_children_iff.2 hmode, rfl⟩

/-- What is in the directory of jobs are directories with ids. -/
theorem isJob_of_mem_children (h : HoldsJobs store tree root jobs) {id : Bytes} {node : Files.Node}
    (hmem : (id, node) ∈ tree.children root) : node.isDirectory = true ∧ IsJobId id := by
  obtain ⟨files, hfiles⟩ :=
    Option.ne_none_iff_exists'.1 (h.mem_children_iff.1 (List.mem_map_of_mem hmem))
  obtain ⟨hid, hholds⟩ := h.present hfiles
  obtain ⟨mode, hmode⟩ := hholds.directory
  cases (h.once.mem_children_iff.1 hmem).symm.trans hmode
  exact ⟨rfl, hid⟩

/-- The listing is that of the trimmed names of the directories. -/
theorem on_jobIds (h : HoldsJobs store tree root jobs) :
    store.jobIds.on tree
      = (.ok (Bytes.sorted (((tree.children root).map (·.1)).map Blank.trimmed)), tree) := by
  obtain ⟨mode, hmode⟩ := h.directory
  have hstat : tree.stat store.jobsPath = .ok (.directory mode) :=
    Files.stat_eq_ok_iff.2 ⟨root, h.leads, hmode⟩
  have hread : (Files.readDirectory store.jobsPath).on tree = (.ok (tree.children root), tree) := by
    rw [Files.readDirectory, Files.on_get_bind, h.leads]
    dsimp only
    rw [hmode]
    rfl
  have hdirectories : (tree.children root).filter (·.2.isDirectory) = tree.children root :=
    List.filter_eq_self.2 fun _ hmem => (h.isJob_of_mem_children hmem).1
  have hnames : ((tree.children root).map fun child => Blank.trimmed child.1).filter (!·.isEmpty)
      = ((tree.children root).map (·.1)).map Blank.trimmed := by
    rw [List.map_map]
    refine List.filter_eq_self.2 fun name hmem => ?_
    obtain ⟨⟨id, node⟩, hchild, rfl⟩ := List.mem_map.1 hmem
    simpa using (h.isJob_of_mem_children hchild).2.trimmed_ne_nil
  rw [jobIds, Files.on_get_bind, hstat]
  dsimp only
  rw [Files.Action.on_bind, hread]
  dsimp only
  rw [hdirectories]
  exact congrArg (fun names => (Except.ok (Bytes.sorted names), tree)) hnames

end HoldsJobs

/-- The directory of a job in the archive is there. -/
theorem Kept.isDirectory {store : Store} {tree : Tree} {jobs : Jobs} {id : Bytes}
    (h : Kept store tree jobs) (hjob : (jobs id).isSome = true) :
    tree.isDirectory (store.directory id) = true := by
  cases h with
  | vacant => cases hjob
  | held h =>
    obtain ⟨files, hfiles⟩ := Option.isSome_iff_exists.1 hjob
    obtain ⟨-, hholds⟩ := h.present hfiles
    obtain ⟨mode, hmode⟩ := hholds.directory
    rw [Tree.isDirectory, Files.stat_eq_ok_iff.2 ⟨_, hholds.leads, hmode⟩]
    rfl

/-- What is listed after a history: the trimmed ids in order. -/
theorem Saves.jobIds {store : Store} {tree after : Tree} {entries : List Entry}
    (hproper : tree.IsProper) (hvacant : store.IsVacant tree)
    (hsaves : store.Saves tree entries after) :
    ∃ names, store.jobIds.on after = (.ok names, after) ∧
      names.Pairwise (fun s t => Bytes.atMost s t = true) ∧
      names.Perm ((entries.map Entry.jobId).dedup.map Blank.trimmed) := by
  obtain ⟨hkept, -⟩ := Saves.kept (.vacant hproper hvacant) hsaves
  generalize hjobs : entries.foldl Jobs.record Jobs.none = jobs at hkept
  have hids (id : Bytes) : jobs id ≠ none ↔ id ∈ entries.map Entry.jobId := by
    rw [← hjobs, foldl_record]
    split <;> simp [*]
  cases hkept with
  | vacant _ hafter =>
    have hnone : entries.map Entry.jobId = [] :=
      List.eq_nil_iff_forall_not_mem.2 fun id hmem => (hids id).2 hmem rfl
    refine ⟨[], ?_, .nil, by simp [hnone]⟩
    rw [Store.jobIds, Files.on_get_bind, show after.stat store.jobsPath = _ from hafter]
    rfl
  | @held root _ h =>
    have hperm : ((after.children root).map (·.1)).Perm (entries.map Entry.jobId).dedup := by
      refine (List.perm_ext_iff_of_nodup h.once.nodup_children (List.nodup_dedup _)).2 fun id => ?_
      rw [h.mem_children_iff, hids, List.mem_dedup]
    exact ⟨_, h.on_jobIds, Bytes.pairwise_sorted _,
      (List.mergeSort_perm _ _).trans (hperm.map _)⟩

/-- **Listing.** Whatever has been saved into an archive without jobs, each job has its directory,
and what is listed are the ids of the jobs without the white space around them. So the listing is
exact just if no id that was saved has white space around it, and then each id that is listed is a
valid one, with its directory. -/
theorem jobIds_saved (store : Store) (tree after : Tree) (entries : List Entry)
    (hproper : tree.IsProper) (hvacant : store.IsVacant tree)
    (hsaves : store.Saves tree entries after) :
    ∃ names, store.jobIds.on after = (.ok names, after) ∧
      names.Pairwise (fun s t => Bytes.atMost s t = true) ∧
      names.Perm ((entries.map Entry.jobId).dedup.map Blank.trimmed) ∧
      (∀ entry ∈ entries, IsJobId entry.jobId ∧
        after.isDirectory (store.directory entry.jobId) = true) ∧
      (ListsExactly names (entries.map Entry.jobId) ↔
        ∀ entry ∈ entries, Blank.trimmed entry.jobId = entry.jobId) ∧
      ((∀ entry ∈ entries, Blank.trimmed entry.jobId = entry.jobId) →
        ∀ id ∈ names, IsJobId id ∧ after.isDirectory (store.directory id) = true) := by
  obtain ⟨names, hnames, hordered, hperm⟩ := Saves.jobIds hproper hvacant hsaves
  obtain ⟨hkept, htook⟩ := Saves.kept (.vacant hproper hvacant) hsaves
  have hdirectories : ∀ entry ∈ entries, IsJobId entry.jobId ∧
      after.isDirectory (store.directory entry.jobId) = true :=
    fun entry hmem => ⟨(htook entry hmem).jobId, hkept.isDirectory (by
      rw [foldl_record, if_pos (List.mem_map_of_mem hmem)]
      rfl)⟩
  have hexact : ListsExactly names (entries.map Entry.jobId) ↔
      ∀ entry ∈ entries, Blank.trimmed entry.jobId = entry.jobId :=
    (listsExactly_iff hordered hperm).trans List.forall_mem_map
  refine ⟨names, hnames, hordered, hperm, hdirectories, hexact, fun hsame id hid => ?_⟩
  obtain ⟨entry, hmem, rfl⟩ := List.mem_map.1 (((hexact.2 hsame).mem_iff id).1 hid)
  exact hdirectories entry hmem

/-! ## Ids with and without white space around them -/

namespace Sample

/-- Two jobs, of which one is saved twice. -/
def entries : List Entry :=
  [.failure (bytes "b") failure, .job record, .failure (bytes "a") failure]

def afterFirst : Tree := ((store.save (.failure (bytes "b") failure)).on .empty).2

def afterSecond : Tree := ((store.save (.job record)).on afterFirst).2

/-- They are listed as they are. -/
theorem jobIds_ofTwo :
    Tree.empty.IsProper ∧ store.IsVacant .empty ∧
    ∃ after names, store.Saves .empty entries after ∧
      store.jobIds.on after = (.ok names, after) ∧
      ListsExactly names [bytes "b", bytes "a", bytes "a"] := by
  have hproper : Tree.empty.IsProper := by decide
  have hvacant : store.IsVacant .empty := by
    rw [IsVacant]
    decide +kernel
  have hfirst := Files.on_eq_ok (store.save (.failure (bytes "b") failure)) .empty
    (by decide +kernel)
  have hsecond := Files.on_eq_ok (store.save (.job record)) afterFirst (by decide +kernel)
  have hthird := Files.on_eq_ok (store.save (.failure (bytes "a") failure)) afterSecond
    (by decide +kernel)
  have hsaves := Saves.cons hfirst (.cons hsecond (.cons hthird (.nil _)))
  obtain ⟨names, hnames, -, -, -, hexact, -⟩ := jobIds_saved store _ _ _ hproper hvacant hsaves
  refine ⟨hproper, hvacant, _, names, hsaves, hnames, hexact.2 ?_⟩
  decide +kernel

/-- A job whose id has white space around it. -/
def spaced : JobRecord := { record with jobId := bytes " x " }

/-- It is listed under another id. -/
theorem jobIds_spaced :
    store.IsVacant .empty ∧ ∃ after, store.Saves .empty [.job spaced] after ∧
      (store.jobIds.on after).1.toOption = some [bytes "x"] ∧
      ¬ ListsExactly [bytes "x"] [bytes " x "] := by
  have hsave := Files.on_eq_ok (store.save (.job spaced)) .empty (by decide +kernel)
  refine ⟨?_, _, .cons hsave (.nil _), by decide +kernel, fun hexact => ?_⟩
  · rw [IsVacant]
    decide +kernel
  · exact absurd ((hexact.mem_iff (bytes "x")).1 (by decide)) (by decide)

end Sample

end Store

end Archive

end FunctionChain
