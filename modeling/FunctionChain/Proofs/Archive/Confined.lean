import FunctionChain.Proofs.Archive.Rejected
import FunctionChain.Proofs.Archive.Strict
import FunctionChain.Proofs.Files.Shelf

/-!
# Jobs do not reach each other

The paths of a job's files are told by the cleaned path of the directory of jobs: there is one more
name for the job behind it, and one for the file. An id that could lead elsewhere is refused before
any file is looked at. So the directory of jobs is a shelf, and what is saved of other jobs spares
the directory of this one (`saves_confined`).
-/

namespace FunctionChain

namespace Path

/-- The cleaned form of a path goes on where that of another one ends. -/
structure IsWithin (directory path : Bytes) : Prop where
  rooted : isRooted path = isRooted directory
  names : cleaned directory <+: cleaned path

/-- A path is within another one just if its names go on from those. -/
theorem isWithin_ofNames_iff {rooted : Bool} {names others : List Bytes}
    (h : AreNames rooted names) (h' : AreNames rooted others) :
    IsWithin (ofNames rooted names) (ofNames rooted others) ↔ names <+: others := by
  constructor
  · rintro ⟨-, hnames⟩
    rwa [cleaned_ofNames h, cleaned_ofNames h'] at hnames
  · intro hnames
    refine ⟨by rw [isRooted_ofNames h, isRooted_ofNames h'], ?_⟩
    rwa [cleaned_ofNames h, cleaned_ofNames h']

end Path

namespace Archive

open Files (Action Tree Node Reason IsShelf Spares TellsSame)
open Files.Action (Relates LooksAt)

namespace Store

/-! ## Paths -/

/-- The paths of the files of a job, with their names. -/
def filePaths (store : Store) (id : Bytes) : List (Bytes × Bytes) :=
  [(store.jobPath id, bytes "job.json"), (store.failurePath id, bytes "failure.json"),
    (store.tracePath id, bytes "trace.json")]

/-- The name of a file of the archive is a plain one. -/
theorem isPlain_fileName {name : Bytes} (h : IsFileName name) :
    Path.IsPlain name ∧ Path.slash ∉ name :=
  ⟨h.isPlain.1, h.isPlain.2.1⟩

/-- The files of a job. -/
theorem mem_filePaths {store : Store} {id : Bytes} {file : Bytes × Bytes}
    (h : file ∈ store.filePaths id) : file.1 = store.filePath id file.2 ∧ IsFileName file.2 := by
  simp only [filePaths, List.mem_cons, List.not_mem_nil, or_false] at h
  rcases h with rfl | rfl | rfl
  · exact ⟨rfl, .inl rfl⟩
  · exact ⟨rfl, .inr (.inl rfl)⟩
  · exact ⟨rfl, .inr (.inr rfl)⟩

/-- The directory of jobs stands directly in the base directory, which has a name. -/
theorem jobsPath_of_ofBase {base : Bytes} {store : Store} (h : ofBase base = .ok store) :
    store.base = base ∧ store.jobsPath = Path.clean (base ++ Path.slash :: bytes "jobs") := by
  unfold ofBase at h
  split at h
  · cases h
  next hblank =>
  cases h
  have hbase : base ≠ [] := by
    rintro rfl
    exact hblank rfl
  have hjobs : bytes "jobs" ≠ [] := by decide
  refine ⟨rfl, ?_⟩
  simp [jobsPath, Path.join, hbase, hjobs, Bytes.joined]

section Paths

variable {store : Store} {id : Bytes} (hid : IsJobId id)
include hid

/-- A file of a job by its names below the directory of jobs. -/
theorem filePath_eq_jobsNames {name : Bytes} (hname : IsFileName name) :
    store.filePath id name
      = Path.ofNames (Path.isRooted store.base) (store.jobsNames ++ [id, name]) := by
  rw [store.filePath_eq hid hname, List.append_cons store.jobsNames]
  rfl

/-- The path of a file of a job is made of names. -/
theorem areNames_filePath {name : Bytes} (hname : IsFileName name) :
    Path.AreNames (Path.isRooted store.base) (store.jobsNames ++ [id, name]) :=
  Files.areNames_file store.areNames_jobsNames (fun _ => isPlain_fileName) hid.isPlain hid.noSlash
    hname

/-- **Where the files of a job are.** -/
theorem filePath_confined {name : Bytes} (hname : IsFileName name) :
    Path.isRooted (store.filePath id name) = Path.isRooted store.base ∧
      Path.cleaned (store.filePath id name) = Path.cleaned store.jobsPath ++ [id, name] ∧
      Path.clean (store.filePath id name)
        = store.jobsPath ++ Path.slash :: id ++ Path.slash :: name := by
  have hnames := @areNames_filePath store id hid name hname
  refine ⟨?_, ?_, ?_⟩
  · rw [filePath_eq_jobsNames hid hname, Path.isRooted_ofNames hnames]
  · rw [filePath_eq_jobsNames hid hname, Path.cleaned_ofNames hnames, jobsPath_eq,
      Path.cleaned_ofNames store.areNames_jobsNames]
  · rw [filePath_eq_jobsNames hid hname, Path.clean_ofNames hnames, ← filePath_eq_jobsNames hid hname,
      store.filePath_append hid hname, store.directory_append hid]

end Paths

/-- Different jobs have different directories, and neither holds the other. -/
theorem not_isWithin_directory {store : Store} {first second : Bytes} (hfirst : IsJobId first)
    (hsecond : IsJobId second) (hne : first ≠ second) :
    ¬ Path.IsWithin (store.directory first) (store.directory second) := by
  rw [store.directory_eq hfirst, store.directory_eq hsecond,
    Path.isWithin_ofNames_iff (store.areNames hfirst) (store.areNames hsecond), names, names,
    List.prefix_append_right_inj]
  intro hprefix
  exact hne (List.cons_prefix_cons.1 hprefix).1

/-! ## Ids that are refused -/

/-- A record whose job must not have its id is refused as well. -/
theorem saveJob_of_invalid_id (store : Store) {record : JobRecord} {error : Error}
    (h : invalidJobId? record.jobId = some error) :
    ∃ problem, store.saveJob record = throw problem := by
  cases hinvalid : record.invalid? with
  | none =>
    have hid := (invalid?_job_eq_none_iff.1 hinvalid).1
    cases h.symm.trans (invalidJobId?_eq_none_iff.2 hid)
  | some problem =>
    refine ⟨.wrap (bytes "invalid job") problem, ?_⟩
    rw [saveJob, hinvalid]
    rfl

/-! ## Saves of other jobs -/

/-- No link stands in the directory of jobs, and none in the place of a job's file. -/
abbrev IsShelved (store : Store) (tree : Tree) : Prop :=
  IsShelf IsFileName (Path.isRooted store.base) store.jobsNames tree

/-- The files of a job are spared. -/
abbrev SparesJob (store : Store) (id : Bytes) : Tree → Tree → Prop :=
  Spares IsFileName (Path.isRooted store.base) store.jobsNames fun sub name =>
    sub = id ∧ IsFileName name

/-- What is spared of a job has plain names. -/
theorem spared_isPlain {id : Bytes} (hid : IsJobId id) (sub name : Bytes)
    (h : sub = id ∧ IsFileName name) : Path.IsPlain sub ∧ Path.slash ∉ sub ∧ IsFileName name := by
  obtain ⟨rfl, hname⟩ := h
  exact ⟨hid.isPlain, hid.noSlash, hname⟩

/-- The way to the files of a job does not lead through the directory of another. -/
theorem not_above_of_spared {id other sub name : Bytes} {rest : List Bytes} (hne : other ≠ id)
    (h : sub = id ∧ IsFileName name) : ¬ other :: rest <+: [sub, name] := by
  intro hprefix
  exact hne ((List.cons_prefix_cons.1 hprefix).1.trans h.1)

section Spared

variable {store : Store} {id other : Bytes} (hid : IsJobId id) (hother : IsJobId other)
  (hne : other ≠ id)
include hid hother hne

/-- The directory of another job spares this one. -/
theorem ensureDirectory_spares : Relates (store.SparesJob id) (store.ensureDirectory other) := by
  have hmake := Files.makeDirectoriesWithin_spares store.areNames_jobsNames
    (fun _ => isPlain_fileName) (spared_isPlain hid) hother.isPlain hother.noSlash
    (fun _ _ => not_above_of_spared hne) 0o755 ((store.directory other).length + 1)
    (List.prefix_refl _) (by simp)
  unfold ensureDirectory Files.makeDirectories
  rw [store.directory_eq hother] at hmake ⊢
  exact (hmake.bind fun _ => (Files.syncDirectory_relates _).bind fun _ =>
    Files.syncDirectory_relates _).labelled _

/-- A file of another job spares this one. -/
theorem saveFile_spares {name : Bytes} (hname : IsFileName name) (label content : Bytes) :
    Relates (store.SparesJob id) (store.saveFile other name label content) := by
  have hreplace := Files.replaceFile_spares store.areNames_jobsNames (fun _ => isPlain_fileName)
    (spared_isPlain hid) hother.isPlain hother.noSlash hname
    (fun _ _ => not_above_of_spared hne) content 0o644
  rw [← filePath_eq_jobsNames hother hname] at hreplace
  exact (ensureDirectory_spares hid hother hne).bind fun _ =>
    (hreplace.bind fun _ => Files.syncDirectory_relates _).labelled _

end Spared

/-- What is not refused has an id that a job may have. -/
theorem isJobId_of_not_refused {entry : Entry} (h : entry.refusal? = none) :
    IsJobId entry.jobId := by
  cases entry with
  | job record => exact (invalid?_job_eq_none_iff.1 (Option.map_eq_none_iff.1 h)).1
  | failure | trace => exact invalidJobId?_eq_none_iff.1 (Option.or_eq_none_iff.1 h).1

section Frame

variable {store : Store} {id : Bytes} (hid : IsJobId id)
include hid

/-- A save of another job spares this one, whatever comes of it. -/
theorem save_spares {entry : Entry} (hne : entry.jobId ≠ id) :
    Relates (store.SparesJob id) (store.save entry) := by
  cases hrefusal : entry.refusal? with
  | some error =>
    rw [save_of_refusal hrefusal]
    exact Files.Action.relates_throw error
  | none =>
    have hother := isJobId_of_not_refused hrefusal
    cases hunwritable : entry.unwritable? with
    | some error =>
      rw [save_of_unwritable hrefusal hunwritable]
      exact (ensureDirectory_spares hid hother hne).bind fun _ => Files.Action.relates_throw error
    | none =>
      obtain ⟨content, label, -, hsave⟩ := @save_of_writable store _ hrefusal hunwritable
      rw [hsave]
      exact saveFile_spares hid hother hne entry.isFileName label content

/-- So does any number of them. -/
theorem Attempts.spares {before after : Tree} {parts : List (Entry × Option Error)}
    (h : store.Attempts before parts after) (hne : ∀ part ∈ parts, part.1.jobId ≠ id) :
    store.SparesJob id before after := by
  have hstep {before middle : Tree} {entry : Entry} {result : Except Error Unit}
      (hsave : (store.save entry).on before = (result, middle)) (hentry : entry.jobId ≠ id) :
      store.SparesJob id before middle := by
    have hspares := @save_spares store id hid entry hentry before
    rwa [hsave] at hspares
  induction h with
  | nil tree => exact Std.Refl.refl tree
  | saved hsave _ ih | failed hsave _ ih =>
    rw [List.forall_mem_cons] at hne
    exact IsTrans.trans _ _ _ (hstep hsave hne.1) (ih hne.2)

end Frame

/-! ## What is loaded -/

/-- A result that is only given when something stands at the path is given as before. -/
theorem eq_ok_iff_of_tellsSame {α : Type} {path : Bytes} {action : Action α}
    (h : LooksAt path action) {result : α}
    (hfound : ∀ tree : Tree, (action.on tree).1 = .ok result → ∃ node, tree.stat path = .ok node)
    {isShort : Prop} {before after : Tree}
    (hsame : TellsSame isShort (before.stat path) (after.stat path)) :
    (action.on after).1 = .ok result ↔ (action.on before).1 = .ok result := by
  constructor
  · intro hafter
    obtain ⟨node, hnode⟩ := hfound after hafter
    rw [← hafter]
    exact h.congr (((hsame.found node).1 hnode).trans hnode.symm)
  · intro hbefore
    obtain ⟨node, hnode⟩ := hfound before hbefore
    rw [← hbefore]
    exact h.congr (((hsame.found node).2 hnode).trans hnode.symm)

/-- A job that was loaded has a file. -/
theorem stat_of_loadJob {store : Store} {id : Bytes} {record : JobRecord} (tree : Tree)
    (h : ((store.loadJob id).on tree).1 = .ok record) :
    ∃ node, tree.stat (store.jobPath id) = .ok node := by
  obtain ⟨-, hanswer⟩ := loadJob_eq_ok_iff.1 (Prod.ext h rfl)
  obtain ⟨-, ⟨mode, content, hstat, -⟩, -⟩ := jobAnswer_eq_ok_iff.1 hanswer
  exact ⟨_, hstat⟩

/-- A failure that was loaded has a file. -/
theorem stat_of_loadFailure {store : Store} {id : Bytes} {record : Failure.Record} (tree : Tree)
    (h : ((store.loadFailure id).on tree).1 = .ok (some record)) :
    ∃ node, tree.stat (store.failurePath id) = .ok node := by
  obtain ⟨-, hanswer⟩ := loadFailure_eq_ok_iff.1 (Prod.ext h rfl)
  obtain ⟨-, ⟨mode, content, hstat, -⟩, -⟩ := failureAnswer_eq_ok_iff.1 hanswer
  exact ⟨_, hstat⟩

/-- **Confinement.** The files of a job are below the directory of jobs, in one of its own that
neither holds that of another job nor stands in it. An id that a job must not have is refused without
a look at any file. So whatever has been saved of other jobs, with or without success, the same is
loaded of this one, as long as there are no links in the archive. What cannot be loaded fails as
before, unless a name on the way is too long. -/
theorem saves_confined {base : Bytes} {store : Store} (hstore : ofBase base = .ok store) :
    (∀ id, invalidJobId? id = none → ∀ file ∈ store.filePaths id,
      Path.isRooted file.1 = Path.isRooted base ∧
      Path.cleaned file.1 = Path.cleaned (base ++ Path.slash :: bytes "jobs") ++ [id, file.2] ∧
      Path.clean file.1 = Path.clean (base ++ Path.slash :: bytes "jobs")
        ++ Path.slash :: id ++ Path.slash :: file.2) ∧
    (∀ first second, invalidJobId? first = none → invalidJobId? second = none → first ≠ second →
      ¬ Path.IsWithin (store.directory first) (store.directory second)) ∧
    (∀ id error, invalidJobId? id = some error →
      store.loadJob id = throw error ∧ store.loadFailure id = throw error ∧
      (∀ record, store.saveFailure id record = throw error) ∧
      (∀ steps, store.saveTrace id steps = throw error) ∧
      ∀ record, record.jobId = id → ∃ problem, store.saveJob record = throw problem) ∧
    ∀ (id : Bytes) (tree after : Tree) (parts : List (Entry × Option Error)),
      invalidJobId? id = none → store.IsShelved tree → store.Attempts tree parts after →
      (∀ part ∈ parts, part.1.jobId ≠ id) →
      store.IsShelved after ∧
      (∀ record, ((store.loadJob id).on after).1 = .ok record ↔
        ((store.loadJob id).on tree).1 = .ok record) ∧
      (∀ record, ((store.loadFailure id).on after).1 = .ok (some record) ↔
        ((store.loadFailure id).on tree).1 = .ok (some record)) ∧
      (∀ node, after.stat (store.tracePath id) = .ok node ↔
        tree.stat (store.tracePath id) = .ok node) ∧
      ((∀ name ∈ store.names id, name.length ≤ Tree.longestName) →
        ((store.loadJob id).on after).1 = ((store.loadJob id).on tree).1 ∧
        ((store.loadFailure id).on after).1 = ((store.loadFailure id).on tree).1 ∧
        after.stat (store.tracePath id) = tree.stat (store.tracePath id)) := by
  obtain ⟨rfl, hjobs⟩ := jobsPath_of_ofBase hstore
  simp only [invalidJobId?_eq_none_iff]
  refine ⟨fun id hid file hfile => ?_, fun first second => not_isWithin_directory,
    fun id error herror => ⟨?_, ?_, fun record => ?_, fun steps => ?_, ?_⟩, ?_⟩
  · obtain ⟨hpath, hname⟩ := mem_filePaths hfile
    have hconfined := @filePath_confined store id hid file.2 hname
    rwa [hjobs, Path.cleaned_clean, ← hpath] at hconfined
  · exact loadJob_of_invalidId herror
  · exact loadFailure_of_invalidId herror
  · rw [saveFailure, herror]
    rfl
  · rw [saveTrace, herror]
    rfl
  · rintro record rfl
    exact store.saveJob_of_invalid_id herror
  · intro id tree after parts hid hshelf hattempts hne
    -- Loading looks at nothing but a file of the job, and what was tried spares those files.
    obtain ⟨hafter, htells⟩ := hattempts.spares hid hne hshelf
    have hsame {name : Bytes} (hname : IsFileName name) :
        TellsSame (∀ name ∈ store.names id, name.length ≤ Tree.longestName)
          (tree.stat (store.filePath id name)) (after.stat (store.filePath id name)) := by
      rw [filePath_eq_jobsNames hid hname]
      refine (htells id name ⟨rfl, hname⟩).imp fun hshort other hmem => ?_
      rw [List.append_cons, List.mem_append] at hmem
      rcases hmem with hmem | hmem
      · exact hshort other hmem
      · rw [List.mem_singleton.1 hmem]
        exact hname.isPlain.2.2
    have hjob := hsame (.inl rfl)
    have hfailure := hsame (.inr (.inl rfl))
    have htrace := hsame (.inr (.inr rfl))
    refine ⟨hafter, fun record => ?_, fun record => ?_, htrace.found, fun hshort => ⟨?_, ?_, ?_⟩⟩
    · exact eq_ok_iff_of_tellsSame (store.loadJob_looksAt id) stat_of_loadJob hjob
    · exact eq_ok_iff_of_tellsSame (store.loadFailure_looksAt id) stat_of_loadFailure hfailure
    · exact (store.loadJob_looksAt id).congr (hjob.missed hshort)
    · exact (store.loadFailure_looksAt id).congr (hfailure.missed hshort)
    · exact htrace.missed hshort

namespace Sample

/-- A failure of some job. -/
def fault : Failure.Record := ⟨bytes "io", bytes "C", bytes "m", [], none⟩

/-- An archive with a single job. -/
def sparedTree : Tree where
  here := []
  nodes := [([bytes "rec"], .directory 0o755), ([bytes "rec", bytes "jobs"], .directory 0o755),
    ([bytes "rec", bytes "jobs", bytes "b"], .directory 0o755),
    ([bytes "rec", bytes "jobs", bytes "b", bytes "failure.json"], .file 0o644 (bytes
      "\x7b\"class\":\"io\",\"code\":\"C\",\"message\":\"m\"\x7d"))]
  links := []
  fresh := 0

/-- The failure of another job is saved, and that of this one is still loaded. -/
theorem saves_confined_beside :
    ∃ after, (absoluteStore.save (.failure (bytes "a") fault)).on sparedTree = (.ok (), after) ∧
      ((absoluteStore.loadFailure (bytes "b")).on after).1 = .ok (some fault) := by
  have hid : invalidJobId? (bytes "b") = none := rfl
  have hsave : (absoluteStore.save (.failure (bytes "a") fault)).on sparedTree
      = (.ok (), ((absoluteStore.save (.failure (bytes "a") fault)).on sparedTree).2) :=
    Files.on_eq_ok _ _ (by decide +kernel)
  have hload : ((absoluteStore.loadFailure (bytes "b")).on sparedTree).1 = .ok (some fault) := by
    rfl
  refine ⟨_, hsave, ?_⟩
  obtain ⟨-, -, -, hspared⟩ := @saves_confined (bytes "/rec") absoluteStore rfl
  obtain ⟨-, -, hfailure, -⟩ := hspared (bytes "b") sparedTree _ [(_, none)] hid
    ⟨by decide, fun _ _ _ _ _ => ⟨rfl, rfl, trivial⟩⟩ (.saved hsave (.nil _))
    (List.forall_mem_singleton.2 (by decide))
  exact (hfailure fault).2 hload

/-- An id that is too long for a directory. -/
def longId : Bytes := List.replicate 300 (byte 'x')

/-- An archive in which one job's directory is another's by a link. -/
def linkedTree : Tree where
  here := []
  nodes := [([bytes "rec"], .directory 0o755), ([bytes "rec", bytes "jobs"], .directory 0o755),
    ([bytes "rec", bytes "jobs", bytes "b"], .directory 0o755)]
  links := [([bytes "rec", bytes "jobs", bytes "a"], bytes "b")]
  fresh := 0

/-- Whether a job has a failure is told no more once the directory of jobs has been made, if its id
is too long; and what is saved of one job is loaded of another if a link leads there. -/
theorem other_save_tells :
    (¬ ∀ (store : Store) (id : Bytes) (tree after : Tree) (parts : List (Entry × Option Error)),
      invalidJobId? id = none → tree.IsProper → tree.links = [] → store.Attempts tree parts after →
      (∀ part ∈ parts, part.1.jobId ≠ id) →
      ((store.loadFailure id).on after).1 = ((store.loadFailure id).on tree).1) ∧
    ¬ ∀ (store : Store) (id : Bytes) (tree after : Tree) (parts : List (Entry × Option Error)),
      invalidJobId? id = none → tree.IsProper →
      (∀ name ∈ store.names id, name.length ≤ Tree.longestName) →
      store.Attempts tree parts after → (∀ part ∈ parts, part.1.jobId ≠ id) →
      ((store.loadFailure id).on after).1 = ((store.loadFailure id).on tree).1 := by
  constructor
  · intro h
    have hid : invalidJobId? longId = none := by decide +kernel
    have hsave : (absoluteStore.save (.failure (bytes "a") fault)).on Tree.empty
        = (.ok (), ((absoluteStore.save (.failure (bytes "a") fault)).on Tree.empty).2) :=
      Files.on_eq_ok _ _ (by decide +kernel)
    have hsame := h absoluteStore longId Tree.empty _ [(_, none)] hid (by decide) rfl
      (.saved hsave (.nil _)) (List.forall_mem_singleton.2 (by decide))
    have hbefore : ((absoluteStore.loadFailure longId).on Tree.empty).1.toBool = true := by
      decide +kernel
    have hafter : ((absoluteStore.loadFailure longId).on
        ((absoluteStore.save (.failure (bytes "a") fault)).on Tree.empty).2).1.toBool = false := by
      decide +kernel
    rw [hsame, hbefore] at hafter
    exact Bool.noConfusion hafter
  · intro h
    have hid : invalidJobId? (bytes "b") = none := rfl
    have hsave : (absoluteStore.save (.failure (bytes "a") fault)).on linkedTree
        = (.ok (), ((absoluteStore.save (.failure (bytes "a") fault)).on linkedTree).2) :=
      Files.on_eq_ok _ _ (by decide +kernel)
    have hsame := h absoluteStore (bytes "b") linkedTree _ [(_, none)] hid (by decide) (by decide)
      (.saved hsave (.nil _)) (List.forall_mem_singleton.2 (by decide))
    have hbefore : ((absoluteStore.loadFailure (bytes "b")).on linkedTree).1 = .ok none := by
      rfl
    have hafter : ((absoluteStore.loadFailure (bytes "b")).on
        ((absoluteStore.save (.failure (bytes "a") fault)).on linkedTree).2).1.toOption
          = some (some fault) := by
      decide +kernel
    rw [hsame, hbefore] at hafter
    cases hafter

end Sample

end Store

end Archive

end FunctionChain
