import FunctionChain.Proofs.Archive.Finished
import FunctionChain.Proofs.Files.Directory

/-!
# The archive after a history of saves

An archive into which nothing has been saved yet has no directory of jobs (`IsVacant`). The first
save makes it, and from then on it holds the directories of the jobs and nothing else (`HoldsJobs`).
Saving one more file changes just what that file says: the directory of its job is made if it is not
there, and within it the file is the one of its name (`Kept.save`). So after any history of saves
each job has the files that were last saved under their names (`Saves.kept`).
-/

namespace FunctionChain

namespace Archive

open Files (Action Tree Location)
open Files.Tree (IsPath)

/-! ## Entries -/

/-- What can be saved of a job. -/
inductive Entry where
  | job (record : JobRecord)
  | failure (id : Bytes) (record : Failure.Record)
  | trace (id : Bytes) (trace : Trace)

namespace Entry

/-- The job of an entry. -/
def jobId : Entry → Bytes
  | .job record => record.jobId
  | .failure id _ => id
  | .trace id _ => id

/-- The name of the file for an entry. -/
def fileName : Entry → Bytes
  | .job _ => bytes "job.json"
  | .failure _ _ => bytes "failure.json"
  | .trace _ _ => bytes "trace.json"

/-- What the file says, unless the entry cannot be written down. -/
def content? : Entry → Option Bytes
  | .job record => record.fields.toOption.map Json.indentedRecord
  | .failure _ record => some (Json.indentedRecord record.fields)
  | .trace _ steps => steps.canonicalJson.toOption

/-- An entry has the name of a file of the archive. -/
theorem isFileName (entry : Entry) : IsFileName entry.fileName := by
  cases entry with
  | job => exact .inl rfl
  | failure => exact .inr (.inl rfl)
  | trace => exact .inr (.inr rfl)

end Entry

/-- The jobs of an archive, each with its files by their names. -/
abbrev Jobs := Bytes → Option (Bytes → Option Bytes)

/-- An archive without jobs. -/
def Jobs.none : Jobs := fun _ => Option.none

/-- The jobs with one more entry, in place of an older one of the same name. -/
def Jobs.record (jobs : Jobs) (entry : Entry) : Jobs :=
  Function.update jobs entry.jobId
    (some (Function.update ((jobs entry.jobId).getD fun _ => Option.none) entry.fileName
      entry.content?))

namespace Store

/-- Save an entry. -/
def save (store : Store) : Entry → Action Unit
  | .job record => store.saveJob record
  | .failure id record => store.saveFailure id record
  | .trace id trace => store.saveTrace id trace

/-- `Saves store before entries after`: the entries are saved one after the other, all of them. -/
inductive Saves (store : Store) : Tree → List Entry → Tree → Prop where
  | nil (tree : Tree) : Saves store tree [] tree
  | cons {before middle after : Tree} {entry : Entry} {rest : List Entry} :
      (store.save entry).on before = (.ok (), middle) → Saves store middle rest after →
      Saves store before (entry :: rest) after

/-- Saving goes on after saving. -/
theorem Saves.append {store : Store} {before middle after : Tree} {first second : List Entry}
    (h : store.Saves before first middle) (h' : store.Saves middle second after) :
    store.Saves before (first ++ second) after := by
  induction h with
  | nil => exact h'
  | cons hsave _ ih => exact .cons hsave (ih h')

/-- There is no directory of jobs yet. -/
def IsVacant (store : Store) (tree : Tree) : Prop :=
  tree.stat store.jobsPath = .error .notFound

/-! ## Paths -/

/-- The names along the path of the directory of jobs. -/
def jobsNames (store : Store) : List Bytes :=
  Path.cleanNames (Path.isRooted store.base) (Path.names store.base) ++ [bytes "jobs"]

/-- The directory of jobs has a name. -/
theorem jobsNames_ne_nil (store : Store) : store.jobsNames ≠ [] := by simp [jobsNames]

/-- That name is a plain one. -/
theorem isPlain_jobs : Path.IsPlain (bytes "jobs") := ⟨by decide, by decide, by decide⟩

/-- The path of the directory of jobs is made of names. -/
theorem areNames_jobsNames (store : Store) :
    Path.AreNames (Path.isRooted store.base) store.jobsNames :=
  (Path.areNames_cleanNames _ store.base).concat isPlain_jobs (by decide)

/-- The path of the directory of jobs by its names. -/
theorem jobsPath_eq (store : Store) :
    store.jobsPath = Path.ofNames (Path.isRooted store.base) store.jobsNames := by
  rw [jobsPath, Path.join_name _ isPlain_jobs (by decide)]
  rfl

/-- The directory of a job is in that of all jobs, under the id. -/
theorem directory_append (store : Store) {id : Bytes} (hid : IsJobId id) :
    store.directory id = store.jobsPath ++ Path.slash :: id := by
  rw [store.directory_eq hid, store.jobsPath_eq, ← Path.ofNames_concat store.jobsNames_ne_nil]
  rfl

/-- The directory of jobs is above that of a job. -/
theorem above?_directory (store : Store) {id : Bytes} (hid : IsJobId id) :
    Files.above? (store.directory id) = some store.jobsPath := by
  rw [store.directory_append hid, store.jobsPath_eq]
  exact Files.above?_append (Path.ofNames_ne_nil store.areNames_jobsNames) hid.isPlain.notEmpty
    hid.noSlash

/-- An archive whose base directory is empty has no jobs. -/
theorem isVacant_of_empty {store : Store} {tree : Tree} {place : Location}
    (hne : Path.cleanNames (Path.isRooted store.base) (Path.names store.base) ≠ [])
    (hplace : tree.locate (Path.clean store.base) = .ok place) (hdir : tree.HasDirectory place)
    (hempty : ∀ name, tree.isTaken (place ++ [name]) = false) (hpath : IsPath store.jobsPath) :
    store.IsVacant tree := by
  obtain ⟨hnode, hlink⟩ := Tree.isTaken_eq_false_iff.1 (hempty (bytes "jobs"))
  have hlocate : tree.locate store.jobsPath = .ok (place ++ [bytes "jobs"]) := by
    rw [jobsPath_eq] at hpath ⊢
    exact Tree.locateBy_ofNames_concat (Path.areNames_cleanNames _ store.base) hne isPlain_jobs
      (by decide) (by decide) hplace hdir hpath fun _ => hlink
  rw [IsVacant, Tree.stat, hlocate]
  dsimp only
  rw [hnode]

/-- A path that is below the directory of jobs leads somewhere only if that is there. -/
theorem exists_of_locateBy_directory {store : Store} {id : Bytes} (hid : IsJobId id) {tree : Tree}
    {follows : Bool} {found : Location}
    (h : tree.locateBy follows (store.directory id) = .ok found) :
    ∃ root, tree.locate store.jobsPath = .ok root ∧ tree.HasDirectory root := by
  rw [store.directory_eq hid] at h
  obtain ⟨root, hroot, hdir, -⟩ := Tree.locate_of_locateBy_concat store.areNames_jobsNames
    store.jobsNames_ne_nil hid.isPlain hid.noSlash h
  exact ⟨root, store.jobsPath_eq ▸ hroot, hdir⟩

/-- The path of a job's directory leads below the directory of jobs. -/
theorem eq_of_locateBy_directory {store : Store} {id : Bytes} (hid : IsJobId id) {tree : Tree}
    {root found : Location} {follows : Bool} (hroot : tree.locate store.jobsPath = .ok root)
    (hlink : tree.link? (root ++ [id]) = none)
    (hfound : tree.locateBy follows (store.directory id) = .ok found) : found = root ++ [id] := by
  rw [jobsPath_eq] at hroot
  rw [store.directory_eq hid] at hfound
  exact Tree.eq_of_locateBy_concat store.areNames_jobsNames store.jobsNames_ne_nil hid.isPlain
    hid.noSlash hfound hroot hlink

/-! ## What the archive holds -/

/-- `HoldsJobs store tree root jobs`: the directory of jobs is at `root`, and it holds the
directories of these jobs with these files, and nothing else. -/
structure HoldsJobs (store : Store) (tree : Tree) (root : Location) (jobs : Jobs) : Prop where
  proper : tree.IsProper
  leads : tree.locate store.jobsPath = .ok root
  directory : tree.HasDirectory root
  once : tree.ListsOnce root
  links : ∀ id, tree.link? (root ++ [id]) = none
  absent : ∀ {id}, jobs id = none → tree.get? (root ++ [id]) = none
  present : ∀ {id files}, jobs id = some files →
    IsJobId id ∧ store.Holds id tree (root ++ [id]) files

/-- A directory stays as it is when nothing in it changes. -/
theorem Holds.keep {store : Store} {id : Bytes} {tree after : Tree} {place : Location}
    {files : Bytes → Option Bytes} (h : store.Holds id tree place files)
    (hproper : after.IsProper) (hkeeps : Tree.Keeps tree after)
    (hnodes : ∀ name, after.get? (place ++ [name]) = tree.get? (place ++ [name])) :
    store.Holds id after place files where
  proper := hproper
  leads := hkeeps.locateBy h.leads
  directory := hkeeps.directories _ h.directory
  links name := (hkeeps.links _).trans (h.links name)
  nodes name := (hnodes name).trans (h.nodes name)

namespace HoldsJobs

variable {store : Store} {tree after : Tree} {root : Location} {jobs : Jobs} {id : Bytes}

/-- A directory of jobs that has just been made holds none. -/
theorem of_made (h : Files.HasMade tree after store.jobsPath root)
    (hfresh : tree.isThere store.jobsPath = false) :
    HoldsJobs store after root Jobs.none := by
  have hempty : ∀ name, after.isTaken (root ++ [name]) = false := by
    rcases h.fresh with rfl | ⟨-, hempty⟩
    · obtain ⟨mode, hmode⟩ := h.directory
      have hstat := Files.stat_eq_ok_iff.2 ⟨root, h.leads, hmode⟩
      simp [Tree.isThere, hstat] at hfresh
    · exact hempty
  refine ⟨h.proper, h.leads, h.directory, .of_not_taken hempty,
    fun id => (Tree.isTaken_eq_false_iff.1 (hempty id)).2,
    fun _ => (Tree.isTaken_eq_false_iff.1 (hempty _)).1, fun hsome => ?_⟩
  cases hsome

/-- An archive that holds jobs has a directory for them. -/
theorem isThere (h : HoldsJobs store tree root jobs) : tree.isThere store.jobsPath = true := by
  obtain ⟨mode, hmode⟩ := h.directory
  have hstat := Files.stat_eq_ok_iff.2 ⟨root, h.leads, hmode⟩
  simp [Tree.isThere, hstat]

/-- A directory for a job is made where there was none, and is empty. -/
theorem made (h : HoldsJobs store tree root jobs) (hid : IsJobId id) {mode : Nat}
    (hmake : (Files.makeDirectory (store.directory id) mode).on tree = (.ok (), after)) :
    jobs id = none ∧
      HoldsJobs store after root (Function.update jobs id (some fun _ => none)) := by
  obtain ⟨location, hlocation, hfree, hput⟩ := Files.makeDirectory_ok hmake
  obtain ⟨hproper, hkeeps, place, hplace, hdir, hempty⟩ :=
    Files.makeDirectory_isEmpty h.proper hmake
  obtain rfl := eq_of_locateBy_directory hid h.leads (h.links id) hlocation
  have hne : root ++ [id] ≠ [] := by simp
  have hnodes (other : Location) (hother : other ≠ root ++ [id]) :
      after.get? other = tree.get? other := by rw [hput, Tree.get?_put _ _ hne, if_neg hother]
  have hafter : HoldsJobs store after root (Function.update jobs id (some fun _ => none)) := by
    have hlinks (id : Bytes) : after.link? (root ++ [id]) = none :=
      (hkeeps.links _).trans (h.links id)
    have hleads := hkeeps.locateBy h.leads
    refine ⟨hproper, hleads, hkeeps.directories _ h.directory, hput ▸ h.once.put _ _, hlinks,
      fun {other} hnone => ?_, fun {other files} hsome => ?_⟩
    · have hother : other ≠ id := by
        rintro rfl
        simp at hnone
      rw [Function.update_of_ne hother] at hnone
      rw [hnodes _ (by simpa using hother), h.absent hnone]
    · by_cases hother : other = id
      · subst hother
        rw [Function.update_self] at hsome
        cases hsome
        obtain rfl := eq_of_locateBy_directory hid hleads (hlinks other) hplace
        exact ⟨hid, hproper, hplace, hdir,
          fun name => (Tree.isTaken_eq_false_iff.1 (hempty name)).2,
          fun name => (Tree.isTaken_eq_false_iff.1 (hempty name)).1⟩
      · rw [Function.update_of_ne hother] at hsome
        obtain ⟨hvalid, hholds⟩ := h.present hsome
        exact ⟨hvalid, hholds.keep hproper hkeeps fun name => hnodes _ (by simp)⟩
  refine ⟨?_, hafter⟩
  cases hjob : jobs id with
  | none => rfl
  | some files =>
    obtain ⟨mode, hmode⟩ := (h.present hjob).2.directory
    cases (Tree.isTaken_eq_false_iff.1 hfree).1.symm.trans hmode

/-- A file that is written into the directory of a job changes nothing else. -/
theorem written (h : HoldsJobs store tree root jobs) {files : Bytes → Option Bytes}
    (hjob : jobs id = some files) {name content : Bytes}
    (hwritten : Files.IsWritten tree (root ++ [id] ++ [name]) (.file 0o644 content) after)
    (honce : after.ListsOnce root) :
    HoldsJobs store after root
      (Function.update jobs id (some (Function.update files name (some content)))) := by
  obtain ⟨hid, hholds⟩ := h.present hjob
  have hdir := hholds.not_hasDirectory name
  have hkeeps := hwritten.keeps hdir (hholds.links name)
  have hafter := hholds.written hwritten
  refine ⟨hafter.proper, hkeeps.locateBy h.leads, hkeeps.directories _ h.directory, honce,
    fun id => (hkeeps.links _).trans (h.links id), fun {other} hnone => ?_,
    fun {other files} hsome => ?_⟩
  · have hother : other ≠ id := by
      rintro rfl
      simp at hnone
    rw [Function.update_of_ne hother] at hnone
    rw [hwritten.nodes, if_neg (by simp), h.absent hnone]
  · by_cases hother : other = id
    · subst hother
      rw [Function.update_self] at hsome
      cases hsome
      exact ⟨hid, hafter⟩
    · rw [Function.update_of_ne hother] at hsome
      obtain ⟨hvalid, hothers⟩ := h.present hsome
      refine ⟨hvalid, hothers.keep hafter.proper hkeeps fun name' => ?_⟩
      rw [hwritten.nodes, if_neg (by simp [hother])]

end HoldsJobs

/-! ## One more entry -/

/-- The archive holds these jobs, or it holds none and has no directory for them yet. -/
inductive Kept (store : Store) (tree : Tree) : Jobs → Prop where
  | vacant : tree.IsProper → store.IsVacant tree → Kept store tree Jobs.none
  | held {root : Location} {jobs : Jobs} : HoldsJobs store tree root jobs → Kept store tree jobs

section Saved

variable {store : Store} {tree after : Tree} {jobs : Jobs} {id : Bytes}

/-- The tree of a kept archive is proper. -/
theorem Kept.proper (h : Kept store tree jobs) : tree.IsProper := by
  cases h with
  | vacant hproper => exact hproper
  | held h => exact h.proper

/-- The directory of a job is there if it could be ensured. -/
theorem makeDirectories_of_ensureDirectory
    (h : (store.ensureDirectory id).on tree = (.ok (), after)) :
    (Files.makeDirectories (store.directory id) 0o755).on tree = (.ok (), after) := by
  obtain ⟨_, middle, hmake, hsync⟩ := Files.bind_eq_ok (Files.labelled_eq_ok h)
  obtain ⟨_, _, hdirectory, hparent⟩ := Files.bind_eq_ok hsync
  obtain ⟨rfl, -⟩ := Files.syncDirectory_ok hdirectory
  obtain ⟨rfl, -⟩ := Files.syncDirectory_ok hparent
  exact hmake

/-- Once its directory has been made, a job is one of those in the archive. -/
theorem Kept.ensured (h : Kept store tree jobs) (hid : IsJobId id)
    (hensure : (store.ensureDirectory id).on tree = (.ok (), after)) :
    ∃ root, HoldsJobs store after root
      (Function.update jobs id (some ((jobs id).getD fun _ => none))) := by
  have hmade := Files.makeDirectories_ok h.proper (store.above?_directory hid)
    (makeDirectories_of_ensureDirectory hensure)
  cases h with
  | vacant hproper hvacant =>
    have hmissing : tree.isThere store.jobsPath = false := by
      rw [Tree.isThere, show tree.stat store.jobsPath = .error .notFound from hvacant]
    rcases hmade with ⟨-, mode, hstat⟩ | ⟨middle, root, hroot, hlast⟩
    · obtain ⟨found, hfound, -⟩ := Files.stat_eq_ok_iff.1 hstat
      obtain ⟨root, hroot, mode, hmode⟩ := exists_of_locateBy_directory hid hfound
      cases hvacant.symm.trans (Files.stat_eq_ok_iff.2 ⟨root, hroot, hmode⟩)
    · exact ⟨root, ((HoldsJobs.of_made hroot hmissing).made hid hlast).2⟩
  | @held root _ h =>
    rcases hmade with ⟨rfl, mode, hstat⟩ | ⟨middle, place, hplace, hlast⟩
    · obtain ⟨found, hfound, hnode⟩ := Files.stat_eq_ok_iff.1 hstat
      obtain rfl := eq_of_locateBy_directory hid h.leads (h.links id) hfound
      cases hjob : jobs id with
      | none => cases (h.absent hjob).symm.trans hnode
      | some files =>
        rw [Option.getD_some, ← hjob, Function.update_eq_self]
        exact ⟨root, h⟩
    · rcases hplace.fresh with rfl | ⟨hmissing, -⟩
      · obtain ⟨hnone, hafter⟩ := h.made hid hlast
        rw [hnone]
        exact ⟨root, hafter⟩
      · cases hmissing.symm.trans h.isThere

/-- **One file more.** -/
theorem Kept.saveFile (h : Kept store tree jobs) (hid : IsJobId id) {name label content : Bytes}
    (hname : IsFileName name)
    (hsave : (store.saveFile id name label content).on tree = (.ok (), after)) :
    Kept store after (Function.update jobs id
      (some (Function.update ((jobs id).getD fun _ => none) name (some content)))) ∧
    ∀ other, IsFileName other → IsPath (store.filePath id other) := by
  obtain ⟨_, middle, hensure, hwrite⟩ := Files.bind_eq_ok hsave
  obtain ⟨root, hmiddle⟩ := h.ensured hid hensure
  obtain ⟨_, _, hreplace, hsync⟩ := Files.bind_eq_ok (Files.labelled_eq_ok hwrite)
  obtain ⟨rfl, -⟩ := Files.syncDirectory_ok hsync
  obtain ⟨⟨number, htemporary⟩, location, hlocation, -, hwritten⟩ := Files.replaceFile_ok hreplace
  have hpath := (Tree.locateBy_eq_ok_iff.1 hlocation).1
  obtain ⟨-, hholds⟩ := hmiddle.present (Function.update_self ..)
  have hplace : middle.locateName (store.filePath id name) = .ok (root ++ [id] ++ [name]) :=
    store.locateBy_filePath hid hname hholds.leads hholds.directory hpath nofun
  cases hlocation.symm.trans hplace
  have hafter := hmiddle.written (Function.update_self ..) hwritten
    (Files.replaceFile_listsOnce hmiddle.once hreplace)
  rw [Function.update_idem] at hafter
  exact ⟨.held hafter, fun other hother => store.isPath_filePath hid hname htemporary hother⟩

/-- A trace that is saved is a valid one, and is written to its file. -/
theorem saveTrace_ok {trace : Trace} (h : (store.saveTrace id trace).on tree = (.ok (), after)) :
    IsJobId id ∧ trace.problem? = none ∧ ∃ encoded, trace.canonicalJson = .ok encoded := by
  obtain ⟨_, _, hrefuse, hcheck⟩ := Files.bind_eq_ok h
  obtain ⟨hid, rfl⟩ := refuse_eq_ok hrefuse
  obtain ⟨_, _, hrefuse', hsave⟩ := Files.bind_eq_ok hcheck
  obtain ⟨hvalid, rfl⟩ := refuse_eq_ok hrefuse'
  refine ⟨invalidJobId?_eq_none_iff.1 hid, Option.map_eq_none_iff.1 hvalid, ?_⟩
  cases hencoded : trace.canonicalJson with
  | ok encoded => exact ⟨encoded, rfl⟩
  | error problem =>
    rw [hencoded] at hsave
    cases hsave

/-- An entry that is saved is written to its file. -/
theorem save_ok {entry : Entry} (hproper : tree.IsProper)
    (h : (store.save entry).on tree = (.ok (), after)) :
    IsJobId entry.jobId ∧ ∃ content label, entry.content? = some content ∧
      (store.saveFile entry.jobId entry.fileName label content).on tree = (.ok (), after) := by
  cases entry with
  | job record =>
    obtain ⟨hvalid, fields, -, hfields, -⟩ := saveJob_ok hproper h
    refine ⟨(invalid?_job_eq_none_iff.1 hvalid).1, Json.indentedRecord fields, bytes "write job",
      ?_, ?_⟩
    · rw [Entry.content?, hfields]
      rfl
    · exact (congrArg (Action.on · tree) (saveJob_eq hvalid hfields)).symm.trans h
  | failure id record =>
    obtain ⟨hid, hvalid, -⟩ := saveFailure_ok hproper h
    exact ⟨hid, _, _, rfl,
      (congrArg (Action.on · tree) (saveFailure_eq hid hvalid)).symm.trans h⟩
  | trace id trace =>
    obtain ⟨hid, hvalid, encoded, hencoded⟩ := saveTrace_ok h
    refine ⟨hid, encoded, bytes "write trace", ?_, ?_⟩
    · rw [Entry.content?, hencoded]
      rfl
    · exact (congrArg (Action.on · tree) (saveTrace_eq hid hvalid hencoded)).symm.trans h

/-- An entry that has been saved: its id is valid, it could be written down, and the files of its
job can be looked for. -/
structure Took (store : Store) (entry : Entry) : Prop where
  jobId : IsJobId entry.jobId
  content : entry.content?.isSome = true
  paths : ∀ {name}, IsFileName name → IsPath (store.filePath entry.jobId name)

/-- **One entry more.** -/
theorem Kept.save (h : Kept store tree jobs) {entry : Entry}
    (hsave : (store.save entry).on tree = (.ok (), after)) :
    Kept store after (jobs.record entry) ∧ store.Took entry := by
  obtain ⟨hid, content, label, hcontent, hfile⟩ := save_ok h.proper hsave
  obtain ⟨hafter, hpaths⟩ := h.saveFile hid entry.isFileName hfile
  rw [Jobs.record, hcontent]
  exact ⟨hafter, hid, Option.isSome_iff_exists.2 ⟨content, hcontent⟩, fun hname => hpaths _ hname⟩

/-- **Histories.** -/
theorem Saves.kept {entries : List Entry} (h : Kept store tree jobs)
    (hsaves : store.Saves tree entries after) :
    Kept store after (entries.foldl Jobs.record jobs) ∧ ∀ entry ∈ entries, store.Took entry := by
  induction hsaves generalizing jobs with
  | nil => exact ⟨h, List.forall_mem_nil _⟩
  | cons hsave _ ih =>
    obtain ⟨hmiddle, htook⟩ := h.save hsave
    obtain ⟨hafter, hrest⟩ := ih hmiddle
    exact ⟨hafter, List.forall_mem_cons.2 ⟨htook, hrest⟩⟩

end Saved

end Store

/-! ## What was saved last -/

/-- The entry that was saved last of a job under a name. -/
def latest? (entries : List Entry) (id name : Bytes) : Option Entry :=
  (entries.filter fun entry => entry.jobId == id && entry.fileName == name).getLast?

/-- What the file of that name says then. -/
def lastContent? (entries : List Entry) (id name : Bytes) : Option Bytes :=
  (latest? entries id name).bind Entry.content?

section Last

variable {id name : Bytes}

/-- What is saved later counts, if anything is. -/
theorem latest?_append (first second : List Entry) :
    latest? (first ++ second) id name
      = (latest? second id name).or (latest? first id name) := by
  rw [latest?, List.filter_append, List.getLast?_append]
  rfl

/-- A single entry is the latest one of its job and name. -/
theorem latest?_singleton (entry : Entry) :
    latest? [entry] id name
      = if entry.jobId = id ∧ entry.fileName = name then some entry else none := by
  rw [latest?, List.filter_singleton]
  by_cases h : entry.jobId = id ∧ entry.fileName = name
  · simp [h.1, h.2]
  · have hfalse : (entry.jobId == id && entry.fileName == name) = false := by
      rwa [Bool.eq_false_iff, ne_eq, Bool.and_eq_true, beq_iff_eq, beq_iff_eq]
    rw [hfalse, if_neg h]
    rfl

/-- There is no latest entry just if there is none at all. -/
theorem latest?_eq_none_iff {entries : List Entry} :
    latest? entries id name = none ↔
      ∀ entry ∈ entries, entry.jobId = id → entry.fileName ≠ name := by
  simp [latest?]

/-- The latest entry is one of them. -/
theorem mem_of_latest? {entries : List Entry} {entry : Entry}
    (h : latest? entries id name = some entry) : entry ∈ entries :=
  List.mem_of_mem_filter (List.mem_of_getLast? h)

end Last

/-- After a history the archive has the jobs of its entries, each with what was saved last under the
names of its files. -/
theorem foldl_record (entries : List Entry) (id : Bytes) :
    entries.foldl Jobs.record Jobs.none id
      = if id ∈ entries.map Entry.jobId then some (lastContent? entries id) else none := by
  induction entries using List.reverseRecOn with
  | nil => rfl
  | append_singleton entries entry ih =>
    have hlast (name : Bytes) : lastContent? (entries ++ [entry]) id name
        = if entry.jobId = id ∧ entry.fileName = name then entry.content?
          else lastContent? entries id name := by
      rw [lastContent?, latest?_append, latest?_singleton]
      split <;> rfl
    rw [List.foldl_append, List.foldl_cons, List.foldl_nil, Jobs.record]
    by_cases hid : id = entry.jobId
    · subst hid
      have hbefore : (entries.foldl Jobs.record Jobs.none entry.jobId).getD (fun _ => none)
          = lastContent? entries entry.jobId := by
        rw [ih]
        split
        · rfl
        · next hnot =>
          funext name
          have hnone : latest? entries entry.jobId name = none :=
            latest?_eq_none_iff.2 fun other hmem heq =>
              absurd (List.mem_map.2 ⟨other, hmem, heq⟩) hnot
          rw [lastContent?, hnone]
          rfl
      rw [Function.update_self, if_pos (by simp), hbefore]
      congr 1
      funext name
      rw [hlast, Function.update_apply]
      simp [eq_comm]
    · have hsame : lastContent? (entries ++ [entry]) id = lastContent? entries id := by
        funext name
        rw [hlast, if_neg fun h => hid h.1.symm]
      rw [Function.update_of_ne hid, ih, hsame]
      simp [hid]

/-- What is found of a job after a history at the path of one of its files: what was saved last
under that name. -/
theorem Store.Saves.stat {store : Store} {tree after : Tree} {entries : List Entry}
    (hproper : tree.IsProper) (hvacant : store.IsVacant tree)
    (hsaves : store.Saves tree entries after) {id name : Bytes}
    (hid : id ∈ entries.map Entry.jobId) (hname : IsFileName name) :
    after.stat (store.filePath id name) = match lastContent? entries id name with
      | some content => .ok (.file 0o644 content)
      | none => .error .notFound := by
  obtain ⟨hkept, htook⟩ := Saves.kept (.vacant hproper hvacant) hsaves
  have hjobs := foldl_record entries id
  rw [if_pos hid] at hjobs
  generalize entries.foldl Jobs.record Jobs.none = jobs at hkept hjobs
  cases hkept with
  | vacant => cases hjobs
  | held h =>
    obtain ⟨hvalid, hholds⟩ := h.present hjobs
    obtain ⟨entry, hmem, rfl⟩ := List.mem_map.1 hid
    exact hholds.stat hvalid hname ((htook entry hmem).paths hname)

end Archive

end FunctionChain
