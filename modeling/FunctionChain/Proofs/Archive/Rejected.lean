import FunctionChain.Proofs.Files.Changes
import FunctionChain.Proofs.Job.Rearchived

/-!
# Rejected saves

A save may fail although all file operations succeed: what is to be saved is invalid, or it cannot be
written down. Most of that is found before anything is done, and then the tree is left as it was
(`save_of_refusal`). One thing is found too late: a record that is valid in all else may have a time
that has no text, and by then the directory of the job has been made (`save_of_unwritable`). So such
a save leaves a mark just if the job had no directory before (`rejected_save`).

Archiving a job attempts its parts one after the other (`Attempts`), so the same is true of each part.
-/

namespace FunctionChain

/-- The times that have a text. -/
structure Timestamp.IsWritable (time : Timestamp) : Prop where
  year : 0 ≤ time.date.year ∧ time.date.year ≤ 9999
  zone : time.offset.natAbs < 24 * 3600

instance (time : Timestamp) : Decidable time.IsWritable :=
  decidable_of_iff ((0 ≤ time.date.year ∧ time.date.year ≤ 9999) ∧ time.offset.natAbs < 24 * 3600)
    ⟨fun ⟨year, zone⟩ => ⟨year, zone⟩, fun ⟨year, zone⟩ => ⟨year, zone⟩⟩

namespace Archive

open Files (Action Tree)
open Files.Action (FailsByFault Relates)

/-! ## What is refused -/

/-- A time that is not written has a year that cannot be, and that is no fault of the files. -/
theorem timeJson_eq_error {time : Timestamp} {error : Error}
    (h : JobRecord.timeJson time = .error error) : ¬ time.IsWritable ∧ ¬ error.IsFault := by
  unfold JobRecord.timeJson at h
  split at h
  · cases h
  · next problem hproblem =>
    cases h
    refine ⟨fun ⟨hyear, hzone⟩ => ?_, fun hfault => hfault⟩
    cases hproblem.symm.trans (Timestamp.write_eq_ok_iff.2 ⟨hyear, hzone, rfl⟩)

/-- A record cannot be written down if one of its times cannot. -/
theorem fields_eq_error {record : JobRecord} {error : Error} (h : record.fields = .error error) :
    ¬ (record.startTime.IsWritable ∧ record.endTime.IsWritable) ∧ ¬ error.IsFault := by
  delta JobRecord.fields at h
  cases hstart : JobRecord.timeJson record.startTime with
  | error problem =>
    rw [hstart] at h
    cases h
    exact (timeJson_eq_error hstart).imp_left fun hnot hboth => hnot hboth.1
  | ok started =>
    rw [hstart] at h
    cases hend : JobRecord.timeJson record.endTime with
    | error problem =>
      rw [hend] at h
      cases h
      exact (timeJson_eq_error hend).imp_left fun hnot hboth => hnot hboth.2
    | ok ended =>
      rw [hend] at h
      cases h

namespace Entry

/-- The error of an entry that is refused before anything is done. -/
def refusal? : Entry → Option Error
  | .job record => record.invalid?.map (.wrap (bytes "invalid job"))
  | .failure id record =>
    (invalidJobId? id).or (record.invalid?.map (.wrap (bytes "invalid failure")))
  | .trace id steps =>
    (invalidJobId? id).or
      ((steps.problem?.map fun problem =>
        .wrap (bytes "invalid trace") (.plain problem.message)).or
      (match steps.canonicalJson with
        | .ok _ => none
        | .error problem => some (.wrap (bytes "marshal trace") (.plain problem.message))))

/-- The error of an entry that cannot be written down, which is found out only once the directory of
the job has been made. -/
def unwritable? : Entry → Option Error
  | .job record => match record.fields with
    | .ok _ => none
    | .error error => some (.wrap (bytes "marshal job") error)
  | .failure .. | .trace .. => none

/-- Only a job is unwritable, by one of its times. -/
theorem unwritable?_eq_some {entry : Entry} {error : Error} (h : entry.unwritable? = some error) :
    ∃ record, entry = .job record ∧
      ¬ (record.startTime.IsWritable ∧ record.endTime.IsWritable) ∧ ¬ error.IsFault := by
  cases entry with
  | failure | trace => cases h
  | job record =>
    unfold unwritable? at h
    dsimp only at h
    split at h
    · cases h
    · next problem hfields =>
      cases h
      obtain ⟨htimes, hfault⟩ := fields_eq_error hfields
      exact ⟨record, rfl, htimes, hfault⟩

end Entry

/-- A bad id is no fault of the files. -/
theorem invalidJobId?_not_isFault {id : Bytes} {error : Error} (h : invalidJobId? id = some error) :
    ¬ error.IsFault := by
  unfold invalidJobId? at h
  split at h
  · cases h
    exact fun hfault => hfault
  split at h
  · cases h
    exact fun hfault => hfault
  split at h
  · cases h
    exact fun hfault => hfault
  · cases h

/-- Nor are several errors in one. -/
theorem join?_not_isFault {errors : List Error} {error : Error}
    (h : Error.join? errors = some error) : ¬ error.IsFault := by
  unfold Error.join? at h
  split at h
  · cases h
  · cases h
    exact fun hfault => hfault

/-- An entry is refused for what it is, and not for a fault. -/
theorem Entry.refusal?_not_isFault {entry : Entry} {error : Error}
    (h : entry.refusal? = some error) : ¬ error.IsFault := by
  cases entry with
  | job record =>
    obtain ⟨problem, hproblem, rfl⟩ := Option.map_eq_some_iff.1 h
    exact (join?_not_isFault hproblem : ¬ problem.IsFault)
  | failure id record =>
    rcases Option.or_eq_some_iff.1 h with hid | ⟨-, hrecord⟩
    · exact invalidJobId?_not_isFault hid
    · obtain ⟨problem, hproblem, rfl⟩ := Option.map_eq_some_iff.1 hrecord
      exact (join?_not_isFault hproblem : ¬ problem.IsFault)
  | trace id steps =>
    rcases Option.or_eq_some_iff.1 h with hid | ⟨-, htrace⟩
    · exact invalidJobId?_not_isFault hid
    rcases Option.or_eq_some_iff.1 htrace with hproblem | ⟨-, hencoded⟩
    · obtain ⟨problem, -, rfl⟩ := Option.map_eq_some_iff.1 hproblem
      exact fun hfault => hfault
    · split at hencoded
      · cases hencoded
      · cases hencoded
        exact fun hfault => hfault

namespace Store

variable {store : Store} {entry : Entry} {error : Error}

/-! ## What a save comes to -/

/-- What is refused is refused at once. -/
theorem save_of_refusal (h : entry.refusal? = some error) : store.save entry = throw error := by
  cases entry with
  | job record =>
    obtain ⟨problem, hproblem, rfl⟩ := Option.map_eq_some_iff.1 h
    rw [save, saveJob, hproblem]
    rfl
  | failure id record =>
    rcases Option.or_eq_some_iff.1 h with hid | ⟨hid, hrecord⟩
    · rw [save, saveFailure, hid]
      rfl
    · rw [save, saveFailure, hid, hrecord]
      rfl
  | trace id steps =>
    rcases Option.or_eq_some_iff.1 h with hid | ⟨hid, hsteps⟩
    · rw [save, saveTrace, hid]
      rfl
    rcases Option.or_eq_some_iff.1 hsteps with hproblem | ⟨hproblem, hencoded⟩
    · rw [save, saveTrace, hid, hproblem]
      rfl
    · split at hencoded
      · cases hencoded
      · next hjson =>
        cases hencoded
        rw [save, saveTrace, hid, hproblem, hjson]
        rfl

/-- For what cannot be written down the directory is made all the same. -/
theorem save_of_unwritable (hnone : entry.refusal? = none) (h : entry.unwritable? = some error) :
    store.save entry = (do store.ensureDirectory entry.jobId; throw error) := by
  cases entry with
  | failure | trace => cases h
  | job record =>
    unfold Entry.unwritable? at h
    dsimp only at h
    split at h
    · cases h
    · next hfields =>
      cases h
      rw [save, saveJob, Option.map_eq_none_iff.1 hnone, hfields]
      rfl

/-- All else is written to a file. -/
theorem save_of_writable (hnone : entry.refusal? = none) (h : entry.unwritable? = none) :
    ∃ content label, entry.content? = some content ∧
      store.save entry = store.saveFile entry.jobId entry.fileName label content := by
  cases entry with
  | job record =>
    have hvalid := Option.map_eq_none_iff.1 hnone
    unfold Entry.unwritable? at h
    dsimp only at h
    split at h
    · next fields hfields =>
      refine ⟨_, _, ?_, saveJob_eq hvalid hfields⟩
      rw [Entry.content?, hfields]
      rfl
    · cases h
  | failure id record =>
    obtain ⟨hid, hrecord⟩ := Option.or_eq_none_iff.1 hnone
    exact ⟨_, _, rfl, saveFailure_eq (invalidJobId?_eq_none_iff.1 hid)
      (Option.map_eq_none_iff.1 hrecord)⟩
  | trace id steps =>
    obtain ⟨hid, hsteps⟩ := Option.or_eq_none_iff.1 hnone
    obtain ⟨hproblem, hencoded⟩ := Option.or_eq_none_iff.1 hsteps
    split at hencoded
    · next encoded hjson =>
      refine ⟨encoded, _, ?_, saveTrace_eq (invalidJobId?_eq_none_iff.1 hid)
        (Option.map_eq_none_iff.1 hproblem) hjson⟩
      rw [Entry.content?, hjson]
      rfl
    · cases hencoded

/-- Ensuring a directory fails by a fault at most. -/
theorem ensureDirectory_failsByFault (store : Store) (id : Bytes) :
    FailsByFault (store.ensureDirectory id) :=
  ((Files.makeDirectoriesWithin_failsByFault _ _ _).bind fun _ =>
    (Files.syncDirectory_failsByFault _).bind fun _ => Files.syncDirectory_failsByFault _).labelled _

/-- All that making the directory of a job adds is directories. -/
theorem ensureDirectory_adds (store : Store) (id : Bytes) :
    Relates Files.AddsDirectories (store.ensureDirectory id) :=
  ((Files.makeDirectoriesWithin_adds _ _ _).bind fun _ =>
    (Files.syncDirectory_relates _).bind fun _ => Files.syncDirectory_relates _).labelled _

/-- Making the directory of a job changes nothing just if it is there already. -/
theorem ensureDirectory_eq_self_iff {id : Bytes} {tree after : Tree}
    (h : (store.ensureDirectory id).on tree = (.ok (), after)) :
    after = tree ↔ tree.isDirectory (store.directory id) = true := by
  obtain ⟨_, middle, hmake, hsync⟩ := Files.bind_eq_ok (Files.labelled_eq_ok h)
  obtain ⟨_, _, hdirectory, hparent⟩ := Files.bind_eq_ok hsync
  obtain ⟨rfl, node, hnode⟩ := Files.syncDirectory_ok hdirectory
  obtain ⟨rfl, -⟩ := Files.syncDirectory_ok hparent
  unfold Files.makeDirectories Files.makeDirectoriesWithin at hmake
  rw [Files.on_get_bind] at hmake
  unfold Tree.isDirectory
  split at hmake
  · next hstat =>
    cases hmake
    rw [hstat]
    exact iff_of_true rfl rfl
  · exact absurd hmake Files.fail_ne_ok
  -- Nothing was there, but now something is.
  · next hstat =>
    rw [hstat]
    refine iff_of_false ?_ Bool.false_ne_true
    rintro rfl
    cases hstat.symm.trans hnode

/-! ## Archiving a job -/

/-- `Attempts store before parts after`: the entries are saved one after the other, each whether or
not another could be, and these are their errors. -/
inductive Attempts (store : Store) : Tree → List (Entry × Option Error) → Tree → Prop where
  | nil (tree : Tree) : Attempts store tree [] tree
  | saved {before middle after : Tree} {entry : Entry} {rest : List (Entry × Option Error)} :
      (store.save entry).on before = (.ok (), middle) → Attempts store middle rest after →
      Attempts store before ((entry, none) :: rest) after
  | failed {before middle after : Tree} {entry : Entry} {error : Error}
      {rest : List (Entry × Option Error)} :
      (store.save entry).on before = (.error error, middle) → Attempts store middle rest after →
      Attempts store before ((entry, some error) :: rest) after

/-- Attempts go on after attempts. -/
theorem Attempts.append {before middle after : Tree} {first second : List (Entry × Option Error)}
    (h : store.Attempts before first middle) (h' : store.Attempts middle second after) :
    store.Attempts before (first ++ second) after := by
  induction h with
  | nil => exact h'
  | saved hsave _ ih => exact .saved hsave (ih h')
  | failed hsave _ ih => exact .failed hsave (ih h')

/-- The attempt to save a part that may be missing has a result, whatever comes of it. -/
theorem exists_attemptPart (store : Store) (part : Option Entry) (tree : Tree) :
    ∃ problem after parts, (store.attemptPart part).on tree = (.ok problem, after) ∧
      parts.map (·.1) = part.toList ∧ store.Attempts tree parts after ∧
      parts.filterMap (·.2) = problem.toList := by
  cases part with
  | none => exact ⟨none, tree, [], rfl, rfl, .nil tree, rfl⟩
  | some entry =>
    have hattempt : (store.attemptPart (some entry)).on tree
        = match (store.save entry).on tree with
          | (.error error, tree) => (.ok (some error), tree)
          | (.ok _, tree) => (.ok none, tree) := rfl
    rcases hsave : (store.save entry).on tree with ⟨result, after⟩
    rw [hsave] at hattempt
    cases result with
    | ok _ => exact ⟨none, after, [(entry, none)], hattempt, rfl, .saved hsave (.nil after), rfl⟩
    | error error =>
      exact ⟨some error, after, [(entry, some error)], hattempt, rfl, .failed hsave (.nil after),
        rfl⟩

/-- The parts of two errors together are those of each. -/
theorem parts_combine? (first second : Option Error) :
    (Error.combine? first second).toList.flatMap Error.parts
      = (first.toList ++ second.toList).flatMap Error.parts := by
  cases first <;> cases second <;> simp [Error.combine?, Error.parts]

/-- A job is archived by attempting to save its parts, and their errors are told together. -/
theorem exists_attempts_of_archive (store : Store) (job : Finished) (started ended : Timestamp)
    (tree : Tree) :
    ∃ problem after parts, (store.archive job started ended).on tree = (.ok problem, after) ∧
      parts.map (·.1) = job.entries started ended ∧ store.Attempts tree parts after ∧
      problem.toList.flatMap Error.parts = (parts.filterMap (·.2)).flatMap Error.parts := by
  obtain ⟨problem₁, first, parts₁, hon₁, hentries₁, hattempts₁, herrors₁⟩ :=
    exists_attemptPart store (some (.job (job.record started ended))) tree
  obtain ⟨problem₂, second, parts₂, hon₂, hentries₂, hattempts₂, herrors₂⟩ :=
    exists_attemptPart store (job.failure.map (.failure job.jobId)) first
  obtain ⟨problem₃, third, parts₃, hon₃, hentries₃, hattempts₃, herrors₃⟩ :=
    exists_attemptPart store (job.trace.map (.trace job.jobId)) second
  refine ⟨Error.combine? (Error.combine? problem₁ problem₂) problem₃, third,
    parts₁ ++ parts₂ ++ parts₃, ?_, ?_, (hattempts₁.append hattempts₂).append hattempts₃, ?_⟩
  · rw [archive_eq_attemptParts, Action.on_bind, hon₁]
    dsimp only
    rw [Action.on_bind, hon₂]
    dsimp only
    rw [Action.on_bind, hon₃]
    rfl
  · rw [List.map_append, List.map_append, hentries₁, hentries₂, hentries₃]
    rfl
  · rw [parts_combine?, List.flatMap_append, parts_combine?, List.filterMap_append,
      List.filterMap_append, herrors₁, herrors₂, herrors₃, List.flatMap_append,
      List.flatMap_append, List.flatMap_append]

/-! ## What a rejected save leaves -/

/-- **Rejected saves.** A save that gives an error other than a file fault has been refused, and then
the tree is as it was, or a record that is otherwise valid has a time that cannot be written. Even
then no file and no link has changed. But the directory of the job is there now, so the tree is as it
was only if it had been there before. Archiving a job comes to such saves one after the other. -/
theorem rejected_save (store : Store) (tree : Tree) :
    (∀ (entry : Entry) (error : Error) (after : Tree),
      (store.save entry).on tree = (.error error, after) → ¬ error.IsFault →
      (entry.refusal? = some error ∧ after = tree) ∨
      ∃ record, entry = .job record ∧ record.invalid? = none ∧
        ¬ (record.startTime.IsWritable ∧ record.endTime.IsWritable) ∧
        (store.ensureDirectory record.jobId).on tree = (.ok (), after) ∧
        (after = tree ↔ tree.isDirectory (store.directory record.jobId) = true) ∧
        Files.AddsDirectories tree after) ∧
    (∀ (entry : Entry) (error : Error), entry.refusal? = some error →
      (store.save entry).on tree = (.error error, tree) ∧ ¬ error.IsFault) ∧
    ∀ (job : Finished) (started ended : Timestamp), ∃ problem after parts,
      (store.archive job started ended).on tree = (.ok problem, after) ∧
      parts.map (·.1) = job.entries started ended ∧ store.Attempts tree parts after ∧
      problem.toList.flatMap Error.parts = (parts.filterMap (·.2)).flatMap Error.parts := by
  refine ⟨?_, ?_, fun job started ended =>
    exists_attempts_of_archive store job started ended tree⟩
  · intro entry error after h hfault
    cases hrefusal : entry.refusal? with
    | some refusal =>
      rw [save_of_refusal hrefusal] at h
      cases h
      exact .inl ⟨rfl, rfl⟩
    | none =>
      cases hunwritable : entry.unwritable? with
      | some problem =>
        obtain ⟨record, rfl, htimes, -⟩ := Entry.unwritable?_eq_some hunwritable
        -- The directory comes before the text, so only here something is left behind.
        rw [save_of_unwritable hrefusal hunwritable, Action.on_bind] at h
        dsimp only [Entry.jobId] at h
        have hadds := ensureDirectory_adds store record.jobId tree
        have hmade := ensureDirectory_failsByFault store record.jobId tree
        rcases hensure : (store.ensureDirectory record.jobId).on tree with ⟨result, middle⟩
        rw [hensure] at h hmade hadds
        cases result with
        | error fault =>
          cases h
          exact absurd (hmade error rfl) hfault
        | ok _ =>
          cases h
          exact .inr ⟨record, rfl, Option.map_eq_none_iff.1 hrefusal, htimes, hensure,
            ensureDirectory_eq_self_iff hensure, hadds⟩
      | none =>
        obtain ⟨content, label, -, hsave⟩ := @save_of_writable store _ hrefusal hunwritable
        rw [hsave] at h
        exact absurd (saveFile_failsByFault _ _ _ tree error (congrArg Prod.fst h)) hfault
  · intro entry error h
    rw [save_of_refusal h]
    exact ⟨rfl, Entry.refusal?_not_isFault h⟩

namespace Sample

def absoluteStore : Store := ⟨bytes "/rec"⟩

/-- A job that is over in the last hour of year 9999 by a clock that is an hour behind. -/
def lateJob : Finished := ⟨bytes "a", bytes "Succeeded", 0, [], none, none⟩

def lateStart : Timestamp := ⟨315537897599, 0, 0⟩

def lateEnd : Timestamp := ⟨315537901199, 0, -3600⟩

/-- The error of its record. -/
def lateError : Error :=
  .wrap (bytes "marshal job") (.plain
    (bytes "json: error calling MarshalJSON for type time.Time: " ++
      bytes "Time.MarshalJSON: year outside of range [0,9999]"))

/-- Where there was nothing, there is a directory for the job. -/
def lateTree : Tree where
  here := []
  nodes := [([bytes "rec", bytes "jobs", bytes "a"], .directory 0o755),
    ([bytes "rec", bytes "jobs"], .directory 0o755), ([bytes "rec"], .directory 0o755)]
  links := []
  fresh := 1000000007

/-- Something is left when the guard comes too late. -/
theorem lateTree_ne_empty : lateTree ≠ Tree.empty :=
  fun h => List.cons_ne_nil _ _ (congrArg Tree.nodes h)

/-- The record is refused too late, and leaves the directory of the job behind. -/
theorem rejected_save_late :
    ∃ after, (absoluteStore.save (.job (lateJob.record lateStart lateEnd))).on Tree.empty
        = (.error lateError, after) ∧ ¬ lateError.IsFault ∧ after ≠ Tree.empty ∧
      Files.AddsDirectories Tree.empty after := by
  have hsave : (absoluteStore.save (.job (lateJob.record lateStart lateEnd))).on Tree.empty
      = (.error lateError, lateTree) := by
    rfl
  have hfault : ¬ lateError.IsFault := fun hfault => hfault
  rcases (rejected_save absoluteStore Tree.empty).1 _ _ _ hsave hfault with
    ⟨-, hempty⟩ | ⟨record, -, -, -, -, -, hadds⟩
  · exact absurd hempty lateTree_ne_empty
  · exact ⟨_, hsave, hfault, lateTree_ne_empty, hadds⟩

/-- Without zone the job is over in year 10000. It cannot be archived, no file operation has failed,
and there is a directory for it now. -/
theorem archive_marks_tree :
    ¬ ∀ (store : Store) (job : Finished) (started ended : Timestamp) (tree after : Tree)
        (problem : Error), job.failure = none → job.trace = none →
      (store.archive job started ended).on tree = (.ok (some problem), after) →
      ¬ problem.TellsFault → after = tree := by
  intro h
  have harchive : (absoluteStore.archive lateJob lateStart lateEnd).on Tree.empty
      = (.ok (some lateError), lateTree) := by
    rfl
  have hfault : ¬ lateError.TellsFault := by
    rintro ⟨part, hmem, hpart⟩
    rw [List.mem_singleton.1 hmem] at hpart
    exact hpart
  exact lateTree_ne_empty (h _ _ _ _ _ _ _ rfl rfl harchive hfault)

end Sample

end Store

end Archive

end FunctionChain
