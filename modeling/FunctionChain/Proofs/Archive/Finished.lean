import FunctionChain.Archive.Store
import FunctionChain.Proofs.Archive.RoundTrip
import FunctionChain.Proofs.Failure.Sound

/-!
# Archived jobs

A finished job that is sound can be archived: only a file operation that fails can be in the way,
and its fault is then told. Otherwise the archive reads back as what was saved (`archive_spec`): the
record of the job, the record of its failure if it has one, and the canonical form of its trace if
it has one.
-/

namespace FunctionChain

/-! ## Readings of the clock -/

/-- A time that a clock can show: later than the beginning of year 1 and not beyond year 9999. -/
structure Timestamp.IsReading (time : Timestamp) : Prop where
  nanos : time.nanos < 10 ^ 9
  later : Timestamp.zero.isBefore time = true
  year : time.toUtc.date.year ≤ 9999

namespace Timestamp.IsReading

variable {time : Timestamp} (h : time.IsReading)
include h

/-- A clock is read after the beginning of time. -/
theorem seconds_pos : 0 < time.seconds ∨ 0 = time.seconds ∧ 0 < time.nanos := by
  have hlater := h.later
  rwa [Timestamp.isBefore, Bool.or_eq_true, Bool.and_eq_true, decide_eq_true_eq, decide_eq_true_eq,
    beq_iff_eq] at hlater

/-- What is read is not the zero time. -/
theorem isZero_toUtc : time.toUtc.isZero = false := by
  have hpos := h.seconds_pos
  simp only [Timestamp.isZero, Timestamp.toUtc, Bool.and_eq_false_iff, beq_eq_false_iff_ne]
  omega

/-- What is read is written exactly. -/
theorem isExact_toUtc : time.toUtc.IsExact := ⟨h.nanos, rfl⟩

/-- What is read can be written. -/
theorem exists_timeJson : ∃ json, Archive.JobRecord.timeJson time.toUtc = .ok json := by
  have hpos := h.seconds_pos
  have hday : 0 ≤ (time.toUtc.seconds + time.toUtc.offset) / daySeconds := by
    simp only [Timestamp.toUtc, Int.add_zero, daySeconds]
    omega
  have hfirst := Calendar.one_le_year_dateOf hday
  have hwrite : time.toUtc.write = .ok time.toUtc.preciseText :=
    Timestamp.write_eq_ok_iff.2
      ⟨⟨Int.le_trans (by decide) hfirst, h.year⟩, Nat.lt_of_sub_eq_succ rfl, rfl⟩
  exact ⟨_, Archive.timeJson_eq_ok_iff.2 ⟨_, hwrite, rfl⟩⟩

end Timestamp.IsReading

/-- The readings of a clock before and after a job. -/
structure Timestamp.AreReadings (started ended : Timestamp) : Prop where
  first : started.IsReading
  last : ended.IsReading
  order : ended.isBefore started = false

/-! ## Faults -/

/-- The error tells of a file operation that has failed. -/
def Error.TellsFault (error : Error) : Prop := ∃ part ∈ error.parts, part.IsFault

/-- A fault tells of one. -/
theorem Error.IsFault.tellsFault {error : Error} (h : error.IsFault) : error.TellsFault := by
  cases error with
  | file fault => exact ⟨.file fault, List.mem_singleton_self _, h⟩
  | wrap message cause => exact ⟨.wrap message cause, List.mem_singleton_self _, h⟩
  | _ => cases h

/-- Two errors together are none just if neither is there. -/
theorem Error.combine?_eq_none_iff {first second : Option Error} :
    Error.combine? first second = none ↔ first = none ∧ second = none := by
  cases first <;> cases second <;> simp [Error.combine?]

/-- An error that tells of a fault does so also when it is combined with another. -/
theorem Error.exists_combine? {first second : Option Error}
    (h : (∃ error, first = some error ∧ error.TellsFault) ∨
      ∃ error, second = some error ∧ error.TellsFault) :
    ∃ error, Error.combine? first second = some error ∧ error.TellsFault := by
  rcases h with ⟨error, rfl, htells⟩ | ⟨error, rfl, htells⟩
  · obtain ⟨part, hmem, hfault⟩ := htells
    cases second with
    | none => exact ⟨error, rfl, part, hmem, hfault⟩
    | some other => exact ⟨_, rfl, part, List.mem_append_left _ hmem, hfault⟩
  · obtain ⟨part, hmem, hfault⟩ := htells
    cases first with
    | none => exact ⟨error, rfl, part, hmem, hfault⟩
    | some other => exact ⟨_, rfl, part, List.mem_append_right _ hmem, hfault⟩

namespace Archive

open Files Files.Action

namespace Store

variable {store : Store} {id : Bytes}

/-! ## The parts of a job -/

/-- A valid job is saved as the text of its fields. -/
theorem saveJob_eq {record : JobRecord} (hvalid : record.invalid? = none)
    {fields : List Json.Field} (hfields : record.fields = .ok fields) :
    store.saveJob record
      = store.saveFile record.jobId (bytes "job.json") (bytes "write job")
        (Json.indentedRecord fields) := by
  rw [saveJob, hvalid, hfields]
  rfl

/-- A valid failure is saved as the text of its fields. -/
theorem saveFailure_eq (hid : IsJobId id) {record : Failure.Record}
    (hvalid : record.invalid? = none) :
    store.saveFailure id record
      = store.saveFile id (bytes "failure.json") (bytes "write failure")
        (Json.indentedRecord record.fields) := by
  rw [saveFailure, invalidJobId?_eq_none_iff.2 hid, hvalid]
  rfl

/-- A valid trace is saved in its canonical form. -/
theorem saveTrace_eq (hid : IsJobId id) {trace : Trace} (hvalid : trace.problem? = none)
    {encoded : Bytes} (hencoded : trace.canonicalJson = .ok encoded) :
    store.saveTrace id trace
      = store.saveFile id (bytes "trace.json") (bytes "write trace") encoded := by
  rw [saveTrace, invalidJobId?_eq_none_iff.2 hid, hvalid, hencoded]
  rfl

/-- Attempt to save a file of a job, if there is something to save. -/
def attemptFile (store : Store) (id name label : Bytes) : Option Bytes → Action (Option Error)
  | some content => (store.saveFile id name label content).attempt
  | none => pure none

/-- A file of a job has been saved, or there was nothing to save. -/
def SavesFile (store : Store) (id name label : Bytes) (tree after : Tree) : Option Bytes → Prop
  | some content => (store.saveFile id name label content).on tree = (.ok (), after)
  | none => after = tree

/-- Saving a file fails by a fault at most. -/
theorem saveFile_failsByFault (name label content : Bytes) :
    FailsByFault (store.saveFile id name label content) :=
  (((makeDirectoriesWithin_failsByFault _ _ _).bind fun _ =>
    (syncDirectory_failsByFault _).bind fun _ => syncDirectory_failsByFault _).labelled _).bind
    fun _ => ((replaceFile_failsByFault _ _ _).bind fun _ =>
      syncDirectory_failsByFault _).labelled _

/-- A file is saved, or a fault is told. -/
theorem exists_attemptFile (name label : Bytes) (content : Option Bytes) (tree : Tree) :
    ∃ problem after, (store.attemptFile id name label content).on tree = (.ok problem, after) ∧
      (problem = none ∧ store.SavesFile id name label tree after content ∨
        ∃ error, problem = some error ∧ error.TellsFault) := by
  cases content with
  | none => exact ⟨none, tree, rfl, .inl ⟨rfl, rfl⟩⟩
  | some content =>
    have hfault := @saveFile_failsByFault store id name label content tree
    rcases hon : (store.saveFile id name label content).on tree with ⟨result, after⟩
    have hattempt : (store.attemptFile id name label (some content)).on tree
        = match (store.saveFile id name label content).on tree with
          | (.error error, tree) => (.ok (some error), tree)
          | (.ok _, tree) => (.ok none, tree) := rfl
    rw [hon] at hfault hattempt
    cases result with
    | ok result => exact ⟨none, after, hattempt, .inl ⟨rfl, hon⟩⟩
    | error error =>
      exact ⟨some error, after, hattempt, .inr ⟨error, rfl, (hfault error rfl).tellsFault⟩⟩

/-- The directory of a job after a further file has been saved, if there was something to save. -/
theorem Holds.saves {tree after : Tree} {place : Location} {files : Bytes → Option Bytes}
    (h : Holds store id tree place files) (hid : IsJobId id) {name label : Bytes}
    (hname : IsFileName name) (hfree : files name = none) {content : Option Bytes}
    (hsaves : store.SavesFile id name label tree after content) :
    Holds store id after place (Function.update files name content) := by
  cases content with
  | none =>
    cases hsaves
    rwa [← hfree, Function.update_eq_self]
  | some content =>
    obtain ⟨other, hsaved⟩ := hasSaved hid hname h.proper hsaves
    exact hsaved.holds_next h

end Store

/-- What is archived of a job may be kept and can be read back. -/
structure Finished.IsSound (job : Finished) : Prop where
  jobId : IsJobId job.jobId
  status : Blank.isAllBlank job.status = false
  exitCode : Word.IsSigned job.exitCode
  failure : ∀ record, job.failure = some record → record.IsSound
  trace : ∀ trace, job.trace = some trace →
    trace.problem? = none ∧ ∃ encoded, trace.canonicalJson = .ok encoded

namespace Finished

variable {job : Finished} {started ended : Timestamp}

/-- The record of a sound job is valid. -/
theorem record_valid (h : job.IsSound) (hclock : Timestamp.AreReadings started ended) :
    (job.record started ended).invalid? = none :=
  invalid?_job_eq_none_iff.2 ⟨h.jobId, hclock.first.isZero_toUtc, hclock.order, h.status⟩

/-- The record of a sound job is written exactly. -/
theorem record_isExact (h : job.IsSound) (hclock : Timestamp.AreReadings started ended) :
    (job.record started ended).IsExact :=
  ⟨hclock.first.isExact_toUtc, hclock.last.isExact_toUtc, h.exitCode⟩

/-- The record of a job can be written. -/
theorem exists_fields (hclock : Timestamp.AreReadings started ended) :
    ∃ fields, (job.record started ended).fields = .ok fields := by
  obtain ⟨start, hstart⟩ := hclock.first.exists_timeJson
  obtain ⟨finish, hfinish⟩ := hclock.last.exists_timeJson
  exact ⟨_, fields_eq_ok_iff.2 ⟨start, finish, hstart, hfinish, rfl⟩⟩

end Finished

namespace Store

variable {store : Store} {job : Finished} {started ended : Timestamp}

/-- A sound job is archived by saving its files. -/
theorem archive_eq (h : job.IsSound) (hclock : Timestamp.AreReadings started ended) :
    ∃ fields, (job.record started ended).fields = .ok fields ∧
      store.archive job started ended = (do
        let first ← store.attemptFile job.jobId (bytes "job.json") (bytes "write job")
          (some (Json.indentedRecord fields))
        let second ← store.attemptFile job.jobId (bytes "failure.json") (bytes "write failure")
          (job.failure.map fun record => Json.indentedRecord record.fields)
        let third ← store.attemptFile job.jobId (bytes "trace.json") (bytes "write trace")
          (job.trace.bind fun trace => trace.canonicalJson.toOption)
        return Error.combine? (Error.combine? first second) third) := by
  obtain ⟨fields, hfields⟩ := @Finished.exists_fields job started ended hclock
  refine ⟨fields, hfields, ?_⟩
  unfold archive
  rw [saveJob_eq (Finished.record_valid h hclock) hfields]
  -- The parts that may be missing are told apart first: all that follows a part is in its branches.
  cases hfailure : job.failure with
  | none =>
    cases htrace : job.trace with
    | none => rfl
    | some trace =>
      obtain ⟨hvalid, encoded, hencoded⟩ := h.trace trace htrace
      simp only [saveTrace_eq h.jobId hvalid hencoded, Option.bind_some, hencoded]
      rfl
  | some record =>
    simp only [saveFailure_eq h.jobId (h.failure record hfailure).valid]
    cases htrace : job.trace with
    | none => rfl
    | some trace =>
      obtain ⟨hvalid, encoded, hencoded⟩ := h.trace trace htrace
      simp only [saveTrace_eq h.jobId hvalid hencoded, Option.bind_some, hencoded]
      rfl

/-- A sound job is archived as a whole, or a fault is told. -/
theorem exists_archive (h : job.IsSound) (hclock : Timestamp.AreReadings started ended)
    (tree : Tree) :
    ∃ problem after, (store.archive job started ended).on tree = (.ok problem, after) ∧
      ((∃ error, problem = some error ∧ error.TellsFault) ∨
        problem = none ∧ ∃ fields first second,
          (job.record started ended).fields = .ok fields ∧
          (store.saveFile job.jobId (bytes "job.json") (bytes "write job")
            (Json.indentedRecord fields)).on tree = (.ok (), first) ∧
          store.SavesFile job.jobId (bytes "failure.json") (bytes "write failure") first second
            (job.failure.map fun record => Json.indentedRecord record.fields) ∧
          store.SavesFile job.jobId (bytes "trace.json") (bytes "write trace") second after
            (job.trace.bind fun trace => trace.canonicalJson.toOption)) := by
  obtain ⟨fields, hfields, harchive⟩ := @archive_eq store job started ended h hclock
  generalize (job.failure.map fun record => Json.indentedRecord record.fields) = failure at *
  generalize (job.trace.bind fun trace => trace.canonicalJson.toOption) = trace at *
  obtain ⟨problem₁, first, hfirst, hcase₁⟩ := @exists_attemptFile store job.jobId
    (bytes "job.json") (bytes "write job") (some (Json.indentedRecord fields)) tree
  obtain ⟨problem₂, second, hsecond, hcase₂⟩ := @exists_attemptFile store job.jobId
    (bytes "failure.json") (bytes "write failure") failure first
  obtain ⟨problem₃, after, hthird, hcase₃⟩ := @exists_attemptFile store job.jobId
    (bytes "trace.json") (bytes "write trace") trace second
  refine ⟨Error.combine? (Error.combine? problem₁ problem₂) problem₃, after, ?_, ?_⟩
  · rw [harchive, on_bind, hfirst]
    dsimp only
    rw [on_bind, hsecond]
    dsimp only
    rw [on_bind, hthird]
    rfl
  · rcases hcase₁ with ⟨rfl, hsave₁⟩ | hfault
    · rcases hcase₂ with ⟨rfl, hsave₂⟩ | hfault
      · rcases hcase₃ with ⟨rfl, hsave₃⟩ | hfault
        · exact .inr ⟨rfl, fields, first, second, hfields, hsave₁, hsave₂, hsave₃⟩
        · exact .inl (Error.exists_combine? (.inr hfault))
      · exact .inl (Error.exists_combine? (.inl (Error.exists_combine? (.inr hfault))))
    · exact .inl (Error.exists_combine? (.inl (Error.exists_combine? (.inl hfault))))

/-- **The archive.** A sound job that is not in the archive is archived, unless a fault is told, and
is then read back part by part. -/
theorem archive_spec (h : job.IsSound) (hclock : Timestamp.AreReadings started ended) {tree : Tree}
    (hproper : tree.IsProper) (hnew : tree.isThere (store.directory job.jobId) = false) :
    ∃ problem after, (store.archive job started ended).on tree = (.ok problem, after) ∧
      ((∃ error, problem = some error ∧ error.TellsFault) ∨ problem = none ∧
        (store.loadJob job.jobId).on after = (.ok (job.record started ended).sanitized, after) ∧
        (store.loadFailure job.jobId).on after = (.ok (job.failure.map sanitizedFailure), after) ∧
        after.stat (store.tracePath job.jobId)
          = match job.trace.bind fun trace => trace.canonicalJson.toOption with
            | some encoded => .ok (.file 0o644 encoded)
            | none => .error .notFound) := by
  obtain ⟨problem, after, harchive, hcase⟩ := @exists_archive store _ _ _ h hclock tree
  refine ⟨problem, after, harchive, hcase.imp_right ?_⟩
  rintro ⟨hnone, fields, first, second, hfields, hjob, hfailure, htrace⟩
  have hjobFailure : bytes "job.json" ≠ bytes "failure.json" := by decide
  have hjobTrace : bytes "job.json" ≠ bytes "trace.json" := by decide
  have hfailureTrace : bytes "failure.json" ≠ bytes "trace.json" := by decide
  -- The three files have different names in one directory, so none is in the way of another.
  obtain ⟨place, hsaved⟩ := hasSaved h.jobId (.inl rfl) hproper hjob
  have hfirst := hsaved.holds_first hnew
  have hsecond :=
    hfirst.saves h.jobId (.inr (.inl rfl)) (Function.update_of_ne hjobFailure.symm _ _) hfailure
  have hthird := hsecond.saves h.jobId (.inr (.inr rfl)) (by
    rw [Function.update_of_ne hfailureTrace.symm, Function.update_of_ne hjobTrace.symm]) htrace
  have hstat {name : Bytes} (hname : IsFileName name) :=
    hthird.stat h.jobId hname (hsaved.paths hname)
  refine ⟨hnone, ?_, ?_, ?_⟩
  · have hfile := hstat (.inl rfl)
    rw [Function.update_of_ne hjobTrace, Function.update_of_ne hjobFailure,
      Function.update_self] at hfile
    exact loadJob_of_stat h.jobId hfile (readText_job (Finished.record_isExact h hclock) hfields)
      (invalid?_sanitized_job (Finished.record_valid h hclock))
  · have hfile := hstat (.inr (.inl rfl))
    rw [Function.update_of_ne hfailureTrace, Function.update_self] at hfile
    cases hcase : job.failure with
    | none =>
      rw [hcase] at hfile
      exact loadFailure_of_missing h.jobId hfile
    | some record =>
      rw [hcase] at hfile
      obtain ⟨hrecord, hexit⟩ := h.failure record hcase
      exact loadFailure_of_stat h.jobId hfile (readText_failure hexit)
        (invalid?_sanitized_failure hrecord)
  · have hfile := hstat (.inr (.inr rfl))
    rwa [Function.update_self] at hfile

end Store

end Archive

end FunctionChain
