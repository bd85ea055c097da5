import FunctionChain.Proofs.Archive.History
import FunctionChain.Proofs.Job.Archived
import FunctionChain.Proofs.Job.Consistency

/-!
# Jobs that are archived again

Ids may repeat, and a job that is archived under an id that is there already is written over what
was kept under it, file by file. Only the files that the new result has are written, so the others
stay: the archive describes the last result alone just if no earlier one has left a file behind that
the last one does not have (`archived_describesOnly_iff`).
-/

namespace FunctionChain

namespace Archive

open Files (Tree)

/-- What is saved when a job is archived. -/
def Finished.entries (job : Finished) (started ended : Timestamp) : List Entry :=
  .job (job.record started ended) :: (job.failure.map (.failure job.jobId)).toList
    ++ (job.trace.map (.trace job.jobId)).toList

/-- A value that is there was no error. -/
theorem eq_ok_of_toOption {ε α : Type} {result : Except ε α} {value : α}
    (h : result.toOption = some value) : result = .ok value := by
  cases result with
  | error => cases h
  | ok => exact congrArg Except.ok (Option.some.inj h)

namespace Store

variable {store : Store} {tree after : Tree}

/-- Attempt to save a part of a job, if the job has it. -/
def attemptPart (store : Store) : Option Entry → Files.Action (Option Error)
  | some entry => (store.save entry).attempt
  | none => pure none

/-- A part of a job that may be missing has been saved if its attempt tells no error. -/
theorem saves_of_attemptPart {part : Option Entry}
    (h : (store.attemptPart part).on tree = (.ok none, after)) :
    store.Saves tree part.toList after := by
  cases part with
  | none =>
    cases h
    exact .nil tree
  | some entry => exact .cons (Files.attempt_eq_ok h) (.nil after)

/-- A job is archived by attempting to save its parts one after the other. -/
theorem archive_eq_attemptParts (job : Finished) (started ended : Timestamp) :
    store.archive job started ended = (do
      let first ← store.attemptPart (some (.job (job.record started ended)))
      let second ← store.attemptPart (job.failure.map (.failure job.jobId))
      let third ← store.attemptPart (job.trace.map (.trace job.jobId))
      return Error.combine? (Error.combine? first second) third) := by
  unfold archive
  cases job.failure <;> cases job.trace <;> rfl

/-- A job that is archived without an error is saved in all its parts. -/
theorem saves_of_archive {job : Finished} {started ended : Timestamp}
    (h : (store.archive job started ended).on tree = (.ok none, after)) :
    store.Saves tree (job.entries started ended) after := by
  rw [archive_eq_attemptParts] at h
  obtain ⟨first, middle, hfirst, h⟩ := Files.bind_eq_ok h
  obtain ⟨second, later, hsecond, h⟩ := Files.bind_eq_ok h
  obtain ⟨third, last, hthird, h⟩ := Files.bind_eq_ok h
  obtain ⟨hcombined, rfl⟩ := Files.pure_eq_ok h
  rw [Error.combine?_eq_none_iff, Error.combine?_eq_none_iff] at hcombined
  obtain ⟨⟨rfl, rfl⟩, rfl⟩ := hcombined
  exact .cons (Files.attempt_eq_ok hfirst)
    ((saves_of_attemptPart hsecond).append (saves_of_attemptPart hthird))

end Store

end Archive

namespace Job

open Files (Tree)
open Archive (Store Entry)

/-! ## Histories -/

/-- The record of a failed job and nothing else is there if the result is that of a job. -/
theorem Result.IsConsistent.failed_iff {result : Result} {hasBrokenDown : Bool}
    (h : result.IsConsistent hasBrokenDown) :
    result.kind = .failed ↔ result.failure.isSome = true := by
  have hkind : result.kind = .failed ↔ ¬ result.kind = .succeeded := by
    cases result.kind <;> simp
  rw [hkind, h.succeeded_iff, h.error_iff, Option.isSome_iff_ne_none]

/-- The result is that of some request to some service. -/
def Result.IsCompiled (result : Result) : Prop :=
  ∃ (σ : Type) (service : Service σ) (free : Nat) (request : Request) (state : State σ),
    result = (compile service free request state).1

/-- A compiled result has the record of a failure just if the job has failed. -/
theorem Result.IsCompiled.failed_iff {result : Result} (h : result.IsCompiled) :
    result.kind = .failed ↔ result.failure.isSome = true := by
  obtain ⟨σ, service, free, request, state, rfl⟩ := h
  have hends := compile_ends service free request state
  generalize (compile service free request state).1 = result at hends
  cases hends with
  | refused => exact (Draft.failWith_isConsistent _ _).failed_iff
  | unread => exact (Draft.failWith_isConsistent _ _).failed_iff
  | handed => exact (Draft.afterRun_isConsistent _ _).failed_iff

/-- A result that is archived, with the readings of the clock before and after the job. -/
structure Filing where
  result : Result
  started : Timestamp
  ended : Timestamp

namespace Filing

/-- What is saved of it. -/
def entries (filing : Filing) : List Entry :=
  filing.result.finished.entries filing.started filing.ended

/-- The record that is kept of the job. -/
def record (filing : Filing) : Archive.JobRecord :=
  filing.result.finished.record filing.started filing.ended

end Filing

/-- `Archives store before filings after`: the results are archived one after the other, none of
them with an error. -/
inductive Archives (store : Store) : Tree → List Filing → Tree → Prop where
  | nil (tree : Tree) : Archives store tree [] tree
  | cons {before middle after : Tree} {filing : Filing} {rest : List Filing} :
      (store.archive filing.result.finished filing.started filing.ended).on before
        = (.ok none, middle) →
      Archives store middle rest after → Archives store before (filing :: rest) after

/-- Filing results saves their entries, one after the other. -/
theorem Archives.saves {store : Store} {tree after : Tree} {filings : List Filing}
    (h : Archives store tree filings after) :
    store.Saves tree (filings.flatMap Filing.entries) after := by
  induction h with
  | nil tree => exact .nil tree
  | cons harchive _ ih => exact (Store.saves_of_archive harchive).append ih

/-! ## What was archived last -/

section Last

variable {filing : Filing} {id : Bytes}

/-- The entries of a result are those of its job. -/
theorem jobId_of_mem_entries {entry : Entry} (h : entry ∈ filing.entries) :
    entry.jobId = filing.result.jobId := by
  simp only [Filing.entries, Archive.Finished.entries, List.cons_append, List.mem_cons,
    List.mem_append, Option.mem_toList, Option.map_eq_some_iff] at h
  rcases h with rfl | ⟨_, -, rfl⟩ | ⟨_, -, rfl⟩ <;> rfl

/-- The entries of a result by the names of their files. -/
theorem latest?_entries (filing : Filing) :
    Archive.latest? filing.entries filing.result.jobId (bytes "job.json")
        = some (.job filing.record) ∧
      Archive.latest? filing.entries filing.result.jobId (bytes "failure.json")
        = filing.result.failure.map (.failure filing.result.jobId) ∧
      Archive.latest? filing.entries filing.result.jobId (bytes "trace.json")
        = filing.result.trace.map (.trace filing.result.jobId) := by
  have hjobFailure : bytes "job.json" ≠ bytes "failure.json" := by decide
  have hjobTrace : bytes "job.json" ≠ bytes "trace.json" := by decide
  have hfailureTrace : bytes "failure.json" ≠ bytes "trace.json" := by decide
  have hentries : filing.entries = [Entry.job filing.record]
      ++ ((filing.result.failure.map (.failure filing.result.jobId)).toList
      ++ (filing.result.trace.map (.trace filing.result.jobId)).toList) := rfl
  have hjobId : filing.record.jobId = filing.result.jobId := rfl
  rw [hentries]
  simp only [Archive.latest?_append, Archive.latest?_singleton, Entry.jobId, Entry.fileName,
    hjobId]
  cases filing.result.failure <;> cases filing.result.trace <;>
    simp [Archive.latest?, Entry.jobId, Entry.fileName, hjobFailure, hjobTrace, hfailureTrace,
      hjobFailure.symm, hjobTrace.symm, hfailureTrace.symm]

/-- Results have saved a file under a name if one of them has. -/
theorem latest?_flatMap_eq_none_iff {filings : List Filing} {name : Bytes} :
    Archive.latest? (filings.flatMap Filing.entries) id name = none ↔
      ∀ filing ∈ filings, filing.result.jobId = id →
        Archive.latest? filing.entries id name = none := by
  simp only [Archive.latest?_eq_none_iff, List.mem_flatMap]
  constructor
  · intro h filing hfiling _ entry hentry
    exact h entry ⟨filing, hfiling, hentry⟩
  · rintro h entry ⟨filing, hfiling, hentry⟩ hid
    exact h filing hfiling (jobId_of_mem_entries hentry ▸ hid) entry hentry hid

end Last

/-- A history in which one result was the last under its id. -/
structure IsHistory (store : Store) (before after : Tree) (earlier : List Filing) (last : Filing)
    (later : List Filing) : Prop where
  proper : before.IsProper
  vacant : store.IsVacant before
  archives : Archives store before (earlier ++ last :: later) after
  last : ∀ filing ∈ later, filing.result.jobId ≠ last.result.jobId

namespace IsHistory

variable {store : Store} {before after : Tree} {earlier later : List Filing} {last : Filing}
  (h : IsHistory store before after earlier last later) {name : Bytes}
include h

/-- What was saved last under the id: a file of the last result, or else one that an earlier result
has left. -/
theorem latest?_eq (name : Bytes) :
    Archive.latest? ((earlier ++ last :: later).flatMap Filing.entries) last.result.jobId name
      = (Archive.latest? last.entries last.result.jobId name).or
        (Archive.latest? (earlier.flatMap Filing.entries) last.result.jobId name) := by
  have hlater : Archive.latest? (later.flatMap Filing.entries) last.result.jobId name = none :=
    latest?_flatMap_eq_none_iff.2 fun filing hmem hid => absurd hid (h.last filing hmem)
  rw [List.flatMap_append, List.flatMap_cons, Archive.latest?_append,
    Archive.latest?_append, hlater, Option.none_or]

/-- A file of the job is what was saved last under its name. -/
theorem stat (hname : Archive.IsFileName name) :
    (∃ entry content,
      Archive.latest? ((earlier ++ last :: later).flatMap Filing.entries) last.result.jobId name
        = some entry ∧ entry.content? = some content ∧
      after.stat (store.filePath last.result.jobId name) = .ok (.file 0o644 content)) ∨
    Archive.latest? ((earlier ++ last :: later).flatMap Filing.entries) last.result.jobId name
      = none ∧ after.stat (store.filePath last.result.jobId name) = .error .notFound := by
  have hid : last.result.jobId
      ∈ ((earlier ++ last :: later).flatMap Filing.entries).map Entry.jobId := by
    refine List.mem_map.2 ⟨.job last.record, List.mem_flatMap.2 ⟨last, by simp, ?_⟩, rfl⟩
    exact List.mem_append_left _ (List.mem_cons_self ..)
  obtain ⟨-, htook⟩ := Store.Saves.kept (.vacant h.proper h.vacant) h.archives.saves
  rw [h.archives.saves.stat h.proper h.vacant hid hname, Archive.lastContent?]
  cases hentry : Archive.latest? ((earlier ++ last :: later).flatMap Filing.entries)
      last.result.jobId name with
  | none => exact .inr ⟨rfl, rfl⟩
  | some entry =>
    obtain ⟨content, hcontent⟩ :=
      Option.isSome_iff_exists.1 (htook entry (Archive.mem_of_latest? hentry)).content
    refine .inl ⟨entry, content, rfl, hcontent, ?_⟩
    rw [Option.bind_some, hcontent]

/-- What the last result has is there as its own. -/
theorem stat_of_last (hname : Archive.IsFileName name) {entry : Entry}
    (hentry : Archive.latest? last.entries last.result.jobId name = some entry) :
    ∃ content, entry.content? = some content ∧
      after.stat (store.filePath last.result.jobId name) = .ok (.file 0o644 content) := by
  have hlast := h.latest?_eq name
  rw [hentry, Option.some_or] at hlast
  rcases h.stat hname with ⟨other, content, hother, hcontent, hstat⟩ | ⟨hnone, -⟩
  · cases hother.symm.trans hlast
    exact ⟨content, hcontent, hstat⟩
  · cases hnone.symm.trans hlast

/-- A file is there if the last result or an earlier one under the id has it. -/
theorem isThere (hname : Archive.IsFileName name) :
    after.isThere (store.filePath last.result.jobId name) = true ↔
      Archive.latest? last.entries last.result.jobId name ≠ none ∨
      ∃ filing ∈ earlier, filing.result.jobId = last.result.jobId ∧
        Archive.latest? filing.entries last.result.jobId name ≠ none := by
  have hearlier : (∃ filing ∈ earlier, filing.result.jobId = last.result.jobId ∧
      Archive.latest? filing.entries last.result.jobId name ≠ none) ↔
      Archive.latest? (earlier.flatMap Filing.entries) last.result.jobId name ≠ none := by
    rw [ne_eq, latest?_flatMap_eq_none_iff]
    push Not
    rfl
  have hall : after.isThere (store.filePath last.result.jobId name) = true ↔
      Archive.latest? ((earlier ++ last :: later).flatMap Filing.entries) last.result.jobId name
        ≠ none := by
    rcases h.stat hname with ⟨entry, content, hentry, -, hstat⟩ | ⟨hnone, hstat⟩
    · rw [hentry, Tree.isThere, hstat]
      simp
    · rw [hnone, Tree.isThere, hstat]
      simp
  rw [hall, hearlier, h.latest?_eq, ne_eq, Option.or_eq_none_iff, not_and_or]

/-- If results have the file just when something holds of them, then it tells of the last result
just if that holds of it when it holds of an earlier one. -/
theorem isThere_iff_iff (hname : Archive.IsFileName name) (has : Filing → Prop)
    (hhas : ∀ filing ∈ earlier ++ last :: later,
      has filing ↔ Archive.latest? filing.entries filing.result.jobId name ≠ none) :
    (after.isThere (store.filePath last.result.jobId name) = true ↔ has last) ↔
      ∀ filing ∈ earlier, filing.result.jobId = last.result.jobId → has filing → has last := by
  rw [h.isThere hname, ← hhas last (by simp)]
  constructor
  · intro hiff filing hmem hid hfiling
    refine hiff.1 (.inr ⟨filing, hmem, hid, ?_⟩)
    rw [← hid]
    exact (hhas filing (List.mem_append_left _ hmem)).1 hfiling
  · intro hearlier
    refine ⟨fun hthere => ?_, .inl⟩
    rcases hthere with hlast | ⟨filing, hmem, hid, hfiling⟩
    · exact hlast
    · rw [← hid] at hfiling
      exact hearlier filing hmem hid ((hhas filing (List.mem_append_left _ hmem)).2 hfiling)

end IsHistory

/-- The archive describes this result under its id and nothing else: the record of the job is its
record, there is a failure just if the job failed, and a trace just if it has one, and they are its
own. -/
structure DescribesOnly (store : Store) (tree : Tree) (filing : Filing) : Prop where
  job : ∃ fields, filing.record.fields = .ok fields ∧
    tree.stat (store.jobPath filing.result.jobId) = .ok (.file 0o644 (Json.indentedRecord fields))
  failure_iff : tree.isThere (store.failurePath filing.result.jobId) = true ↔
    filing.result.kind = .failed
  failure : ∀ record, filing.result.failure = some record →
    tree.stat (store.failurePath filing.result.jobId)
      = .ok (.file 0o644 (Json.indentedRecord record.fields))
  trace_iff : tree.isThere (store.tracePath filing.result.jobId) = true ↔
    filing.result.trace.isSome = true
  trace : ∀ trace, filing.result.trace = some trace → ∃ encoded,
    trace.canonicalJson = .ok encoded ∧
    tree.stat (store.tracePath filing.result.jobId) = .ok (.file 0o644 encoded)

/-- **Archiving again.** After any history of results that were archived without an error, the
directory of a job describes the last result under its id and nothing else just if that has a
failure when an earlier one under the id has one, and a trace when an earlier one has one. -/
theorem archived_describesOnly_iff {store : Store} {before after : Tree}
    {earlier later : List Filing} {last : Filing}
    (h : IsHistory store before after earlier last later)
    (hcompiled : ∀ filing ∈ earlier ++ last :: later, filing.result.IsCompiled) :
    DescribesOnly store after last ↔
      ∀ filing ∈ earlier, filing.result.jobId = last.result.jobId →
        (filing.result.kind = .failed → last.result.kind = .failed) ∧
        (filing.result.trace.isSome = true → last.result.trace.isSome = true) := by
  obtain ⟨hjob, hfailure, htrace⟩ := latest?_entries last
  -- A part is in the directory just if some result under the id, the last or an earlier one, has it.
  have hfailureIff := h.isThere_iff_iff (.inr (.inl rfl)) (·.result.kind = .failed)
    fun filing hmem => by
      rw [(hcompiled filing hmem).failed_iff, (latest?_entries filing).2.1, ne_eq,
        Option.map_eq_none_iff, Option.isSome_iff_ne_none]
  have htraceIff := h.isThere_iff_iff (.inr (.inr rfl)) (·.result.trace.isSome = true)
    fun filing hmem => by
      rw [(latest?_entries filing).2.2, ne_eq, Option.map_eq_none_iff,
        Option.isSome_iff_ne_none]
  constructor
  · intro hdescribes filing hmem hid
    exact ⟨hfailureIff.1 hdescribes.failure_iff filing hmem hid,
      htraceIff.1 hdescribes.trace_iff filing hmem hid⟩
  · intro hearlier
    refine ⟨?_, hfailureIff.2 fun filing hmem hid => (hearlier filing hmem hid).1, ?_,
      htraceIff.2 fun filing hmem hid => (hearlier filing hmem hid).2, ?_⟩
    · obtain ⟨content, hcontent, hstat⟩ := h.stat_of_last (.inl rfl) hjob
      obtain ⟨fields, hfields, rfl⟩ := Option.map_eq_some_iff.1 hcontent
      exact ⟨fields, Archive.eq_ok_of_toOption hfields, hstat⟩
    · intro record hrecord
      rw [hrecord, Option.map_some] at hfailure
      obtain ⟨content, hcontent, hstat⟩ := h.stat_of_last (.inr (.inl rfl)) hfailure
      cases hcontent
      exact hstat
    · intro trace hsome
      rw [hsome, Option.map_some] at htrace
      obtain ⟨content, hcontent, hstat⟩ := h.stat_of_last (.inr (.inr rfl)) htrace
      exact ⟨content, Archive.eq_ok_of_toOption hcontent, hstat⟩

/-! ## Three jobs under one id -/

namespace Sample

/-- A service whose runner prints a line, and comes back with a trace and maybe with an error. -/
def printer (error : Option Error) : Service Unit where
  policy := .strict
  runner := fun _ _ source state =>
    (.normal (some ⟨bytes "4\n", 0, ⟨Trace.sourceHash source, []⟩⟩) error, state)
  archive := none

/-- The result of a job, with the readings of the clock. -/
def filingOf (service : Service Unit) (document : Bytes) : Filing :=
  ⟨(compile service 1 { request with document } (.start ())).1, started, ended⟩

/-- A job without a program, one that failed over its program, and one that succeeded. -/
def unread : Filing := filingOf (printer none) (bytes "\x7b")

def unbuilt : Filing := filingOf (printer (some (.plain (bytes "out of memory")))) request.document

def printed : Filing := filingOf (printer none) request.document

/-- What is filed was compiled. -/
theorem filingOf_isCompiled (service : Service Unit) (document : Bytes) :
    (filingOf service document).result.IsCompiled := ⟨Unit, service, 1, _, .start (), rfl⟩

/-- The archive after one more result. -/
def filed (filing : Filing) (tree : Tree) : Tree :=
  ((store.archive filing.result.finished filing.started filing.ended).on tree).2

/-- Whether one more result is archived without an error. -/
def isFiled (filing : Filing) (tree : Tree) : Bool :=
  ((store.archive filing.result.finished filing.started filing.ended).on tree).1.toOption.any
    (·.isNone)

/-- What is filed was archived without a problem. -/
theorem archive_eq_ok {filing : Filing} {tree : Tree} (h : isFiled filing tree = true) :
    (store.archive filing.result.finished filing.started filing.ended).on tree
      = (.ok none, filed filing tree) := by
  obtain ⟨problem, hproblem, hnone⟩ := (Option.any_eq_true _ _).1 h
  rw [Option.isNone_iff_eq_none] at hnone
  subst hnone
  exact Prod.ext (Archive.eq_ok_of_toOption hproblem) rfl

/-- Two results, one after the other. -/
theorem isHistory {first second : Filing} (hfirst : isFiled first .empty = true)
    (hsecond : isFiled second (filed first .empty) = true) :
    IsHistory store .empty (filed second (filed first .empty)) [first] second [] where
  proper := by decide
  vacant := by
    rw [Store.IsVacant]
    decide +kernel
  archives := .cons (archive_eq_ok hfirst) (.cons (archive_eq_ok hsecond) (.nil _))
  last _ hmem := absurd hmem List.not_mem_nil

/-- Both results were compiled. -/
theorem isCompiled_pair (first second : Service Unit) (document document' : Bytes) :
    ∀ filing ∈ [filingOf first document, filingOf second document'], filing.result.IsCompiled := by
  rw [List.forall_mem_cons, List.forall_mem_singleton]
  exact ⟨filingOf_isCompiled first document, filingOf_isCompiled second document'⟩

/-- The result of a document that cannot be read is filed. -/
theorem isFiled_unread : isFiled unread .empty = true := by decide +kernel

/-- A failed job with a trace leaves nothing of one without. -/
theorem describesOnly_unbuilt :
    ∃ after, IsHistory store .empty after [unread] unbuilt [] ∧
      (∀ filing ∈ [unread, unbuilt], filing.result.IsCompiled) ∧
      DescribesOnly store after unbuilt := by
  have hhistory :
      IsHistory store .empty (filed unbuilt (filed unread .empty)) [unread] unbuilt [] :=
    isHistory isFiled_unread (by decide +kernel)
  have hcompiled : ∀ filing ∈ [unread, unbuilt], filing.result.IsCompiled :=
    isCompiled_pair _ _ _ _
  have hkept : ∀ filing ∈ [unread], filing.result.jobId = unbuilt.result.jobId →
      (filing.result.kind = .failed → unbuilt.result.kind = .failed) ∧
      (filing.result.trace.isSome = true → unbuilt.result.trace.isSome = true) := by
    decide +kernel
  exact ⟨_, hhistory, hcompiled, (archived_describesOnly_iff hhistory hcompiled).2 hkept⟩

/-- Of a job that succeeded the failure of an earlier one is kept. -/
theorem not_describesOnly_printed :
    ∃ after, IsHistory store .empty after [unread] printed [] ∧
      (∀ filing ∈ [unread, printed], filing.result.IsCompiled) ∧
      unread.result.jobId = printed.result.jobId ∧ printed.result.kind = .succeeded ∧
      after.isThere (store.failurePath printed.result.jobId) = true ∧
      ¬ DescribesOnly store after printed := by
  have hhistory :
      IsHistory store .empty (filed printed (filed unread .empty)) [unread] printed [] :=
    isHistory isFiled_unread (by decide +kernel)
  have hcompiled : ∀ filing ∈ [unread, printed], filing.result.IsCompiled :=
    isCompiled_pair _ _ _ _
  have hid : unread.result.jobId = printed.result.jobId := by decide +kernel
  have hkind : printed.result.kind = .succeeded := by decide +kernel
  have hthere : (filed printed (filed unread .empty)).isThere
      (store.failurePath printed.result.jobId) = true := by decide +kernel
  refine ⟨_, hhistory, hcompiled, hid, hkind, hthere, fun hdescribes => ?_⟩
  cases hkind.symm.trans (hdescribes.failure_iff.1 hthere)

end Sample

end Job

end FunctionChain
