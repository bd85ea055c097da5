import FunctionChain.Proofs.Archive.Saving

/-!
# Saving and loading

What has been saved is loaded again: the record of a job and that of a failure come back with their
texts sanitised, whatever stood in their place before (`load_saved`).
-/

namespace FunctionChain

namespace Archive

namespace Store

open Files (Action Tree)

/-! ## Loading -/

/-- A record is read from a file that is there as its content says. -/
theorem readRecord_of_stat {α : Type} {shape : Shape α} {path content : Bytes} {mode : Nat}
    {tree : Tree} (hfile : tree.stat path = .ok (.file mode content)) (old : α) :
    readRecord shape path old tree = readText shape old content := by
  rw [readRecord, Files.on_contents hfile]

/-- What a caller does with the answer: it takes the record or the error. -/
theorem on_loadJob (store : Store) (id : Bytes) (tree : Tree) :
    (store.loadJob id).on tree = match store.jobAnswer id tree with
      | (record, none) => (.ok record, tree)
      | (_, some error) => (.error error, tree) := by
  rw [loadJob, Files.on_get_bind]
  obtain ⟨record, error⟩ := store.jobAnswer id tree
  cases error <;> rfl

/-- A failure is loaded as it is answered. -/
theorem on_loadFailure (store : Store) (id : Bytes) (tree : Tree) :
    (store.loadFailure id).on tree = match store.failureAnswer id tree with
      | (_, _, some error) => (.error error, tree)
      | (record, isThere, none) => (.ok (if isThere then some record else none), tree) := by
  rw [loadFailure, Files.on_get_bind]
  obtain ⟨record, isThere, error⟩ := store.failureAnswer id tree
  cases error <;> rfl

section
variable {store : Store} {id : Bytes} {tree : Tree}

/-- A valid record that was read is given out. -/
theorem jobAnswer_of_readRecord {record : JobRecord} (hid : IsJobId id)
    (hread : readRecord JobRecord.shape (store.jobPath id) .blank tree = (record, none))
    (hvalid : record.invalid? = none) : store.jobAnswer id tree = (record, none) := by
  simp only [jobAnswer, invalidJobId?_eq_none_iff.2 hid, hread, hvalid]

/-- The same of a failure. -/
theorem failureAnswer_of_readRecord {record : Failure.Record} (hid : IsJobId id)
    (hread : readRecord failureShape (store.failurePath id) .blank tree = (record, none))
    (hvalid : record.invalid? = none) : store.failureAnswer id tree = (record, true, none) := by
  simp only [failureAnswer, invalidJobId?_eq_none_iff.2 hid, hread, hvalid]

/-- A job is loaded from the file that its path leads to. -/
theorem loadJob_of_stat {content : Bytes} {mode : Nat} {record : JobRecord} (hid : IsJobId id)
    (hfile : tree.stat (store.jobPath id) = .ok (.file mode content))
    (hread : readText JobRecord.shape .blank content = (record, none))
    (hvalid : record.invalid? = none) :
    (store.loadJob id).on tree = (.ok record, tree) := by
  rw [on_loadJob, jobAnswer_of_readRecord hid ((readRecord_of_stat hfile _).trans hread) hvalid]

/-- Where there is no file, there is no failure. -/
theorem failureAnswer_of_missing (hid : IsJobId id)
    (hfile : tree.stat (store.failurePath id) = .error .notFound) :
    store.failureAnswer id tree = (.blank, false, none) := by
  simp only [failureAnswer, invalidJobId?_eq_none_iff.2 hid, readRecord, Files.contents,
    Files.on_get_bind, hfile]
  rfl

/-- A job without a file of its failure has none. -/
theorem loadFailure_of_missing (hid : IsJobId id)
    (hfile : tree.stat (store.failurePath id) = .error .notFound) :
    (store.loadFailure id).on tree = (.ok none, tree) := by
  rw [on_loadFailure, failureAnswer_of_missing hid hfile]
  rfl

/-- A failure is loaded from the file that its path leads to. -/
theorem loadFailure_of_stat {content : Bytes} {mode : Nat} {record : Failure.Record}
    (hid : IsJobId id) (hfile : tree.stat (store.failurePath id) = .ok (.file mode content))
    (hread : readText failureShape .blank content = (record, none))
    (hvalid : record.invalid? = none) :
    (store.loadFailure id).on tree = (.ok (some record), tree) := by
  rw [on_loadFailure,
    failureAnswer_of_readRecord hid ((readRecord_of_stat hfile _).trans hread) hvalid]
  rfl

end

/-! ## What is saved -/

/-- What goes on was not refused. -/
theorem refuse_eq_ok {error : Option Error} {tree after : Tree} {result : Unit}
    (h : (refuse error).on tree = (.ok result, after)) : error = none ∧ after = tree := by
  cases error with
  | none =>
    cases h
    exact ⟨rfl, rfl⟩
  | some error => cases h

/-- A record that is saved is a valid one, and is written to its file. -/
theorem saveJob_ok {store : Store} {record : JobRecord} {tree after : Tree}
    (hproper : tree.IsProper)
    (h : (store.saveJob record).on tree = (.ok (), after)) :
    record.invalid? = none ∧ ∃ fields place, record.fields = .ok fields ∧
      HasSaved store record.jobId (bytes "job.json") (Json.indentedRecord fields) tree after
        place := by
  obtain ⟨_, _, hrefuse, hsave⟩ := Files.bind_eq_ok h
  obtain ⟨hvalid, rfl⟩ := refuse_eq_ok hrefuse
  rw [Option.map_eq_none_iff] at hvalid
  obtain ⟨hid, -⟩ := invalid?_job_eq_none_iff.1 hvalid
  refine ⟨hvalid, ?_⟩
  cases hfields : record.fields with
  | error error =>
    rw [hfields] at hsave
    obtain ⟨_, _, _, hthrow⟩ := Files.bind_eq_ok hsave
    cases hthrow
  | ok fields =>
    rw [hfields] at hsave
    obtain ⟨place, hsaved⟩ := hasSaved hid (.inl rfl) hproper hsave
    exact ⟨fields, place, rfl, hsaved⟩

/-- The same of a failure. -/
theorem saveFailure_ok {store : Store} {id : Bytes} {record : Failure.Record} {tree after : Tree}
    (hproper : tree.IsProper) (h : (store.saveFailure id record).on tree = (.ok (), after)) :
    IsJobId id ∧ record.invalid? = none ∧ ∃ place,
      HasSaved store id (bytes "failure.json") (Json.indentedRecord record.fields) tree after
        place := by
  obtain ⟨_, _, hrefuse, hcheck⟩ := Files.bind_eq_ok h
  obtain ⟨hid, rfl⟩ := refuse_eq_ok hrefuse
  rw [invalidJobId?_eq_none_iff] at hid
  obtain ⟨_, _, hrefuse', hsave⟩ := Files.bind_eq_ok hcheck
  obtain ⟨hvalid, rfl⟩ := refuse_eq_ok hrefuse'
  rw [Option.map_eq_none_iff] at hvalid
  exact ⟨hid, hvalid, hasSaved hid (.inr (.inl rfl)) hproper hsave⟩

/-- **Round trip.** A record that has been saved is loaded again, with its texts sanitised and
otherwise as it was: the times with their nanoseconds and zones, the exit code, and for a failure
also whether there is an exit code. Well-formed texts are sanitised already. A symbolic link may
stand at the path of the file before and is replaced then; only it must not be the one in which the
path of the job's directory ends, which would be lost with it. -/
theorem load_saved (store : Store) (tree : Tree) (hproper : tree.IsProper) :
    (∀ (record : JobRecord) (after : Tree), record.IsExact →
      ¬ tree.EndsInLink (store.directory record.jobId) (store.jobPath record.jobId) →
      (store.saveJob record).on tree = (.ok (), after) →
      (store.loadJob record.jobId).on after = (.ok record.sanitized, after)) ∧
    (∀ (id : Bytes) (record : Failure.Record) (after : Tree),
      (∀ code, record.exitCode = some code → Word.IsSigned code) →
      ¬ tree.EndsInLink (store.directory id) (store.failurePath id) →
      (store.saveFailure id record).on tree = (.ok (), after) →
      (store.loadFailure id).on after = (.ok (some (sanitizedFailure record)), after)) ∧
    (∀ record : JobRecord, Utf8.isValid record.jobId = true →
      Utf8.isValid record.sourceHash = true →
      Utf8.isValid record.status = true → record.sanitized = record) ∧
    (∀ record : Failure.Record, Utf8.isValid record.className = true →
      Utf8.isValid record.code = true → Utf8.isValid record.message = true →
      Utf8.isValid record.diagnostic = true → sanitizedFailure record = record) := by
  refine ⟨?_, ?_, ?_, ?_⟩
  · intro record after hexact hway hsave
    obtain ⟨hvalid, fields, place, hfields, hsaved⟩ := saveJob_ok hproper hsave
    obtain ⟨hid, -⟩ := invalid?_job_eq_none_iff.1 hvalid
    exact loadJob_of_stat hid (hsaved.stat hid (.inl rfl) hway) (readText_job hexact hfields)
      (invalid?_sanitized_job hvalid)
  · intro id record after hexit hway hsave
    obtain ⟨hid, hvalid, place, hsaved⟩ := saveFailure_ok hproper hsave
    exact loadFailure_of_stat hid (hsaved.stat hid (.inr (.inl rfl)) hway) (readText_failure hexit)
      (invalid?_sanitized_failure hvalid)
  · intro record hid hhash hstatus
    simp only [JobRecord.sanitized, Utf8.sanitized_of_isValid, hid, hhash, hstatus]
  · intro record hclass hcode hmessage hdiagnostic
    simp only [sanitizedFailure, Utf8.sanitized_of_isValid, hclass, hcode, hmessage, hdiagnostic]

/-! ## An older record -/

namespace Sample

/-- An archive that is reached through a link and holds an older record. -/
def tree : Tree where
  here := [bytes "home"]
  nodes := [([bytes "home"], .directory 0o755), ([bytes "rec"], .directory 0o755),
    ([bytes "rec", bytes "jobs"], .directory 0o755),
    ([bytes "rec", bytes "jobs", bytes "a"], .directory 0o755),
    ([bytes "rec", bytes "jobs", bytes "a", bytes "job.json"], .file 0o600 (bytes "old"))]
  links := [([bytes "home", bytes "archive"], bytes "../rec")]
  fresh := 7

def store : Store := ⟨bytes "archive"⟩

/-- A job that ran for a nanosecond, by clocks of different zones. -/
def record : JobRecord where
  jobId := bytes "a"
  sourceHash := bytes "<\"" ++ [0xFF] ++ bytes "\">"
  startTime := ⟨63900000000, 999999999, 3600⟩
  endTime := ⟨63900000001, 0, -12600⟩
  status := bytes "ok"
  exitCode := -Word.half

def failure : Failure.Record where
  className := bytes "compile"
  code := bytes "C1"
  message := [0xC3] ++ bytes "\n"
  diagnostic := []
  exitCode := some 0

/-- Both are saved over what the archive holds and loaded again. -/
theorem load_overOld :
    tree.IsProper ∧
    (∃ after, (store.saveJob record).on tree = (.ok (), after) ∧
      (store.loadJob (bytes "a")).on after = (.ok record.sanitized, after)) ∧
    ∃ after, (store.saveFailure (bytes "a") failure).on tree = (.ok (), after) ∧
      (store.loadFailure (bytes "a")).on after =
        (.ok (some (sanitizedFailure failure)), after) := by
  have hproper : tree.IsProper := by decide +kernel
  have hjob := Files.on_eq_ok (store.saveJob record) tree (by decide +kernel)
  have hfailure := Files.on_eq_ok (store.saveFailure (bytes "a") failure) tree (by decide +kernel)
  obtain ⟨hloadJob, hloadFailure, -⟩ := load_saved store tree hproper
  refine ⟨hproper, ⟨_, hjob, ?_⟩, ⟨_, hfailure, ?_⟩⟩
  · exact hloadJob record _ ⟨⟨by decide, by decide⟩, ⟨by decide, by decide⟩, by decide⟩
      (Tree.not_endsInLink_of_linkAt?_eq_none (by decide +kernel) _) hjob
  · exact hloadFailure (bytes "a") failure _ (by rintro _ ⟨⟩; decide)
      (Tree.not_endsInLink_of_linkAt?_eq_none (by decide +kernel) _) hfailure

/-- The directory of jobs holds a link of the name of a job's file that leads to where it stands. -/
def selfLinkedTree : Tree where
  here := []
  nodes := [([bytes "rec"], .directory 0o755), ([bytes "rec", bytes "jobs"], .directory 0o755)]
  links := [([bytes "rec", bytes "jobs", bytes "job.json"], bytes ".")]
  fresh := 7

/-- A job that has the name of its file. -/
def namesake : JobRecord := { record with jobId := bytes "job.json" }

/-- The file of that job takes the place of the link that its directory is reached by, so what has
been saved cannot be loaded. -/
theorem saved_notLoaded :
    selfLinkedTree.IsProper ∧ namesake.IsExact ∧
    ∃ after, (Store.saveJob ⟨bytes "/rec"⟩ namesake).on selfLinkedTree = (.ok (), after) ∧
      ∀ loaded, ((Store.loadJob ⟨bytes "/rec"⟩ namesake.jobId).on after).1 ≠ .ok loaded := by
  have hsaved := Files.on_eq_ok (Store.saveJob ⟨bytes "/rec"⟩ namesake) selfLinkedTree
    (by decide +kernel)
  refine ⟨by decide +kernel, ⟨⟨by decide, by decide⟩, ⟨by decide, by decide⟩, by decide⟩, _, hsaved,
    fun loaded hloaded => ?_⟩
  have hnone : ((Store.loadJob ⟨bytes "/rec"⟩ namesake.jobId).on
      ((Store.saveJob ⟨bytes "/rec"⟩ namesake).on selfLinkedTree).2).1.toOption = none := by
    decide +kernel
  rw [hloaded] at hnone
  cases hnone

end Sample

end Store

end Archive

end FunctionChain
