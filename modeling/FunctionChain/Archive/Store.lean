import FunctionChain.Archive.Reading
import FunctionChain.Files.Action
import FunctionChain.Trace.Basic

/-!
# The archive

Finished jobs are kept below a base directory, one directory per job: `job.json` describes the job,
`failure.json` its failure if it has failed, and `trace.json` the steps it took. Whatever is saved is
checked first, and each file is written in one step.

A finished job is archived as a whole: its record, its failure if it has one, and its trace if it has
one. Each part is saved whether or not another could be, and all that went wrong is reported.
-/

namespace FunctionChain

namespace Archive

open Files (Action)

/-- An archive, by its base directory. -/
structure Store where
  base : Bytes
deriving Repr, DecidableEq

namespace Store

/-- The archive in a directory. The directory need not be there, but it must have a name. -/
def ofBase (base : Bytes) : Except Error Store :=
  if Blank.isAllBlank base then .error (.plain (bytes "baseDir is required")) else .ok ⟨base⟩

/-- The directory that holds the directories of the jobs. -/
def jobsPath (store : Store) : Bytes := Path.join [store.base, bytes "jobs"]

/-- The directory of a job. -/
def directory (store : Store) (id : Bytes) : Bytes := Path.join [store.jobsPath, id]

/-- The file that describes a job. -/
def jobPath (store : Store) (id : Bytes) : Bytes :=
  Path.join [store.directory id, bytes "job.json"]

/-- The file of a job's failure. -/
def failurePath (store : Store) (id : Bytes) : Bytes :=
  Path.join [store.directory id, bytes "failure.json"]

/-- The file of a job's trace. -/
def tracePath (store : Store) (id : Bytes) : Bytes :=
  Path.join [store.directory id, bytes "trace.json"]

/-- Fail with an error if there is one. -/
def refuse : Option Error → Action Unit
  | some error => throw error
  | none => pure ()

/-- Make the directory of a job, and have it and the one above it written out. -/
def ensureDirectory (store : Store) (id : Bytes) : Action Unit :=
  Action.labelled (bytes "ensure job dir") do
    Files.makeDirectories (store.directory id) 0o755
    Files.syncDirectory (store.directory id)
    Files.syncDirectory (Path.parent (store.directory id))

/-- Write a file of a job in one step, and have its directory written out. -/
def writeFile (path content : Bytes) : Action Unit := do
  Files.replaceFile path content 0o644
  Files.syncDirectory (Path.parent path)

/-! ## Saving -/

/-- Save the record of a job. -/
def saveJob (store : Store) (record : JobRecord) : Action Unit := do
  refuse (record.invalid?.map (.wrap (bytes "invalid job")))
  store.ensureDirectory record.jobId
  match record.fields with
  | .error error => throw (.wrap (bytes "marshal job") error)
  | .ok fields =>
    (writeFile (store.jobPath record.jobId) (Json.indentedRecord fields)).labelled
      (bytes "write job")

/-- Save the failure of a job. -/
def saveFailure (store : Store) (id : Bytes) (record : Failure.Record) : Action Unit := do
  refuse (invalidJobId? id)
  refuse (record.invalid?.map (.wrap (bytes "invalid failure")))
  store.ensureDirectory id
  (writeFile (store.failurePath id) (Json.indentedRecord record.fields)).labelled
    (bytes "write failure")

/-- Save the trace of a job in its canonical form. -/
def saveTrace (store : Store) (id : Bytes) (trace : Trace) : Action Unit := do
  refuse (invalidJobId? id)
  refuse (trace.problem?.map fun problem => .wrap (bytes "invalid trace") (.plain problem.message))
  match trace.canonicalJson with
  | .error problem => throw (.wrap (bytes "marshal trace") (.plain problem.message))
  | .ok encoded =>
    store.ensureDirectory id
    (writeFile (store.tracePath id) encoded).labelled (bytes "write trace")

/-! ## Loading -/

/-- Read a record from a file into the one that there is. Reading leaves the files as they are. -/
def readRecord {α : Type} (shape : Shape α) (path : Bytes) (old : α) (tree : Files.Tree) :
    α × Option Error :=
  match ((Files.contents path).on tree).1 with
  | .error error => (old, some error)
  | .ok content => readText shape old content

/-- What a caller is given when the record of a job is loaded: the record, and the error if there is
one. What was read of a record that cannot be loaded is not given out. -/
def jobAnswer (store : Store) (id : Bytes) (tree : Files.Tree) : JobRecord × Option Error :=
  match invalidJobId? id with
  | some error => (.blank, some error)
  | none =>
    match readRecord JobRecord.shape (store.jobPath id) .blank tree with
    | (_, some error) => (.blank, some error)
    | (record, none) =>
      match record.invalid? with
      | some error => (.blank, some (.wrap (bytes "invalid job on disk") error))
      | none => (record, none)

/-- What a caller is given when the failure of a job is loaded: the record, whether there is one, and
the error if there is one. A job without a file of its failure has none. -/
def failureAnswer (store : Store) (id : Bytes) (tree : Files.Tree) :
    Failure.Record × Bool × Option Error :=
  match invalidJobId? id with
  | some error => (.blank, false, some error)
  | none =>
    match readRecord failureShape (store.failurePath id) .blank tree with
    | (_, some error) =>
      if error.isNotFound then (.blank, false, none) else (.blank, false, some error)
    | (record, none) =>
      match record.invalid? with
      | some error => (.blank, false, some (.wrap (bytes "invalid failure on disk") error))
      | none => (record, true, none)

/-- Load the record of a job, as callers do that look at it only when there is no error. -/
def loadJob (store : Store) (id : Bytes) : Action JobRecord := do
  match store.jobAnswer id (← get) with
  | (record, none) => return record
  | (_, some error) => throw error

/-- Load the failure of a job, if it has one, in the same way. -/
def loadFailure (store : Store) (id : Bytes) : Action (Option Failure.Record) := do
  match store.failureAnswer id (← get) with
  | (_, _, some error) => throw error
  | (record, isThere, none) => return if isThere then some record else none

/-- The ids of the jobs in the archive: the names of the directories, without the white space around
them, in order. -/
def jobIds (store : Store) : Action (List Bytes) := do
  match (← get).stat store.jobsPath with
  | .error .notFound => return []
  | _ =>
    let entries ← Files.readDirectory store.jobsPath
    let names := (entries.filter (·.2.isDirectory)).map fun (name, _) => Blank.trimmed name
    return Bytes.sorted (names.filter (!·.isEmpty))

end Store

/-! ## Finished jobs -/

/-- What is archived of a finished job. -/
structure Finished where
  jobId : Bytes
  status : Bytes
  exitCode : Int
  /-- The generated program, or nothing when there is none. -/
  source : Bytes
  failure : Option Failure.Record
  trace : Option Trace

/-- The digest under which the job's program is known. -/
def Finished.sourceHash (job : Finished) : Bytes :=
  match job.trace with
  | some trace => trace.source
  | none => if job.source.isEmpty then [] else Trace.sourceHash job.source

/-- The record of a finished job. Times are kept without zone. -/
def Finished.record (job : Finished) (started ended : Timestamp) : JobRecord :=
  ⟨job.jobId, job.sourceHash, started.toUtc, ended.toUtc, job.status, job.exitCode⟩

/-- Archive a finished job, and give back what went wrong. -/
def Store.archive (store : Store) (job : Finished) (started ended : Timestamp) :
    Files.Action (Option Error) := do
  let first ← (store.saveJob (job.record started ended)).attempt
  let second ← match job.failure with
    | some record => (store.saveFailure job.jobId record).attempt
    | none => pure none
  let third ← match job.trace with
    | some trace => (store.saveTrace job.jobId trace).attempt
    | none => pure none
  return Error.combine? (Error.combine? first second) third

end Archive

end FunctionChain
