import FunctionChain.Command.Session
import FunctionChain.Text.Columns
import FunctionChain.Time.Relative

/-!
# Looking at the archive

The commands that list archived jobs and print one of them.
-/

namespace FunctionChain

namespace Command

variable [Build.DatabaseLibrary]

open Doing

/-- Put a message before the error of something done to files. -/
def onFilesLabelled {α : Type} (message : String) (action : Files.Action α) : Doing α :=
  onFiles (action.labelled (bytes message))

/-! ## The list -/

/-- The cells of the head of the list. -/
def listHead : List Bytes := [bytes "JOB ID", bytes "STATUS", bytes "EXIT", bytes "STARTED"]

/-- The cells of a job in the list. -/
def listCells (now : Timestamp) (record : Archive.JobRecord) : List Bytes :=
  [record.jobId, record.status, Decimal.ofInt record.exitCode, Relative.describe now record.startTime]

/-- A line of the list before its columns are aligned. -/
def listRow (cells : List Bytes) : Bytes := Bytes.joined [byte '\t'] cells ++ [byte '\n']

/-- Load jobs by their ids, complaining about each that cannot be loaded. -/
def loadAll (store : Archive.Store) : List Bytes → Doing (List Archive.JobRecord)
  | [] => pure []
  | id :: rest => fun session =>
    match store.loadJob id session.tree with
    | (.ok record, tree) =>
      ((record :: ·) <$> loadAll store rest) { session with tree }
    | (.error error, tree) =>
      loadAll store rest { session with
        tree
        stderr := session.stderr ++ bytes "skipping " ++ id ++ bytes ": " ++ error.text ++ [byte '\n'] }

/-- Print the list of archived jobs. -/
def listJobs (invocation : Invocation) (configuration : Configuration) : Doing Unit := do
  let store ← demand configuration.requiredStore
  let ids ← onFilesLabelled "list jobs" store.jobIds
  let records ← loadAll store ids
  print (Columns.aligned
    ((listHead :: records.map (listCells invocation.now)).flatMap listRow))
  exitWith Exit.success

/-! ## One job -/

/-- The description of a job. -/
def describeJob (now : Timestamp) (record : Archive.JobRecord) : Bytes :=
  bytes "job:      " ++ record.jobId
  ++ bytes "\nstatus:   " ++ record.status
  ++ bytes "\nexit:     " ++ Decimal.ofInt record.exitCode
  ++ bytes "\nstarted:  " ++ record.startTime.text
  ++ bytes " (" ++ Relative.describe now record.startTime
  ++ bytes ")\nduration: " ++ Duration.text (record.endTime.since record.startTime)
  ++ bytes "\nsource:   " ++ record.sourceHash ++ bytes "\n"

/-- The description of a failure. -/
def describeFailure (record : Failure.Record) : Bytes :=
  bytes "failure:  " ++ record.className ++ bytes "/" ++ record.code ++ bytes ": " ++ record.message
  ++ bytes "\n"
  ++ (if record.diagnostic.isEmpty then [] else bytes "\n" ++ record.diagnostic)

/-- Load a job that must be there. -/
def loadExisting (store : Archive.Store) (id : Bytes) : Files.Action Archive.JobRecord := fun tree =>
  match store.loadJob id tree with
  | (.ok record, tree) => (.ok record, tree)
  | (.error error, tree) =>
    (.error (if error.isNotFound then misuse (bytes "no archived job " ++ Quoted.quote id)
      else .wrap (bytes "load job") error), tree)

/-- Print an archived job and its failure. -/
def showJob (invocation : Invocation) (configuration : Configuration) (id : Bytes) : Doing Unit := do
  if configuration.recordDirectory.isEmpty then
    throw (misconfigured (bytes "--record-dir is required"))
  if let some error := Archive.invalidJobId? id then throw (misuse error.text)
  let store ← demand configuration.store
  let record ← onFiles (loadExisting store id)
  print (describeJob invocation.now record)
  let failure ← onFilesLabelled "load failure" (store.loadFailure id)
  print ((failure.map describeFailure).getD [])
  exitWith Exit.success

end Command

end FunctionChain
