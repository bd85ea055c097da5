import FunctionChain.Failure.Record
import FunctionChain.Time.Timestamp

/-!
# Records of finished jobs

What the archive keeps of a job: its id, the digest of its program, when it ran and how it ended. A
job's id is also the name of its directory, so not every text is one.
-/

namespace FunctionChain

namespace Archive

/-- Why a text cannot be the id of an archived job: it is blank, holds a path separator, or names the
directory itself or the one above. -/
def invalidJobId? (id : Bytes) : Option Error :=
  if Blank.isAllBlank id then some (.invalidJobId (bytes "job_id is required"))
  else if id.contains 0x2F || id.contains 0x5C then
    some (.invalidJobId (Quoted.quote id ++ bytes " contains a path separator"))
  else if id == bytes "." || id == bytes ".." then some (.invalidJobId (Quoted.quote id))
  else none

/-- The record of a finished job. -/
structure JobRecord where
  jobId : Bytes
  sourceHash : Bytes
  startTime : Timestamp
  endTime : Timestamp
  status : Bytes
  exitCode : Int
deriving Repr, DecidableEq

namespace JobRecord

/-- The record without contents. -/
def blank : JobRecord := ⟨[], [], .zero, .zero, [], 0⟩

/-- What is wrong with a record, in the order in which it is reported. -/
def problems (record : JobRecord) : List Error :=
  (invalidJobId? record.jobId).toList
  ++ (if record.startTime.isZero then [.plain (bytes "start_time is required")] else [])
  ++ (if record.endTime.isBefore record.startTime then
      [.plain (bytes "end_time must not precede start_time")] else [])
  ++ (if Blank.isAllBlank record.status then [.plain (bytes "status is required")] else [])

/-- The error of a record that must not be kept. -/
def invalid? (record : JobRecord) : Option Error := Error.join? record.problems

/-- A time as a JSON string, or the error of one that cannot be written. -/
def timeJson (time : Timestamp) : Except Error Bytes :=
  match time.write with
  | .ok text => .ok (byte '"' :: text ++ [byte '"'])
  | .error problem =>
    .error (.plain (bytes "json: error calling MarshalJSON for type time.Time: Time.MarshalJSON: "
      ++ problem.message))

/-- The members of a record in the order in which they are written. -/
def fields (record : JobRecord) : Except Error (List Json.Field) :=
  match timeJson record.startTime, timeJson record.endTime with
  | .error error, _ | _, .error error => .error error
  | .ok started, .ok ended =>
    .ok [(bytes "job_id", Json.ofText record.jobId),
      (bytes "source_hash", Json.ofText record.sourceHash),
      (bytes "start_time", started),
      (bytes "end_time", ended),
      (bytes "status", Json.ofText record.status),
      (bytes "exit_code", Decimal.ofInt record.exitCode)]

end JobRecord

end Archive

end FunctionChain
