import FunctionChain.Failure.Record
import FunctionChain.Trace.Basic

/-!
# Results of jobs

What a caller gets for one compile request. A job that succeeded has the program's output as its
payload; one that failed has the text of its failure.
-/

namespace FunctionChain

namespace Job

/-- How a job ended. -/
inductive Kind where
  | succeeded
  | failed
deriving Repr, DecidableEq

/-- The name of a kind. -/
def Kind.name : Kind → Bytes
  | .succeeded => bytes "Succeeded"
  | .failed => bytes "Failed"

/-- The result of a job. -/
structure Result where
  jobId : Bytes
  kind : Kind
  payload : Bytes
  exitCode : Int
  /-- The generated program, or nothing when there is none. -/
  source : Bytes
  error : Option Error
  failure : Option Failure.Record
  trace : Option Trace

namespace Result

/-- Whether the job succeeded. -/
def isOk (result : Result) : Bool := result.kind == .succeeded

/-- The result as JSON, or why it has none. Members without a value are left out. -/
def toJson (result : Result) : Except Bytes Bytes :=
  let fields : List Json.Field :=
    [(bytes "job_id", Json.ofText result.jobId),
      (bytes "kind", Json.ofText result.kind.name),
      (bytes "payload", Json.ofText result.payload),
      (bytes "exit_code", Decimal.ofInt result.exitCode)]
    ++ (if result.source.isEmpty then [] else [(bytes "source", Json.ofText result.source)])
    ++ (match result.failure with
      | some record => [(bytes "failure", record.toJson)]
      | none => [])
  match result.trace with
  | none => .ok (Json.compactRecord fields)
  | some trace =>
    match trace.toJson with
    | .ok encoded => .ok (Json.compactRecord (fields ++ [(bytes "trace", encoded)]))
    | .error message =>
      .error (bytes "json: error calling MarshalJSON for type *trace.JobTrace: " ++ message)

end Result

end Job

end FunctionChain
