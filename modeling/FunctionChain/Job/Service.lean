import FunctionChain.Document.Load
import FunctionChain.Job.Result
import FunctionChain.Log.Entry
import FunctionChain.Metrics.Basic
import FunctionChain.Reference.Resolve

/-!
# The job service

The service turns a document into a program and hands it to a *runner*, one job per request, with a
bounded number of jobs at a time. Whatever happens, the caller gets a result: errors of every kind,
and a runner that breaks down, end up in it.

A job holds one of the service's slots while it runs. A runner may itself ask the service for a job;
that job takes a further slot, and when none is left it waits until its time is over and is not
admitted.
-/

namespace FunctionChain

/-! ## From documents to programs -/

/-- The program of a document and the environment of its calls, or the error to report. -/
def Program.generate (policy : ReferencePolicy) (document : Bytes) :
    Except Error (Bytes × Environment) :=
  match Document.load document with
  | .error error => .error error
  | .ok graph =>
    match Reference.resolve policy graph with
    | .error undefined => .error undefined.toError
    | .ok (calls, env) => .ok (render calls, env)

namespace Job

/-! ## Runners -/

/-- What a runner reports about a program that it ran. -/
structure Report where
  stdout : Bytes
  exitCode : Int
  trace : Trace

/-- How a runner comes back. -/
inductive Return where
  /-- With a report, an error, both or neither. -/
  | normal (report : Option Report) (error : Option Error)
  /-- By breaking down, with a message. -/
  | panic (message : Bytes)

/-- How long a caller waits for a slot. -/
inductive Patience where
  | patient
  /-- Until some time from now. -/
  | limited
  /-- The time was over before the call. -/
  | expired
  | cancelled
deriving Repr, DecidableEq

/-- Why a caller with such patience gets no slot although one is free, if that is so. -/
def Patience.refusal? : Patience → Option Error
  | .patient | .limited => none
  | .expired => some (.plain (bytes "context deadline exceeded"))
  | .cancelled => some (.plain (bytes "context canceled"))

/-- The error of a caller that waits for a slot in vain. -/
def Patience.exhausted : Patience → Error
  | .cancelled => .plain (bytes "context canceled")
  | .patient | .limited | .expired => .plain (bytes "context deadline exceeded")

/-- The state of a service: that of its runner and archive, its metrics, and its log. -/
structure State (σ : Type) where
  inner : σ
  metrics : Metrics
  log : List Log.Entry

/-- A request for one job. -/
structure Request where
  jobId : Bytes
  document : Bytes
  patience : Patience

/-- Something that handles requests. -/
abbrev Handler (σ : Type) := Request → State σ → Result × State σ

/-- Runs generated programs. It may use the service for further jobs. -/
abbrev Runner (σ : Type) :=
  Handler σ → Request → (source : Bytes) → State σ → Return × State σ

/-- A service: how references are treated, who runs programs, and where finished jobs go. -/
structure Service (σ : Type) where
  policy : ReferencePolicy
  runner : Runner σ
  /-- Keeps a finished job; an error is only told. -/
  archive : Option (Result → σ → Option Error × σ)

/-- The number of slots unless another is chosen. -/
def defaultSlots : Nat := 4

/-- The number of slots that a configured number stands for. -/
def slotsOf (configured : Int) : Nat := if configured ≤ 0 then defaultSlots else configured.toNat

/-! ## Metrics -/

/-- Jobs that hold a slot. -/
def activeFamily : Metrics.Family :=
  ⟨bytes "fsscompiler_job_active", bytes "Number of jobs holding a job slot", .gauge⟩

/-- Requests by outcome. -/
def requestsFamily : Metrics.Family :=
  ⟨bytes "fsscompiler_job_requests_total",
    bytes "Number of compile requests by outcome and failure class", .counter⟩

/-- Times of jobs. -/
def durationsFamily : Metrics.Family :=
  ⟨bytes "fsscompiler_job_duration_seconds", bytes "Histogram of total job times", .histogram⟩

/-- The gauge of active jobs. -/
def activeSample : Metrics.Sample := ⟨activeFamily, []⟩

/-- The sample of a request with an outcome. -/
def requestSample (kind : Kind) (className : Bytes) : Metrics.Sample :=
  ⟨requestsFamily, [(bytes "class", className), (bytes "kind", kind.name)]⟩

/-- The sample of a job's time. -/
def durationSample (kind : Kind) : Metrics.Sample :=
  ⟨durationsFamily, [(bytes "kind", kind.name)]⟩

namespace State

/-- The state of a service before its first request. -/
def start {σ : Type} (inner : σ) : State σ := ⟨inner, Metrics.empty.add activeSample 0, []⟩

/-- Count something. -/
def count {σ : Type} (state : State σ) (sample : Metrics.Sample) : State σ :=
  { state with metrics := state.metrics.count sample }

/-- Tell something about a job. -/
def tell {σ : Type} (state : State σ) (jobId : Bytes) (entry : Log.Entry) : State σ :=
  { state with
    log := state.log ++ [{ entry with fields := (bytes "job_id", .text jobId) :: entry.fields }] }

end State

/-! ## Finishing -/

/-- A result under way: what is known of a job before it is finished. -/
structure Draft where
  jobId : Bytes
  exitCode : Int
  source : Bytes
  trace : Option Trace

/-- The draft of a job of which only the id is known. -/
def Draft.start (jobId : Bytes) : Draft := ⟨jobId, 0, [], none⟩

/-- The result of a job that succeeded. -/
def Draft.succeed (draft : Draft) (payload : Bytes) : Result :=
  ⟨draft.jobId, .succeeded, payload, draft.exitCode, draft.source, none, none, draft.trace⟩

/-- The result of a job that failed with an error under a record. -/
def Draft.fail (draft : Draft) (error : Error) (record : Failure.Record) : Result :=
  ⟨draft.jobId, .failed, record.text, record.exitCode.getD draft.exitCode, draft.source, some error,
    some record, draft.trace⟩

/-- The message of a breakdown over something that is not there. -/
def absenceMessage : Bytes :=
  bytes "runtime error: invalid memory address or nil pointer dereference"

/-- The result of a job that broke down. The exit code is forgotten. -/
def Draft.breakDown (draft : Draft) (message : Bytes) : Result :=
  let error : Error := .plain (bytes "job panicked: " ++ message)
  let record := { Failure.internalRecord error with code := Failure.Code.crash }
  { draft with exitCode := 0 }.fail error record

/-- The result of a job that ended with an error. One that cannot be classified breaks it down. -/
def Draft.failWith (draft : Draft) (error : Error) : Result :=
  match Failure.classify error with
  | some record => draft.fail error record
  | none => draft.breakDown absenceMessage

/-- The result of a job whose runner came back. -/
def Draft.afterRun (draft : Draft) : Return → Result
  | .panic message => draft.breakDown message
  | .normal report error =>
    let draft := match report with
      | some report => { draft with exitCode := report.exitCode, trace := some report.trace }
      | none => draft
    match error, report with
    | some error, _ => draft.failWith error
    | none, some report => draft.succeed report.stdout
    | none, none => draft.breakDown absenceMessage

/-! ## Compiling -/

/-- The class under which a result is counted. -/
def Result.className (result : Result) : Bytes :=
  match result.failure with
  | some record => record.className
  | none => []

/-- Count a result, tell of it and keep it. -/
def conclude {σ : Type} (service : Service σ) (result : Result) (state : State σ) :
    Result × State σ :=
  let state := (state.count (requestSample result.kind result.className)).count
    (durationSample result.kind)
  let state := state.tell result.jobId ⟨.info, bytes "Job finished",
    [(bytes "kind", .text result.kind.name), (bytes "duration", .duration 0)]⟩
  match service.archive with
  | none => (result, state)
  | some keep =>
    match keep result state.inner with
    | (none, inner) => (result, { state with inner })
    | (some error, inner) =>
      (result, { state with inner }.tell result.jobId
        ⟨.warn, bytes "Failed to archive job", Log.errorFields error⟩)

/-- What a job that holds a slot comes to, where `nested` handles requests of its runner. -/
def work {σ : Type} (service : Service σ) (nested : Handler σ) (request : Request)
    (state : State σ) : Result × State σ :=
  let draft := Draft.start request.jobId
  match Program.generate service.policy request.document with
  | .error error => (draft.failWith error, state)
  | .ok (source, environment) =>
    let state := state.tell request.jobId ⟨.debug, bytes "Generated program",
      [(bytes "bindings", .int environment.size), (bytes "rebinds", .int environment.rebinds)]⟩
    let (returned, state) := service.runner nested request source state
    ({ draft with source }.afterRun returned, state)

/-- Handle a request when so many slots are free. -/
def compile {σ : Type} (service : Service σ) : (free : Nat) → Handler σ
  | 0, request, state =>
    conclude service ((Draft.start request.jobId).failWith
      (.admission (some request.patience.exhausted))) state
  | free + 1, request, state =>
    match request.patience.refusal? with
    | some cause =>
      conclude service ((Draft.start request.jobId).failWith (.admission (some cause))) state
    | none =>
      let state := { state with metrics := state.metrics.add activeSample 1 }
      let (result, state) := work service (compile service free) request state
      let state := { state with metrics := state.metrics.add activeSample (-1) }
      conclude service result state

end Job

end FunctionChain
