import FunctionChain.Json.Written
import FunctionChain.Server.Route

/-!
# The compile API

The server hands documents to the job service and answers with the results of the jobs. The status of
an answer says what became of the job: it succeeded, its document could not be read, it was not
admitted, or it failed otherwise.

Each request is counted once it is answered, so a listing of metrics does not count the request for it.
-/

namespace FunctionChain

namespace Server

/-- The size of the largest document that is read. -/
def maxDocumentSize : Nat := 1048576

/-! ## Metrics -/

/-- Requests by method, label and status. -/
def requestsFamily : Metrics.Family :=
  ⟨bytes "fsscompiler_http_requests_total", bytes "Number of http requests received", .counter⟩

/-- Times of requests. -/
def durationsFamily : Metrics.Family :=
  ⟨bytes "fsscompiler_http_request_duration_seconds",
    bytes "Time taken to respond to HTTP request", .histogram⟩

/-- What is counted for an answered request. -/
def samples (method label : Bytes) (status : Nat) : List Metrics.Sample :=
  let labels := [(bytes "method", method), (bytes "path", label),
    (bytes "response_code", Decimal.ofNat status)]
  [⟨requestsFamily, labels⟩, ⟨durationsFamily, labels⟩]

/-! ## Answers -/

/-- The status of an answer with a job's result. -/
def statusOf (result : Job.Result) : Nat :=
  if result.isOk then 200 else
  match result.error with
  | none => 422
  | some error => if error.has .admission then 503 else if error.has .parse then 400 else 422

/-- The answer with a job's result. One that cannot be written leaves the body empty. -/
def resultResponse (result : Job.Result) : Response :=
  match result.toJson with
  | .ok value => .json (statusOf result) value
  | .error _ => ⟨statusOf result, jsonType, []⟩

/-- The answer to a request for a job. -/
def compileResponse {σ : Type} (handler : Job.Handler σ) (jobId : Bytes) (request : Request)
    (state : Job.State σ) : Response × Job.State σ :=
  if request.body.length > maxDocumentSize then
    (.json 413 (Json.compactRecord
      [(bytes "message", Json.ofText (bytes "http: request body too large"))]), state)
  else
    let (result, state) := handler ⟨jobId, request.body, request.patience⟩ state
    (resultResponse result, state)

/-- The answer at a destination. -/
def respond {σ : Type} (handler : Job.Handler σ) (jobId : Bytes) (request : Request)
    (state : Job.State σ) : Destination → Response × Job.State σ
  | .operation .status _ =>
    (.json 200 (Json.compactRecord [(bytes "status", Json.ofText (bytes "ok"))]), state)
  | .operation .compile _ => compileResponse handler jobId request state
  | .operation .metrics _ =>
    (⟨200, metricsType, Bytes.joined (bytes "\n") state.metrics.exposition⟩, state)
  | .otherMethods _ => (.methodNotAllowed jsonType, state)
  | .noMethod => (.methodNotAllowed [], state)
  | .nowhereBelow _ | .nowhere => (.notFound, state)

/-- Answer a request and count it. A job that it asks for gets the given id. -/
def handle {σ : Type} (handler : Job.Handler σ) (jobId : Bytes) (request : Request)
    (state : Job.State σ) : Response × Job.State σ :=
  let destination := Destination.find request.verb request.path
  let (response, state) := respond handler jobId request state destination
  (response, { state with
    metrics := state.metrics.countAll (samples request.verb destination.label response.status) })

end Server

end FunctionChain
