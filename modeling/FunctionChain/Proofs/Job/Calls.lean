import FunctionChain.Job.Service

/-!
# Calls side by side

A service handles any number of calls at a time. What each call does is a sequence of small steps:
it waits for a slot until it gets one or its context is over, counts itself as active, generates its
program, hands that to the runner, and finishes with what the runner came back with. Steps of
different calls may follow each other in any order.

A call puts off what it has to do when it is left: give its slot back, count itself as no longer
active, and conclude. That is done in reverse order (`Deferred`), whether the call is left with a
result or by breaking down. Only concluding catches a breakdown, so the result of a job that broke
down is counted when its slot is free already, and that of any other job before.

How the slots are given to those who wait is left open. Of the semaphore only so much is taken that
it never gives more slots than there are, and none to a call whose context is over (`Moves.acquire`).
-/

namespace FunctionChain

namespace Job

/-! ## Calls -/

/-- What a call has put off until it is left. -/
inductive Deferred where
  /-- Count the job as no longer active. -/
  | leave
  /-- Give the slot back. -/
  | release
  /-- Catch a breakdown. -/
  | settle
deriving Repr, DecidableEq

/-- How the body of a call is left. -/
inductive Exit where
  | returned (result : Result)
  | broken (draft : Draft) (message : Bytes)

/-- Where a call is. -/
inductive Point where
  /-- It waits for a slot. -/
  | waiting
  /-- It has a slot. -/
  | entering
  /-- It is counted as active. -/
  | generating
  /-- Its runner has the program. -/
  | running (draft : Draft)
  /-- The result is known and is to be counted. -/
  | finishing (result : Result)
  /-- What was put off is being done. -/
  | leaving (exit : Exit)
  /-- The caller has its result. -/
  | done (result : Result)

/-- A call of a service. -/
structure Call where
  request : Request
  /-- Whether its context is over. -/
  isOver : Bool
  point : Point
  /-- What was put off, the last first. -/
  deferred : List Deferred

/-- A call that was just made. -/
def Call.start (request : Request) (isOver : Bool) : Call := ⟨request, isOver, .waiting, [.settle]⟩

/-- Where a job is that ends with an error. One that cannot be classified breaks it down. -/
def Draft.ended (draft : Draft) (error : Error) : Point :=
  match Failure.classify error with
  | some record => .finishing (draft.fail error record)
  | none => .leaving (.broken draft absenceMessage)

/-- Where a job is whose runner came back. -/
def Draft.returned (draft : Draft) : Return → Point
  | .panic message => .leaving (.broken draft message)
  | .normal report error =>
    let draft := match report with
      | some report => { draft with exitCode := report.exitCode, trace := some report.trace }
      | none => draft
    match error, report with
    | some error, _ => draft.ended error
    | none, some report => .finishing (draft.succeed report.stdout)
    | none, none => .leaving (.broken draft absenceMessage)

/-! ## Steps of a call -/

/-- Whether a family of samples is kept by the service itself. -/
def isOwn (family : Metrics.Family) : Bool :=
  family == activeFamily || family == requestsFamily || family == durationsFamily

/-- What others do to the state of a service: anything to their own state, more entries in the log,
and numbers of samples that are not the service's. -/
def State.IsTouched {σ : Type} (before after : State σ) : Prop :=
  ∃ (samples : List Metrics.Sample) (entries : List Log.Entry) (inner : σ),
    (∀ sample ∈ samples, isOwn sample.family = false) ∧
      after = ⟨inner, before.metrics.countAll samples, before.log ++ entries⟩

/-- Tell that a program was generated. -/
def State.tellGenerated {σ : Type} (state : State σ) (jobId : Bytes) (environment : Environment) :
    State σ :=
  state.tell jobId ⟨.debug, bytes "Generated program",
    [(bytes "bindings", .int environment.size), (bytes "rebinds", .int environment.rebinds)]⟩

/-- Conclude a job whose result was counted: observe its time, tell of it and keep it. -/
def settled {σ : Type} (service : Service σ) (result : Result) (state : State σ) : State σ :=
  let state := (state.count (durationSample result.kind)).tell result.jobId
    ⟨.info, bytes "Job finished",
      [(bytes "kind", .text result.kind.name), (bytes "duration", .duration 0)]⟩
  match service.archive with
  | none => state
  | some keep =>
    match keep result state.inner with
    | (none, inner) => { state with inner }
    | (some error, inner) =>
      { state with inner }.tell result.jobId
        ⟨.warn, bytes "Failed to archive job", Log.errorFields error⟩

/-- What a call does. -/
inductive Action where
  | arrived
  | contextEnded
  | acquired
  | refused
  | entered
  | rejected
  | started
  | acted
  | returned
  | counted
  | left
  | released
  | recovered
  | settled
  | concluded
deriving Repr, DecidableEq

section Moves

variable {σ : Type} (service : Service σ) (slots : Nat)

/-- The steps of a call of a service with so many slots, from and to the state of the service, the
number of slots that are held, and the call. -/
inductive Moves : State σ → Nat → Call → Action → State σ → Nat → Call → Prop where
  | contextEnds {state held call} :
    Moves state held call .contextEnded state held { call with isOver := true }
  | acquire {state held request deferred} : held < slots →
    Moves state held ⟨request, false, .waiting, deferred⟩ .acquired
      state (held + 1) ⟨request, false, .entering, .release :: deferred⟩
  | refuse {state held request deferred} :
    Moves state held ⟨request, true, .waiting, deferred⟩ .refused
      state held ⟨request, true, (Draft.start request.jobId).ended
        (.admission (some request.patience.exhausted)), deferred⟩
  | enter {state held request isOver deferred} :
    Moves state held ⟨request, isOver, .entering, deferred⟩ .entered
      { state with metrics := state.metrics.add activeSample 1 } held
      ⟨request, isOver, .generating, .leave :: deferred⟩
  | reject {state held request isOver deferred error} :
    Program.generate service.policy request.document = .error error →
    Moves state held ⟨request, isOver, .generating, deferred⟩ .rejected
      state held ⟨request, isOver, (Draft.start request.jobId).ended error, deferred⟩
  | start {state held request isOver deferred source environment} :
    Program.generate service.policy request.document = .ok (source, environment) →
    Moves state held ⟨request, isOver, .generating, deferred⟩ .started
      (state.tellGenerated request.jobId environment) held
      ⟨request, isOver, .running { Draft.start request.jobId with source }, deferred⟩
  | act {state after held request isOver draft deferred} : state.IsTouched after →
    Moves state held ⟨request, isOver, .running draft, deferred⟩ .acted
      after held ⟨request, isOver, .running draft, deferred⟩
  | comeBack {state held request isOver draft deferred} (returned : Return) :
    Moves state held ⟨request, isOver, .running draft, deferred⟩ .returned
      state held ⟨request, isOver, draft.returned returned, deferred⟩
  | count {state held request isOver result deferred} :
    Moves state held ⟨request, isOver, .finishing result, deferred⟩ .counted
      (state.count (requestSample result.kind result.className)) held
      ⟨request, isOver, .leaving (.returned result), deferred⟩
  | leave {state held request isOver exit deferred} :
    Moves state held ⟨request, isOver, .leaving exit, .leave :: deferred⟩ .left
      { state with metrics := state.metrics.add activeSample (-1) } held
      ⟨request, isOver, .leaving exit, deferred⟩
  | release {state held request isOver exit deferred} :
    Moves state held ⟨request, isOver, .leaving exit, .release :: deferred⟩ .released
      state (held - 1) ⟨request, isOver, .leaving exit, deferred⟩
  | recover {state held request isOver draft message deferred} :
    Moves state held ⟨request, isOver, .leaving (.broken draft message), .settle :: deferred⟩ .recovered
      state held ⟨request, isOver, .finishing (draft.breakDown message), deferred⟩
  | settle {state held request isOver result deferred} :
    Moves state held ⟨request, isOver, .leaving (.returned result), .settle :: deferred⟩ .settled
      state held ⟨request, isOver, .leaving (.returned result), deferred⟩
  | conclude {state held request isOver result} :
    Moves state held ⟨request, isOver, .leaving (.returned result), []⟩ .concluded
      (settled service result state) held ⟨request, isOver, .done result, []⟩

/-! ## Steps of a service -/

/-- A service and its calls, in the order in which they were made. -/
structure System (σ : Type) where
  state : State σ
  /-- The number of slots that were given and not given back. -/
  held : Nat
  calls : List Call

/-- A service before its first call. -/
def System.start (inner : σ) : System σ := ⟨.start inner, 0, []⟩

/-- Something that a call has done. -/
structure Event where
  call : Nat
  action : Action
deriving Repr, DecidableEq

/-- A new call, or a step of one of the calls. -/
inductive Step : System σ → Event → System σ → Prop where
  | arrive {state held calls} (request : Request) (isOver : Bool) :
    Step ⟨state, held, calls⟩ ⟨calls.length, .arrived⟩
      ⟨state, held, calls ++ [.start request isOver]⟩
  | move {state after held held' before call call' behind action} :
    Moves service slots state held call action after held' call' →
    Step ⟨state, held, before ++ call :: behind⟩ ⟨before.length, action⟩
      ⟨after, held', before ++ call' :: behind⟩

/-- Steps in any order. -/
inductive Runs (first : System σ) : List Event → System σ → Prop where
  | nil : Runs first [] first
  | concat {events middle event last} : Runs first events middle →
    Step service slots middle event last → Runs first (events ++ [event]) last

end Moves

section Reaches

variable {σ : Type} {service : Service σ} {slots : Nat}

/-- The second system comes of the first by steps of its calls and of new ones. -/
def Reaches (service : Service σ) (slots : Nat) (first last : System σ) : Prop :=
  ∃ events, Runs service slots first events last

/-- A run goes on with a run. -/
theorem Runs.append {first middle last : System σ} {events later : List Event}
    (h : Runs service slots first events middle) (hlater : Runs service slots middle later last) :
    Runs service slots first (events ++ later) last := by
  induction hlater with
  | nil =>
    rw [List.append_nil]
    exact h
  | concat _ hstep ih =>
    rw [← List.append_assoc]
    exact ih.concat hstep

/-- A system reaches itself. -/
theorem Reaches.refl (system : System σ) : Reaches service slots system system := ⟨[], .nil⟩

/-- What is reached from there is reached from here. -/
theorem Reaches.trans {first middle last : System σ} (h : Reaches service slots first middle)
    (hlater : Reaches service slots middle last) : Reaches service slots first last := by
  obtain ⟨events, hruns⟩ := h
  obtain ⟨later, hlater⟩ := hlater
  exact ⟨events ++ later, hruns.append hlater⟩

/-- A new call may arrive at any time. -/
theorem Reaches.arrive {first : System σ} {state : State σ} {held : Nat} {calls : List Call}
    (h : Reaches service slots first ⟨state, held, calls⟩) (request : Request) (isOver : Bool) :
    Reaches service slots first ⟨state, held, calls ++ [.start request isOver]⟩ := by
  obtain ⟨events, hruns⟩ := h
  exact ⟨_, hruns.concat (.arrive request isOver)⟩

/-- A call may move at any time. -/
theorem Reaches.move {first : System σ} {state after : State σ} {held held' : Nat}
    (before : List Call) {behind : List Call} {call call' : Call} {action : Action}
    (h : Reaches service slots first ⟨state, held, before ++ call :: behind⟩)
    (hmoves : Moves service slots state held call action after held' call') :
    Reaches service slots first ⟨after, held', before ++ call' :: behind⟩ := by
  obtain ⟨events, hruns⟩ := h
  exact ⟨_, hruns.concat (.move hmoves)⟩

end Reaches

end Job

end FunctionChain
