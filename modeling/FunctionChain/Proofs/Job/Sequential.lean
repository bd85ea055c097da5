import FunctionChain.Job.Local
import FunctionChain.Proofs.Job.Slots

/-!
# Handling requests one after another

What a service does with one request at a time (`compile`) is one of the orders in which the steps
of calls may follow each other, as long as its runner does to the state of the service what runners
may do: requests of its own are further calls (`compile_isCalls`). The runner that builds on a
machine is such a runner (`machineRunner_isCalls`). So what holds of all orders holds of the requests
that are handled (`handleAll_reading`).
-/

namespace FunctionChain

namespace Job

variable {σ : Type} {service : Service σ} {slots : Nat}

/-! ## Ends of calls -/

/-- The result with which a call ends that is there. -/
def Point.result? : Point → Option Result
  | .finishing result => some result
  | .leaving (.broken draft message) => some (draft.breakDown message)
  | _ => none

/-- A job that ends with an error has failed with it. -/
theorem Draft.result?_ended (draft : Draft) (error : Error) :
    (draft.ended error).result? = some (draft.failWith error) := by
  unfold Draft.ended Draft.failWith
  cases Failure.classify error <;> rfl

/-- A job whose runner comes back has the result of that. -/
theorem Draft.result?_returned (draft : Draft) (returned : Return) :
    (draft.returned returned).result? = some (draft.afterRun returned) := by
  cases returned with
  | panic message => rfl
  | normal report error =>
    cases error with
    | some error => exact Draft.result?_ended _ error
    | none => cases report <;> rfl

/-- Concluding counts the request and settles the result. -/
theorem conclude_eq (result : Result) (state : State σ) :
    conclude service result state
      = (result, settled service result
          (state.count (requestSample result.kind result.className))) := by
  unfold conclude settled
  cases service.archive with
  | none => rfl
  | some keep =>
    dsimp only [State.count, State.tell]
    obtain ⟨failure, inner⟩ := keep result state.inner
    cases failure <;> rfl

section Ends

variable {state : State σ} {held : Nat} {before behind : List Call} {request : Request}
  {isOver : Bool} {point : Point} {result : Result}

/-- A call that holds no slot any more concludes. -/
theorem reaches_concluded (hresult : point.result? = some result) :
    Reaches service slots ⟨state, held, before ++ ⟨request, isOver, point, [.settle]⟩ :: behind⟩
      ⟨(conclude service result state).2, held,
        before ++ ⟨request, isOver, .done result, []⟩ :: behind⟩ := by
  rw [conclude_eq]
  have hbegun : Reaches service slots
      ⟨state, held, before ++ ⟨request, isOver, point, [.settle]⟩ :: behind⟩ _ := .refl _
  cases point with
  | finishing other =>
    cases hresult
    exact ((hbegun.move _ .count).move _ .settle).move _ .conclude
  | leaving exit =>
    cases exit with
    | returned other => cases hresult
    | broken draft message =>
      cases hresult
      exact ((hbegun.move _ .recover).move _ .count).move _ .conclude
  | _ => cases hresult

/-- A call that holds a slot gives it back and concludes. Whether its result is counted before or
after that makes no difference to the state. -/
theorem reaches_left (hresult : point.result? = some result)
    (hlists : state.metrics.Lists activeSample) :
    Reaches service slots
      ⟨state, held + 1,
        before ++ ⟨request, isOver, point, [.leave, .release, .settle]⟩ :: behind⟩
      ⟨(conclude service result { state with metrics := state.metrics.add activeSample (-1) }).2,
        held, before ++ ⟨request, isOver, .done result, []⟩ :: behind⟩ := by
  have hbegun : Reaches service slots ⟨state, held + 1,
      before ++ ⟨request, isOver, point, [.leave, .release, .settle]⟩ :: behind⟩ _ := .refl _
  cases point with
  | finishing other =>
    cases hresult
    have hcounted := ((((hbegun.move _ .count).move _ .leave).move _ .release).move _ .settle).move _ .conclude
    rw [conclude_eq]
    unfold State.count Metrics.count at hcounted ⊢
    rw [Metrics.add_add_of_lists hlists]
    exact hcounted
  | leaving exit =>
    cases exit with
    | returned other => cases hresult
    | broken draft message =>
      exact ((hbegun.move _ .leave).move _ .release).trans (reaches_concluded hresult)
  | _ => cases hresult

end Ends

/-! ## Handlers and runners -/

/-- A handler does what new calls do when so many slots are free: it comes to the result of such a
call, which is done then, as are the further ones that it has made. -/
def Handler.IsCalls (service : Service σ) (slots free : Nat) (handler : Handler σ) : Prop :=
  ∀ (request : Request) (state : State σ) (held : Nat) (calls : List Call), held + free = slots →
    state.metrics.Lists activeSample → ∃ call rest,
      Reaches service slots ⟨state, held, calls⟩
        ⟨(handler request state).2, held, calls ++ call :: rest⟩ ∧
      call.point = .done (handler request state).1 ∧
      ∀ other ∈ call :: rest, other.isDone = true

/-- A runner does to the state of its service what runners may do, and makes new calls. -/
def Runner.IsCalls (service : Service σ) (slots : Nat) (runner : Runner σ) : Prop :=
  ∀ (free : Nat) (nested : Handler σ), nested.IsCalls service slots free →
    ∀ (running request : Request) (isOver : Bool) (draft : Draft) (deferred : List Deferred)
      (source : Bytes) (state : State σ) (held : Nat) (calls : List Call), held + free = slots →
    state.metrics.Lists activeSample → ∃ rest,
      Reaches service slots
        ⟨state, held, calls ++ [⟨running, isOver, .running draft, deferred⟩]⟩
        ⟨(runner nested request source state).2, held,
          calls ++ ⟨running, isOver, .running draft, deferred⟩ :: rest⟩ ∧
      ∀ other ∈ rest, other.isDone = true

/-- Samples that are listed stay listed. -/
theorem Moves.lists {state after : State σ} {held held' : Nat} {call call' : Call}
    {action : Action} (h : Moves service slots state held call action after held' call')
    {sample : Metrics.Sample} (hlists : state.metrics.Lists sample) :
    after.metrics.Lists sample := by
  cases h with
  | enter => exact Metrics.lists_add.2 (.inl hlists)
  | act htouched =>
    obtain ⟨samples, entries, inner, -, rfl⟩ := htouched
    exact hlists.countAll samples
  | count => exact Metrics.lists_add.2 (.inl hlists)
  | leave => exact Metrics.lists_add.2 (.inl hlists)
  | conclude =>
    rw [settled_metrics]
    exact Metrics.lists_add.2 (.inl hlists)
  | _ => exact hlists

/-- A sample that is listed stays so. -/
theorem Reaches.lists {first last : System σ} (h : Reaches service slots first last)
    {sample : Metrics.Sample} (hlists : first.state.metrics.Lists sample) :
    last.state.metrics.Lists sample := by
  obtain ⟨events, hruns⟩ := h
  induction hruns with
  | nil => exact hlists
  | concat _ hstep ih =>
    cases hstep with
    | arrive request isOver => exact ih
    | move hmoves => exact hmoves.lists ih

/-- A caller that goes has the reason of its exhaustion. -/
theorem Patience.exhausted_of_refusal? {patience : Patience} {cause : Error}
    (h : patience.refusal? = some cause) : patience.exhausted = cause := by
  cases patience with
  | patient => cases h
  | limited => cases h
  | expired => exact Option.some.inj h
  | cancelled => exact Option.some.inj h

section Handled

variable {state : State σ} {held : Nat} {calls : List Call} {request : Request}

/-- A call whose context is over gets no slot. -/
theorem reaches_refused {result : Result} (hresult : result = (Draft.start request.jobId).failWith
    (.admission (some request.patience.exhausted))) :
    Reaches service slots ⟨state, held, calls⟩
      ⟨(conclude service result state).2, held, calls ++ [⟨request, true, .done result, []⟩]⟩ := by
  have harrived : Reaches service slots ⟨state, held, calls⟩ _ := (Reaches.refl _).arrive request true
  subst hresult
  exact (harrived.move _ .refuse).trans (reaches_concluded (Draft.result?_ended _ _))

/-- What a job that holds a slot comes to. -/
theorem reaches_worked {free : Nat} {nested : Handler σ}
    (hrunner : service.runner.IsCalls service slots) (hnested : nested.IsCalls service slots free)
    (hheld : held + 1 + free = slots) (hlists : state.metrics.Lists activeSample) :
    ∃ rest, (∀ other ∈ rest, other.isDone = true) ∧
      Reaches service slots
        ⟨state, held + 1, calls ++ [⟨request, false, .generating, [.leave, .release, .settle]⟩]⟩
        ⟨(conclude service (work service nested request state).1
          { (work service nested request state).2 with
            metrics := (work service nested request state).2.metrics.add activeSample (-1) }).2,
          held, calls ++ ⟨request, false, .done (work service nested request state).1, []⟩
            :: rest⟩ := by
  have hbegun : Reaches service slots
      ⟨state, held + 1, calls ++ [⟨request, false, .generating, [.leave, .release, .settle]⟩]⟩ _ :=
    .refl _
  unfold work
  cases hgenerate : Program.generate service.policy request.document with
  | error error =>
    refine ⟨[], List.forall_mem_nil _, (hbegun.move _ (.reject hgenerate)).trans ?_⟩
    exact reaches_left (Draft.result?_ended _ error) hlists
  | ok generated =>
    obtain ⟨source, environment⟩ := generated
    have hstarted := hbegun.move _ (.start hgenerate)
    obtain ⟨rest, hran, hdone⟩ := hrunner free nested hnested request request false
      { Draft.start request.jobId with source } [.leave, .release, .settle] source
      (state.tellGenerated request.jobId environment) (held + 1) calls hheld
      (hstarted.lists hlists)
    have hreturned := (hstarted.trans hran).move _ (.comeBack
      (service.runner nested request source (state.tellGenerated request.jobId environment)).1)
    exact ⟨rest, hdone, hreturned.trans
      (reaches_left (Draft.result?_returned _ _) (hreturned.lists hlists))⟩

/-- **Handling requests one after another** is one of the orders of the steps of calls. -/
theorem compile_isCalls (hrunner : service.runner.IsCalls service slots) (free : Nat) :
    Handler.IsCalls service slots free (compile service free) := by
  induction free with
  | zero =>
    intro request state held calls hheld hlists
    refine ⟨_, [], reaches_refused rfl, ?_, ?_⟩
    · rw [compile, conclude_eq]
    · simp [Call.isDone]
  | succ free ih =>
    intro request state held calls hheld hlists
    cases hrefusal : request.patience.refusal? with
    | some cause =>
      rw [compile, hrefusal, ← Patience.exhausted_of_refusal? hrefusal]
      refine ⟨_, [], reaches_refused rfl, ?_, ?_⟩
      · dsimp only
        rw [conclude_eq]
      · simp [Call.isDone]
    | none =>
      have harrived : Reaches service slots ⟨state, held, calls⟩ _ :=
        (Reaches.refl _).arrive request false
      have hentered := (harrived.move _ (.acquire (by omega))).move _ .enter
      have hnested : held + 1 + free = slots := by omega
      obtain ⟨rest, hdone, hworked⟩ := reaches_worked hrunner ih hnested (hentered.lists hlists)
      rw [compile, hrefusal]
      refine ⟨_, rest, hentered.trans hworked, ?_, ?_⟩
      · dsimp only
        rw [conclude_eq]
      · rw [List.forall_mem_cons]
        exact ⟨rfl, hdone⟩

end Handled

/-! ## The runner on a machine -/

/-- What is told goes to the log and nowhere else. -/
theorem foldl_tell (jobId : Bytes) (entries : List Log.Entry) (state : State σ) :
    ∃ told, entries.foldl (fun state entry => state.tell jobId entry) state
      = { state with log := state.log ++ told } := by
  induction entries generalizing state with
  | nil => exact ⟨[], by simp⟩
  | cons entry rest ih =>
    obtain ⟨told, htold⟩ := ih (state.tell jobId entry)
    rw [List.foldl_cons, htold]
    exact ⟨_ :: told, by simp [State.tell]; rfl⟩

/-- What a build adds to the metrics is none of the service's own numbers. -/
theorem isOwn_of_mem_samples {outcome : Build.Outcome} {sample : Metrics.Sample}
    (h : sample ∈ outcome.samples) : isOwn sample.family = false := by
  have hjobs : isOwn Build.jobsFamily = false := by decide
  have hphases : isOwn Build.phasesFamily = false := by decide
  have hlookups : isOwn Build.lookupsFamily = false := by decide
  rcases List.mem_append.1 h with h | h
  · obtain ⟨happening, -, hsample⟩ := List.mem_filterMap.1 h
    cases happening with
    | completed phase =>
      cases hsample
      exact hphases
    | missed =>
      cases hsample
      exact hlookups
    | restored key =>
      cases hsample
      exact hlookups
    | _ => cases hsample
  · rw [List.mem_singleton.1 h]
    exact hjobs

/-- The runner that builds on a machine leaves the calls of others alone. -/
theorem machineRunner_isCalls [Build.DatabaseLibrary] [HasMachine σ] (settings : Build.Settings)
    (temporary : Bytes) (environment : List Bytes) (counts : Bool) :
    (machineRunner settings temporary environment counts : Runner σ).IsCalls service slots := by
  intro free nested _ running request isOver draft deferred source state held calls _ _
  refine ⟨[], (Reaches.refl _).move calls (.act ?_), List.forall_mem_nil _⟩
  unfold machineRunner
  obtain ⟨outcome, machine⟩ := (HasMachine.machine state.inner).build settings temporary environment
    (request.patience == .cancelled) request.jobId source
  dsimp only
  obtain ⟨told, htold⟩ := foldl_tell request.jobId outcome.journal.entries
    { state with inner := HasMachine.withMachine state.inner machine }
  rw [htold]
  cases counts with
  | true => exact ⟨outcome.samples, told, _, fun _ => isOwn_of_mem_samples, rfl⟩
  | false => exact ⟨[], told, _, List.forall_mem_nil _, rfl⟩

/-! ## Any number of requests -/

/-- The state of a service after requests that were handled one after another. -/
def handleAll (service : Service σ) (slots : Nat) (requests : List Request) (state : State σ) :
    State σ :=
  requests.foldl (fun state request => (compile service slots request state).2) state

/-- Requests that are handled one after another are calls that are done one after another. -/
theorem handleAll_isCalls (hrunner : service.runner.IsCalls service slots)
    (requests : List Request) (state : State σ) (calls : List Call)
    (hlists : state.metrics.Lists activeSample) :
    ∃ made, requests.length ≤ made.length ∧ (∀ call ∈ made, call.isDone = true) ∧
      Reaches service slots ⟨state, 0, calls⟩
        ⟨handleAll service slots requests state, 0, calls ++ made⟩ := by
  induction requests generalizing state calls with
  | nil => exact ⟨[], Nat.le_refl _, List.forall_mem_nil _, by rw [List.append_nil]; exact .refl _⟩
  | cons request rest ih =>
    obtain ⟨call, further, hreached, -, hdone⟩ :=
      compile_isCalls hrunner slots request state 0 calls (Nat.zero_add slots) hlists
    obtain ⟨made, hlength, hmade, hrest⟩ := ih _ (calls ++ call :: further) (hreached.lists hlists)
    refine ⟨call :: further ++ made, ?_, ?_, ?_⟩
    · simp only [List.length_append, List.length_cons]
      omega
    · intro other hmem
      rcases List.mem_append.1 hmem with hmem | hmem
      · exact hdone other hmem
      · exact hmade other hmem
    · rw [← List.append_assoc]
      exact hreached.trans hrest

/-- After requests that were handled one after another the gauge is zero, and each of them was
counted and its time observed, as were the requests of its runner. -/
theorem handleAll_reading (hrunner : service.runner.IsCalls service slots)
    (requests : List Request) (inner : σ) :
    ∃ made : Nat, requests.length ≤ made ∧
      reading (handleAll service slots requests (.start inner)).metrics = ⟨0, made, made⟩ := by
  obtain ⟨made, hlength, hdone, events, hruns⟩ :=
    handleAll_isCalls hrunner requests (.start inner) [] List.mem_cons_self
  refine ⟨made.length, hlength, ?_⟩
  have hidle := (Runs.isAccounted hruns).idle hdone
  rw [(Runs.isTold hruns).arrived] at hidle
  exact hidle.2

end Job

end FunctionChain
