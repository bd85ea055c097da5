import FunctionChain.Proofs.Job.Calls
import FunctionChain.Proofs.Metrics.Numbers

/-!
# The slots of a service

In whatever order the steps of any number of calls follow each other, no more jobs hold a slot than
there are slots, the gauge of active jobs lies between zero and the number of those that hold one,
and when no call is in progress all slots are free, the gauge is zero, and as many requests are
counted and as many times observed as there were calls (`slots_accounted`).

What a call has put off says which of the counts it is in (`Call.IsSound`). A step of a call changes
each count by just as much as it changes the call (`Moves.accounts`), and so the counts over all
calls are right after any number of steps (`Runs.isBalanced`).
-/

namespace FunctionChain

namespace Job

/-! ## What calls count for -/

namespace Call

/-- The call holds a slot. -/
def holdsSlot (call : Call) : Bool := call.deferred.contains .release

/-- The call is counted as active. -/
def isActive (call : Call) : Bool := call.deferred.contains .leave

/-- The result of the call is counted. -/
def isCounted (call : Call) : Bool :=
  match call.point with
  | .leaving (.returned _) | .done _ => true
  | _ => false

/-- The caller has its result. -/
def isDone (call : Call) : Bool :=
  match call.point with
  | .done _ => true
  | _ => false

end Call

/-- What may be put off when a call is left: what was taken on and is not undone yet. -/
inductive Outstanding : List Deferred → Prop where
  | all : Outstanding [.leave, .release, .settle]
  | slot : Outstanding [.release, .settle]
  | call : Outstanding [.settle]
  | nothing : Outstanding []

/-- What is put off fits to where the call is. -/
def Call.IsSound (call : Call) : Prop :=
  match call.point with
  | .waiting => call.deferred = [.settle]
  | .entering => call.deferred = [.release, .settle]
  | .generating | .running _ => call.deferred = [.leave, .release, .settle]
  | .finishing _ | .leaving _ => Outstanding call.deferred
  | .done _ => call.deferred = []

/-- What a sound call has deferred is outstanding. -/
theorem Call.IsSound.outstanding {call : Call} (h : call.IsSound) : Outstanding call.deferred := by
  obtain ⟨request, isOver, point, deferred⟩ := call
  cases point with
  | waiting => exact h ▸ .call
  | entering => exact h ▸ .slot
  | generating => exact h ▸ .all
  | running draft => exact h ▸ .all
  | finishing result => exact h
  | leaving exit => exact h
  | done result => exact h ▸ .nothing

/-- Whoever is counted as active holds a slot. -/
theorem Call.IsSound.holdsSlot {call : Call} (h : call.IsSound) (hactive : call.isActive = true) :
    call.holdsSlot = true := by
  have houtstanding := h.outstanding
  unfold Call.isActive at hactive
  unfold Call.holdsSlot
  generalize call.deferred = deferred at houtstanding hactive
  cases houtstanding with
  | all => rfl
  | slot => exact absurd hactive (by decide)
  | call => exact absurd hactive (by decide)
  | nothing => exact absurd hactive (by decide)

/-- A call that is done is counted. -/
theorem Call.isCounted_of_isDone {call : Call} (hdone : call.isDone = true) :
    call.isCounted = true := by
  obtain ⟨request, isOver, point, deferred⟩ := call
  cases point with
  | done result => rfl
  | _ => cases hdone

/-- A call that is done holds no slot and is not active. -/
theorem Call.IsSound.free {call : Call} (h : call.IsSound) (hdone : call.isDone = true) :
    call.holdsSlot = false ∧ call.isActive = false := by
  obtain ⟨request, isOver, point, deferred⟩ := call
  cases point with
  | done result =>
    cases (show _ = _ from h)
    exact ⟨rfl, rfl⟩
  | _ => cases hdone

/-- A call that has ended with an error is sound, and is neither counted nor done yet. -/
theorem Draft.isSound_ended (draft : Draft) (error : Error) {request : Request} {isOver : Bool}
    {deferred : List Deferred} (h : Outstanding deferred) :
    Call.IsSound ⟨request, isOver, draft.ended error, deferred⟩ ∧
      Call.isCounted ⟨request, isOver, draft.ended error, deferred⟩ = false ∧
      Call.isDone ⟨request, isOver, draft.ended error, deferred⟩ = false := by
  unfold Draft.ended
  split <;> exact ⟨h, rfl, rfl⟩

/-- A call whose runner has come back is sound, and is neither counted nor done yet. -/
theorem Draft.isSound_returned (draft : Draft) (returned : Return) {request : Request}
    {isOver : Bool} {deferred : List Deferred} (h : Outstanding deferred) :
    Call.IsSound ⟨request, isOver, draft.returned returned, deferred⟩ ∧
      Call.isCounted ⟨request, isOver, draft.returned returned, deferred⟩ = false ∧
      Call.isDone ⟨request, isOver, draft.returned returned, deferred⟩ = false := by
  cases returned with
  | panic message => exact ⟨h, rfl, rfl⟩
  | normal report error =>
    cases error with
    | some error => exact Draft.isSound_ended _ error h
    | none => cases report <;> exact ⟨h, rfl, rfl⟩

/-! ## What metrics say -/

/-- The service's own numbers. -/
structure Reading where
  /-- The gauge of active jobs. -/
  active : Int
  /-- The requests, whatever their outcome. -/
  requests : Int
  /-- The observed times, whatever the outcome. -/
  durations : Int

/-- What metrics say of their service. -/
def reading (metrics : Metrics) : Reading :=
  ⟨metrics.number activeSample, metrics.total requestsFamily, metrics.total durationsFamily⟩

section Readings

variable {metrics : Metrics}

/-- A sample adds to the reading of its own family. -/
theorem reading_add (h : metrics.ListsOnce) (sample : Metrics.Sample) (n : Int) :
    reading (metrics.add sample n) =
      ⟨(reading metrics).active + if activeSample = sample then n else 0,
        (reading metrics).requests + if sample.family = requestsFamily then n else 0,
        (reading metrics).durations + if sample.family = durationsFamily then n else 0⟩ := by
  simp only [reading, Metrics.number_add, Metrics.total_add h]

/-- Active jobs are added to the reading of active jobs. -/
theorem reading_add_active (h : metrics.ListsOnce) (n : Int) :
    reading (metrics.add activeSample n)
      = { reading metrics with active := (reading metrics).active + n } := by
  rw [reading_add h, if_pos rfl, if_neg (by decide), if_neg (by decide), Int.add_zero, Int.add_zero]

/-- Nothing is read at first. -/
theorem reading_start {σ : Type} (inner : σ) : reading (State.start inner).metrics = ⟨0, 0, 0⟩ := by
  have hempty : Metrics.empty.ListsOnce := List.nodup_nil
  rw [State.start, reading_add_active hempty]
  rfl

/-- A request that is counted is read as one more. -/
theorem reading_count_request (h : metrics.ListsOnce) (kind : Kind) (className : Bytes) :
    reading (metrics.count (requestSample kind className))
      = { reading metrics with requests := (reading metrics).requests + 1 } := by
  have hactive : activeSample ≠ requestSample kind className := fun h =>
    absurd (congrArg Metrics.Sample.family h) (show activeFamily ≠ requestsFamily by decide)
  have hdurations : (requestSample kind className).family ≠ durationsFamily :=
    show requestsFamily ≠ durationsFamily by decide
  have hrequests : (requestSample kind className).family = requestsFamily := rfl
  rw [Metrics.count, reading_add h, if_neg hactive, if_pos hrequests, if_neg hdurations, Int.add_zero,
    Int.add_zero]

/-- A duration that is counted is read as one more. -/
theorem reading_count_duration (h : metrics.ListsOnce) (kind : Kind) :
    reading (metrics.count (durationSample kind))
      = { reading metrics with durations := (reading metrics).durations + 1 } := by
  have hactive : activeSample ≠ durationSample kind := fun h =>
    absurd (congrArg Metrics.Sample.family h) (show activeFamily ≠ durationsFamily by decide)
  have hrequests : (durationSample kind).family ≠ requestsFamily :=
    show durationsFamily ≠ requestsFamily by decide
  have hdurations : (durationSample kind).family = durationsFamily := rfl
  rw [Metrics.count, reading_add h, if_neg hactive, if_neg hrequests, if_pos hdurations, Int.add_zero,
    Int.add_zero]

/-- What is counted in another family is not read. -/
theorem reading_count_other (h : metrics.ListsOnce) {sample : Metrics.Sample}
    (hother : isOwn sample.family = false) : reading (metrics.count sample) = reading metrics := by
  simp only [isOwn, Bool.or_eq_false_iff, beq_eq_false_iff_ne] at hother
  obtain ⟨⟨hactive, hrequests⟩, hdurations⟩ := hother
  have hne : activeSample ≠ sample := by
    rintro rfl
    exact hactive rfl
  rw [Metrics.count, reading_add h, if_neg hne, if_neg hrequests, if_neg hdurations, Int.add_zero,
    Int.add_zero, Int.add_zero]

/-- What others do leaves the service's own numbers alone. -/
theorem reading_countAll (samples : List Metrics.Sample) (h : metrics.ListsOnce)
    (hothers : ∀ sample ∈ samples, isOwn sample.family = false) :
    (metrics.countAll samples).ListsOnce ∧
      reading (metrics.countAll samples) = reading metrics := by
  induction samples generalizing metrics with
  | nil => exact ⟨h, rfl⟩
  | cons sample rest ih =>
    rw [List.forall_mem_cons] at hothers
    obtain ⟨honce, hreading⟩ := ih (h.add sample 1) hothers.2
    exact ⟨honce, hreading.trans (reading_count_other h hothers.1)⟩

end Readings

/-! ## Steps -/

section Steps

variable {σ : Type} {service : Service σ} {slots : Nat}

/-- Settling a result counts its duration and nothing else. -/
theorem settled_metrics (result : Result) (state : State σ) :
    (settled service result state).metrics
      = state.metrics.count (durationSample result.kind) := by
  unfold settled
  cases service.archive with
  | none => rfl
  | some keep =>
    dsimp only
    split <;> rfl

/-- The counts of a service, before and after a step of one of its calls, differ as the call does
before and after. -/
structure Accounts (state : State σ) (held : Nat) (call : Call) (after : State σ) (held' : Nat)
    (call' : Call) : Prop where
  sound : call'.IsSound
  once : after.metrics.ListsOnce
  held : held' + call.holdsSlot.toNat = held + call'.holdsSlot.toNat
  active : (reading after.metrics).active + call.isActive.toNat
    = (reading state.metrics).active + call'.isActive.toNat
  requests : (reading after.metrics).requests + call.isCounted.toNat
    = (reading state.metrics).requests + call'.isCounted.toNat
  durations : (reading after.metrics).durations + call.isDone.toNat
    = (reading state.metrics).durations + call'.isDone.toNat

/-- A step that changes none of the counts. -/
theorem Accounts.same {state after : State σ} {held : Nat} {call call' : Call}
    (hsound : call'.IsSound) (honce : after.metrics.ListsOnce)
    (hreading : reading after.metrics = reading state.metrics)
    (hholds : call'.holdsSlot = call.holdsSlot) (hactive : call'.isActive = call.isActive)
    (hcounted : call'.isCounted = call.isCounted) (hdone : call'.isDone = call.isDone) :
    Accounts state held call after held call' := by
  refine ⟨hsound, honce, by rw [hholds], ?_, ?_, ?_⟩
  · rw [hreading, hactive]
  · rw [hreading, hcounted]
  · rw [hreading, hdone]

/-- A move keeps the books: what it adds to the readings is what it changes of its call. -/
theorem Moves.accounts {state after : State σ} {held held' : Nat} {call call' : Call}
    {action : Action} (h : Moves service slots state held call action after held' call')
    (hsound : call.IsSound) (honce : state.metrics.ListsOnce)
    (hheld : call.holdsSlot = true → 0 < held) :
    Accounts state held call after held' call' := by
  have houtstanding := hsound.outstanding
  cases h with
  | contextEnds => exact .same hsound honce rfl rfl rfl rfl rfl
  | acquire hfree =>
    cases (show _ = _ from hsound)
    exact ⟨rfl, honce, rfl, rfl, rfl, rfl⟩
  | refuse =>
    obtain ⟨hsound', hcounted, hdone⟩ := Draft.isSound_ended _ _ houtstanding
    exact .same hsound' honce rfl rfl rfl hcounted hdone
  | enter =>
    cases (show _ = _ from hsound)
    have hreading := reading_add_active honce 1
    refine ⟨rfl, honce.add _ _, rfl, ?_, by rw [hreading]; rfl, by rw [hreading]; rfl⟩
    rw [hreading]
    exact Int.add_zero _
  | reject herror =>
    obtain ⟨hsound', hcounted, hdone⟩ := Draft.isSound_ended _ _ houtstanding
    exact .same hsound' honce rfl rfl rfl hcounted hdone
  | start hok => exact .same hsound honce rfl rfl rfl rfl rfl
  | act htouched =>
    obtain ⟨samples, entries, inner, hothers, rfl⟩ := htouched
    obtain ⟨honce', hreading⟩ := reading_countAll samples honce hothers
    exact .same hsound honce' hreading rfl rfl rfl rfl
  | comeBack returned =>
    obtain ⟨hsound', hcounted, hdone⟩ := Draft.isSound_returned _ returned houtstanding
    exact .same hsound' honce rfl rfl rfl hcounted hdone
  | count =>
    have hreading := reading_count_request honce
    refine ⟨houtstanding, honce.add _ _, rfl, ?_, ?_, ?_⟩ <;> rw [State.count, hreading]
    · rfl
    · exact Int.add_zero _
    · rfl
  | leave =>
    cases houtstanding
    have hreading := reading_add_active honce (-1)
    refine ⟨.slot, honce.add _ _, rfl, ?_, by rw [hreading]; rfl, by rw [hreading]; rfl⟩
    rw [hreading]
    exact (Int.neg_add_cancel_right _ 1).trans (Int.add_zero _).symm
  | release =>
    cases houtstanding
    refine ⟨.call, honce, ?_, rfl, rfl, rfl⟩
    -- A call gives back a slot that it holds, so there is one to take away.
    have hpos := hheld rfl
    exact Nat.sub_add_cancel hpos
  | recover =>
    cases houtstanding
    exact ⟨.nothing, honce, rfl, rfl, rfl, rfl⟩
  | settle =>
    cases houtstanding
    exact ⟨.nothing, honce, rfl, rfl, rfl, rfl⟩
  | conclude =>
    have hreading := reading_count_duration honce
    refine ⟨rfl, ?_, rfl, ?_, ?_, ?_⟩
    all_goals rw [settled_metrics]
    · exact honce.add _ _
    all_goals rw [hreading]
    · rfl
    · rfl
    · exact Int.add_zero _

/-- No more slots are held than there are. -/
theorem Moves.held_le {state after : State σ} {held held' : Nat} {call call' : Call}
    {action : Action} (h : Moves service slots state held call action after held' call')
    (hle : held ≤ slots) : held' ≤ slots := by
  cases h with
  | acquire hfree => exact hfree
  | release => exact Nat.le_trans (Nat.sub_le held 1) hle
  | _ => exact hle

end Steps

/-! ## Any number of calls -/

/-- The counts of a service are those of its calls. -/
structure System.IsBalanced {σ : Type} (slots : Nat) (system : System σ) : Prop where
  sound : ∀ call ∈ system.calls, call.IsSound
  once : system.state.metrics.ListsOnce
  bounded : system.held ≤ slots
  held : system.held = system.calls.countP Call.holdsSlot
  active : (reading system.state.metrics).active = system.calls.countP Call.isActive
  requests : (reading system.state.metrics).requests = system.calls.countP Call.isCounted
  durations : (reading system.state.metrics).durations = system.calls.countP Call.isDone

/-- How many calls there are of a kind when one is replaced. -/
theorem countP_replace (p : Call → Bool) (before behind : List Call) (call call' : Call) :
    (before ++ call' :: behind).countP p + (p call).toNat
      = (before ++ call :: behind).countP p + (p call').toNat := by
  rw [List.countP_append, List.countP_append, List.countP_cons, List.countP_cons]
  cases p call <;> cases p call' <;> simp <;> omega

section Systems

variable {σ : Type} {service : Service σ} {slots : Nat}

/-- The books are balanced before anything has happened. -/
theorem System.isBalanced_start (inner : σ) : (System.start inner).IsBalanced slots where
  sound := List.forall_mem_nil _
  once := List.nodup_singleton _
  bounded := Nat.zero_le slots
  held := rfl
  active := congrArg Reading.active (reading_start inner)
  requests := congrArg Reading.requests (reading_start inner)
  durations := congrArg Reading.durations (reading_start inner)

/-- A step keeps them balanced. -/
theorem Step.isBalanced {system after : System σ} {event : Event}
    (h : Step service slots system event after) (hbalanced : system.IsBalanced slots) :
    after.IsBalanced slots := by
  obtain ⟨hsound, honce, hbounded, hheld, hactive, hrequests, hdurations⟩ := hbalanced
  cases h with
  | arrive request isOver =>
    refine ⟨?_, honce, hbounded, ?_, ?_, ?_, ?_⟩
    · intro call hmem
      rcases List.mem_append.1 hmem with hmem | hmem
      · exact hsound call hmem
      · rw [List.mem_singleton.1 hmem]
        rfl
    all_goals
      rw [List.countP_append]
      assumption
  | @move state after held held' before call call' behind action hmoves =>
    have hcall : call.IsSound := hsound call (List.mem_append_right _ List.mem_cons_self)
    have hpositive (hholds : call.holdsSlot = true) : 0 < held := by
      rw [show held = _ from hheld]
      exact List.countP_pos_iff.2 ⟨call, List.mem_append_right _ List.mem_cons_self, hholds⟩
    obtain ⟨hsound', honce', hheld', hactive', hrequests', hdurations'⟩ :=
      hmoves.accounts hcall honce hpositive
    have hcounts (p : Call → Bool) := countP_replace p before behind call call'
    refine ⟨?_, honce', hmoves.held_le hbounded, ?_, ?_, ?_, ?_⟩
    · intro other hmem
      rcases List.mem_append.1 hmem with hmem | hmem
      · exact hsound other (List.mem_append_left _ hmem)
      · rcases List.mem_cons.1 hmem with rfl | hmem
        · exact hsound'
        · exact hsound other (List.mem_append_right _ (List.mem_cons_of_mem _ hmem))
    · have := hcounts Call.holdsSlot
      dsimp only at hheld ⊢
      omega
    · have := hcounts Call.isActive
      dsimp only at hactive ⊢
      omega
    · have := hcounts Call.isCounted
      dsimp only at hrequests ⊢
      omega
    · have := hcounts Call.isDone
      dsimp only at hdurations ⊢
      omega

/-- They are balanced after every run. -/
theorem Runs.isBalanced {inner : σ} {events : List Event} {system : System σ}
    (h : Runs service slots (.start inner) events system) : system.IsBalanced slots := by
  induction h with
  | nil => exact System.isBalanced_start inner
  | concat _ hstep ih => exact hstep.isBalanced ih

end Systems

/-! ## Who holds a slot -/

/-- Whether only a call that holds a slot does it. -/
def Action.needsSlot : Action → Bool
  | .entered | .rejected | .started | .acted | .returned | .left | .released => true
  | _ => false

/-- The call has acquired a slot and not given it back. -/
def Holds (events : List Event) (call : Nat) : Prop :=
  ⟨call, .acquired⟩ ∈ events ∧ ⟨call, .released⟩ ∉ events

/-- The events tell whether a call holds a slot, and one that still waits has had none. -/
structure Call.IsTold (call : Call) (index : Nat) (events : List Event) : Prop where
  holds : call.holdsSlot = true ↔ Holds events index
  waiting : call.point = .waiting → ⟨index, .acquired⟩ ∉ events
  released : ⟨index, .released⟩ ∈ events → ⟨index, .acquired⟩ ∈ events

section Steps

variable {σ : Type} {service : Service σ} {slots : Nat}

/-- What a step has to do with the slot of its call. -/
inductive SlotUse (call : Call) (action : Action) (call' : Call) : Prop where
  | acquires (haction : action = .acquired) (hbefore : call.point = .waiting)
      (hafter : call'.holdsSlot = true ∧ call'.point ≠ .waiting)
  | releases (haction : action = .released) (hbefore : call.holdsSlot = true)
      (hafter : call'.holdsSlot = false ∧ call'.point ≠ .waiting)
  | keeps (haction : action ≠ .acquired ∧ action ≠ .released)
      (hneeds : action.needsSlot = true → call.holdsSlot = true)
      (hholds : call'.holdsSlot = call.holdsSlot)
      (hwaiting : call'.point = .waiting → call.point = .waiting)

/-- A move uses a slot as its event tells. -/
theorem Moves.slotUse {state after : State σ} {held held' : Nat} {call call' : Call}
    {action : Action} (h : Moves service slots state held call action after held' call')
    (hsound : call.IsSound) : SlotUse call action call' := by
  have houtstanding := hsound.outstanding
  have hended (draft : Draft) (error : Error) : draft.ended error ≠ .waiting := by
    unfold Draft.ended
    split <;> nofun
  have hreturned (draft : Draft) (returned : Return) : draft.returned returned ≠ .waiting := by
    cases returned with
    | panic message => nofun
    | normal report error =>
      cases error with
      | some error => exact hended _ error
      | none => cases report <;> nofun
  cases h with
  | contextEnds => exact .keeps (by decide) nofun rfl id
  | acquire hfree => exact .acquires rfl rfl ⟨rfl, nofun⟩
  | refuse => exact .keeps (by decide) nofun rfl fun h => absurd h (hended _ _)
  | enter =>
    cases (show _ = _ from hsound)
    exact .keeps (by decide) (fun _ => rfl) rfl nofun
  | reject herror =>
    cases (show _ = _ from hsound)
    exact .keeps (by decide) (fun _ => rfl) rfl fun h => absurd h (hended _ _)
  | start hok =>
    cases (show _ = _ from hsound)
    exact .keeps (by decide) (fun _ => rfl) rfl nofun
  | act htouched =>
    cases (show _ = _ from hsound)
    exact .keeps (by decide) (fun _ => rfl) rfl nofun
  | comeBack returned =>
    cases (show _ = _ from hsound)
    exact .keeps (by decide) (fun _ => rfl) rfl fun h => absurd h (hreturned _ _)
  | count => exact .keeps (by decide) nofun rfl nofun
  | leave =>
    cases houtstanding
    exact .keeps (by decide) (fun _ => rfl) rfl nofun
  | release =>
    cases houtstanding
    exact .releases rfl rfl ⟨rfl, nofun⟩
  | recover =>
    cases houtstanding
    exact .keeps (by decide) nofun rfl nofun
  | settle =>
    cases houtstanding
    exact .keeps (by decide) nofun rfl nofun
  | conclude => exact .keeps (by decide) nofun rfl nofun

/-- What is told of a call depends on its slot, its point and the events about it. -/
theorem Call.IsTold.congr {call call' : Call} {index : Nat} {events events' : List Event}
    (h : call.IsTold index events)
    (hacquired : ⟨index, .acquired⟩ ∈ events' ↔ ⟨index, .acquired⟩ ∈ events)
    (hreleased : ⟨index, .released⟩ ∈ events' ↔ ⟨index, .released⟩ ∈ events)
    (hholds : call'.holdsSlot = call.holdsSlot)
    (hwaiting : call'.point = .waiting → call.point = .waiting) : call'.IsTold index events' where
  holds := by
    rw [hholds, h.holds, Holds, Holds, hacquired, hreleased]
  waiting := fun hpoint => by
    rw [hacquired]
    exact h.waiting (hwaiting hpoint)
  released := fun hmem => hacquired.2 (h.released (hreleased.1 hmem))

/-- Another event is in a history just if it was there before the last. -/
theorem mem_concat_iff_of_ne {events : List Event} {first second : Event} (h : first ≠ second) :
    first ∈ events ++ [second] ↔ first ∈ events := by
  rw [List.mem_append, List.mem_singleton]
  exact ⟨fun hmem => hmem.resolve_right h, .inl⟩

/-- An event of another call tells nothing of this one. -/
theorem Call.IsTold.concat_other {call : Call} {index : Nat} {events : List Event} {event : Event}
    (h : call.IsTold index events) (hne : index ≠ event.call) :
    call.IsTold index (events ++ [event]) := by
  have hmem (action : Action) : ⟨index, action⟩ ∈ events ++ [event] ↔ ⟨index, action⟩ ∈ events :=
    mem_concat_iff_of_ne fun heq => hne (congrArg Event.call heq)
  exact h.congr (hmem _) (hmem _) rfl id

/-- An event tells of its call what that has become. -/
theorem SlotUse.isTold {call call' : Call} {action : Action} (h : SlotUse call action call')
    {index : Nat} {events : List Event} (htold : call.IsTold index events) :
    call'.IsTold index (events ++ [⟨index, action⟩]) := by
  cases h with
  | acquires haction hbefore hafter =>
    subst haction
    have hfresh := htold.waiting hbefore
    have hne : Event.mk index .released ≠ ⟨index, .acquired⟩ := fun h => nomatch h
    have hreleased : ⟨index, .released⟩ ∉ events ++ [⟨index, .acquired⟩] := fun hmem =>
      hfresh (htold.released ((mem_concat_iff_of_ne hne).1 hmem))
    exact ⟨⟨fun _ => ⟨List.mem_concat_self, hreleased⟩, fun _ => hafter.1⟩,
      fun hpoint => absurd hpoint hafter.2, fun hmem => absurd hmem hreleased⟩
  | releases haction hbefore hafter =>
    subst haction
    have hacquired : ⟨index, .acquired⟩ ∈ events ++ [⟨index, .released⟩] :=
      List.mem_append_left _ (htold.holds.1 hbefore).1
    refine ⟨⟨fun hholds => ?_, fun hholds => absurd List.mem_concat_self hholds.2⟩,
      fun hpoint => absurd hpoint hafter.2, fun _ => hacquired⟩
    rw [hafter.1] at hholds
    cases hholds
  | keeps haction hneeds hholds hwaiting =>
    refine htold.congr (mem_concat_iff_of_ne ?_) (mem_concat_iff_of_ne ?_) hholds hwaiting
    · exact fun heq => haction.1 (congrArg Event.action heq).symm
    · exact fun heq => haction.2 (congrArg Event.action heq).symm

/-- Nothing but its arrival is told of a call that was just made. -/
theorem Call.isTold_start {index : Nat} {events : List Event} (request : Request) (isOver : Bool)
    (hnone : ∀ action, ⟨index, action⟩ ∉ events) (other : Nat) :
    (Call.start request isOver).IsTold index (events ++ [⟨other, .arrived⟩]) := by
  have hnot {action : Action} (h : action ≠ .arrived) :
      ⟨index, action⟩ ∉ events ++ [⟨other, .arrived⟩] := fun hmem =>
    hnone action ((mem_concat_iff_of_ne fun heq => h (congrArg Event.action heq)).1 hmem)
  have hacquired := @hnot .acquired nofun
  exact ⟨⟨nofun, fun h => absurd h.1 hacquired⟩, fun _ => hacquired,
    fun h => absurd h (hnot nofun)⟩

/-- A call that moves has arrived before. -/
theorem Moves.ne_arrived {state after : State σ} {held held' : Nat} {call call' : Call}
    {action : Action} (h : Moves service slots state held call action after held' call') :
    action ≠ .arrived := by
  cases h <;> nofun

end Steps

/-- The events tell of each call, and of no others. -/
structure System.IsTold {σ : Type} (system : System σ) (events : List Event) : Prop where
  calls : ∀ {index} {call : Call}, system.calls[index]? = some call → call.IsTold index events
  known : ∀ event ∈ events, event.call < system.calls.length
  arrived : events.countP (·.action == .arrived) = system.calls.length

/-- The call in the middle of a list. -/
theorem getElem?_middle (before behind : List Call) (call : Call) :
    (before ++ call :: behind)[before.length]? = some call := by
  rw [List.getElem?_append_right (Nat.le_refl _), Nat.sub_self]
  rfl

/-- After a call is replaced there is the new one in its place, and the others in theirs. -/
theorem getElem?_replace {before behind : List Call} {call call' other : Call} {index : Nat}
    (h : (before ++ call' :: behind)[index]? = some other) :
    (index = before.length ∧ other = call') ∨
      index ≠ before.length ∧ (before ++ call :: behind)[index]? = some other := by
  rcases Nat.lt_trichotomy index before.length with hlt | rfl | hgt
  · rw [List.getElem?_append_left hlt] at h
    exact .inr ⟨Nat.ne_of_lt hlt, by rw [List.getElem?_append_left hlt, h]⟩
  · rw [getElem?_middle] at h
    exact .inl ⟨rfl, (Option.some.inj h).symm⟩
  · obtain ⟨distance, rfl⟩ := Nat.exists_eq_add_of_lt hgt
    have hle : before.length ≤ before.length + distance + 1 := by omega
    have hdistance : before.length + distance + 1 - before.length = distance + 1 := by omega
    rw [List.getElem?_append_right hle, hdistance] at h
    refine .inr ⟨by omega, ?_⟩
    rw [List.getElem?_append_right hle, hdistance]
    exact h

section Systems

variable {σ : Type} {service : Service σ} {slots : Nat}

/-- After a step the events tell of the calls what they have become. -/
theorem Step.isTold {system after : System σ} {event : Event} {events : List Event}
    (h : Step service slots system event after) (hbalanced : system.IsBalanced slots)
    (htold : system.IsTold events) : after.IsTold (events ++ [event]) := by
  obtain ⟨hcalls, hknown, harrived⟩ := htold
  cases h with
  | @arrive state held calls request isOver =>
    refine ⟨fun {index call} hcall => ?_, ?_, ?_⟩
    · rcases Nat.lt_or_ge index calls.length with hlt | hge
      · rw [List.getElem?_append_left hlt] at hcall
        exact (hcalls hcall).concat_other (Nat.ne_of_lt hlt)
      · have hnone (action : Action) : Event.mk index action ∉ events :=
          fun hmem => Nat.not_lt.2 hge (hknown _ hmem)
        have hcall : call = .start request isOver := by
          rw [List.getElem?_append_right hge] at hcall
          exact List.mem_singleton.1 (List.mem_of_getElem? hcall)
        rw [hcall]
        exact Call.isTold_start request isOver hnone _
    · intro event hmem
      rw [List.length_append, List.length_singleton]
      rcases List.mem_append.1 hmem with hmem | hmem
      · exact Nat.lt_succ_of_lt (hknown event hmem)
      · rw [List.mem_singleton.1 hmem]
        exact Nat.lt_succ_self _
    · rw [List.countP_append, harrived, List.length_append]
      rfl
  | @move state after held held' before call call' behind action hmoves =>
    have hcall : call.IsSound := hbalanced.sound call (List.mem_append_right _ List.mem_cons_self)
    have htold : call.IsTold before.length events := hcalls (getElem?_middle before behind call)
    have hlength : (before ++ call' :: behind).length = (before ++ call :: behind).length := by
      rw [List.length_append, List.length_append, List.length_cons, List.length_cons]
    refine ⟨fun {index other} hother => ?_, ?_, ?_⟩
    · obtain ⟨rfl, rfl⟩ | ⟨hne, hsame⟩ := getElem?_replace hother
      · exact (hmoves.slotUse hcall).isTold htold
      · exact (hcalls hsame).concat_other hne
    · intro event hmem
      rw [hlength]
      rcases List.mem_append.1 hmem with hmem | hmem
      · exact hknown event hmem
      · rw [List.mem_singleton.1 hmem, List.length_append]
        exact Nat.lt_add_of_pos_right (Nat.succ_pos _)
    · have hcount : [Event.mk before.length action].countP (·.action == .arrived) = 0 := by
        rw [List.countP_singleton, if_neg (by simpa using hmoves.ne_arrived)]
      rw [List.countP_append, harrived, hcount, Nat.add_zero]
      exact hlength.symm

/-- After a run the events tell of all calls. -/
theorem Runs.isTold {inner : σ} {events : List Event} {system : System σ}
    (h : Runs service slots (.start inner) events system) : system.IsTold events := by
  induction h with
  | nil => exact ⟨nofun, List.forall_mem_nil _, rfl⟩
  | concat hruns hstep ih => exact hstep.isTold hruns.isBalanced ih

/-- Every event of a run is a step from what the events before it have led to. -/
theorem Runs.split {first last : System σ} {events before after : List Event} {event : Event}
    (h : Runs service slots first events last) (hsplit : events = before ++ event :: after) :
    ∃ middle next, Runs service slots first before middle ∧
      Step service slots middle event next := by
  induction h generalizing after with
  | nil => simp at hsplit
  | @concat earlier middle latest last hruns hstep ih =>
    rcases List.eq_nil_or_concat after with rfl | ⟨init, other, rfl⟩
    · obtain ⟨rfl, hevent⟩ := List.append_inj' hsplit rfl
      cases hevent
      exact ⟨middle, last, hruns, hstep⟩
    · rw [List.concat_eq_append, ← List.cons_append, ← List.append_assoc] at hsplit
      exact ih (List.append_inj' hsplit rfl).1

/-! ## Accounts -/

/-- What holds of a service whatever its calls have done so far. -/
structure System.IsAccounted (system : System σ) (slots : Nat) (events : List Event) : Prop where
  /-- A call holds a slot from when it acquired it until it has given it back. -/
  holds : ∀ {index} {call : Call}, system.calls[index]? = some call →
    (call.holdsSlot = true ↔ Holds events index)
  /-- No more calls hold a slot than there are. -/
  slots : system.calls.countP Call.holdsSlot ≤ slots
  /-- The gauge is never negative, and at most the number of calls that hold a slot. -/
  nonneg : 0 ≤ (reading system.state.metrics).active
  active : (reading system.state.metrics).active ≤ system.calls.countP Call.holdsSlot
  /-- When no call is in progress, all slots are free, the gauge is zero, and the requests and the
  observed times are as many as the calls that were made. -/
  idle : (∀ call ∈ system.calls, call.isDone = true) →
    system.held = 0 ∧ reading system.state.metrics
      = ⟨0, events.countP (·.action == .arrived), events.countP (·.action == .arrived)⟩

/-- After a run everything is accounted for. -/
theorem Runs.isAccounted {inner : σ} {events : List Event} {system : System σ}
    (h : Runs service slots (.start inner) events system) : system.IsAccounted slots events := by
  obtain ⟨hsound, -, hbounded, hheld, hactive, hrequests, hdurations⟩ := h.isBalanced
  have htold := h.isTold
  refine ⟨fun hcall => (htold.calls hcall).holds, hheld ▸ hbounded, ?_, ?_, fun hdone => ?_⟩
  · rw [hactive]
    exact Int.natCast_nonneg _
  · rw [hactive]
    exact Int.ofNat_le.2 (List.countP_mono_left fun call hmem => (hsound call hmem).holdsSlot)
  · have hfree (call : Call) (hmem : call ∈ system.calls) := (hsound call hmem).free (hdone call hmem)
    have hholders : system.calls.countP Call.holdsSlot = 0 :=
      List.countP_eq_zero.2 fun call hmem => by rw [(hfree call hmem).1]; nofun
    have hactives : system.calls.countP Call.isActive = 0 :=
      List.countP_eq_zero.2 fun call hmem => by rw [(hfree call hmem).2]; nofun
    have hcounted : system.calls.countP Call.isCounted = system.calls.length :=
      List.countP_eq_length.2 fun call hmem => Call.isCounted_of_isDone (hdone call hmem)
    have hdones : system.calls.countP Call.isDone = system.calls.length :=
      List.countP_eq_length.2 hdone
    have hreading : reading system.state.metrics = ⟨system.calls.countP Call.isActive,
        system.calls.countP Call.isCounted, system.calls.countP Call.isDone⟩ := by
      rw [← hactive, ← hrequests, ← hdurations]
    refine ⟨hheld.trans hholders, ?_⟩
    rw [hreading, hactives, hcounted, hdones, htold.arrived]
    rfl

/-- **The slots of a service.** After any steps of any calls, in any order, the counts of the
service are right; and each call acquires a slot at most once, gives it back at most once and only
after it acquired it, and does nothing with its runner unless it holds one. -/
theorem slots_accounted (service : Service σ) (slots : Nat) (inner : σ) {events : List Event}
    {system : System σ} (h : Runs service slots (.start inner) events system) :
    system.IsAccounted slots events ∧
      ∀ {before after : List Event} {event : Event}, events = before ++ event :: after →
        (event.action.needsSlot = true → Holds before event.call) ∧
        (event.action = .acquired → ⟨event.call, .acquired⟩ ∉ before) := by
  refine ⟨h.isAccounted, fun hsplit => ?_⟩
  obtain ⟨middle, next, hruns, hstep⟩ := h.split hsplit
  cases hstep with
  | arrive request isOver => exact ⟨nofun, nofun⟩
  | @move state after held held' before call call' behind action hmoves =>
    have hsound : call.IsSound :=
      hruns.isBalanced.sound call (List.mem_append_right _ List.mem_cons_self)
    have htold : call.IsTold before.length _ :=
      hruns.isTold.calls (getElem?_middle before behind call)
    cases hmoves.slotUse hsound with
    | acquires haction hbefore hafter =>
      subst haction
      exact ⟨nofun, fun _ => htold.waiting hbefore⟩
    | releases haction hbefore hafter =>
      subst haction
      exact ⟨fun _ => htold.holds.1 hbefore, nofun⟩
    | keeps haction hneeds hholds hwaiting =>
      exact ⟨fun h => htold.holds.1 (hneeds h), fun h => absurd h haction.1⟩

end Systems

namespace Crowd

/-- A service whose runner breaks down. -/
def exploding : Service Unit where
  policy := .strict
  runner := fun _ _ _ state => (.panic (bytes "runner exploded"), state)
  archive := none

/-- A job with a program, and one whose caller does not wait for long. -/
def patient : Request := ⟨bytes "a", bytes "\x7b\x7d", .patient⟩

def hasty : Request := ⟨bytes "b", bytes "\x7b\x7d", .limited⟩

/-- Two calls for one slot: the first has it, the second gives up waiting, and then the runner of the
first breaks down. -/
theorem exploding_accounted :
    ∃ (events : List Event) (system : System Unit),
      Runs exploding 1 (.start ()) events system ∧ system.calls.map Call.isDone = [true, true] ∧
      system.IsAccounted 1 events ∧ system.held = 0 ∧
      reading system.state.metrics = ⟨0, 2, 2⟩ := by
  obtain ⟨source, environment, hgenerate⟩ : ∃ source environment,
      Program.generate exploding.policy patient.document = .ok (source, environment) := by
    have hok : (Program.generate exploding.policy patient.document).toOption.isSome = true := by
      decide +kernel
    cases hgenerate : Program.generate exploding.policy patient.document with
    | ok generated => exact ⟨_, _, rfl⟩
    | error error =>
      rw [hgenerate] at hok
      cases hok
  have hbegun : Reaches exploding 1 (.start ()) ⟨.start (), 0, []⟩ := .refl _
  have harrived := (hbegun.arrive patient false).arrive hasty false
  -- The states are not needed, only what becomes of the calls.
  obtain ⟨state, hrunning⟩ : ∃ state, Reaches exploding 1 (.start ()) ⟨state, 1,
      [⟨patient, false, .running { Draft.start patient.jobId with source },
        [.leave, .release, .settle]⟩, .start hasty false]⟩ :=
    ⟨_, ((harrived.move [] (.acquire (by decide))).move [] .enter).move [] (.start hgenerate)⟩
  have hrefused := (hrunning.move [_] .contextEnds).move [_] .refuse
  obtain ⟨state, second, hgone⟩ : ∃ state result, Reaches exploding 1 (.start ()) ⟨state, 1,
      [⟨patient, false, .running { Draft.start patient.jobId with source },
        [.leave, .release, .settle]⟩, ⟨hasty, true, .done result, []⟩]⟩ :=
    ⟨_, _, ((hrefused.move [_] .count).move [_] .settle).move [_] .conclude⟩
  have hbroken := ((hgone.move [] (.comeBack (.panic (bytes "runner exploded")))).move []
    .leave).move [] .release
  obtain ⟨state, first, events, hruns⟩ : ∃ state result, Reaches exploding 1 (.start ())
      ⟨state, 0, [⟨patient, false, .done result, []⟩, ⟨hasty, true, .done second, []⟩]⟩ :=
    ⟨_, _, ((hbroken.move [] .recover).move [] .count).move [] .conclude⟩
  obtain ⟨haccounted, -⟩ := slots_accounted exploding 1 () hruns
  have harrivals := hruns.isTold.arrived
  obtain ⟨hheld, hreading⟩ := haccounted.idle
    (List.forall_mem_cons.2 ⟨rfl, List.forall_mem_cons.2 ⟨rfl, List.forall_mem_nil _⟩⟩)
  rw [harrivals] at hreading
  exact ⟨events, _, hruns, rfl, haccounted, hheld, hreading⟩

end Crowd

end Job

end FunctionChain
