import FunctionChain.Trace.Recorder

/-!
# Recorded traces

A recorder numbers its events from zero in the order of their arrival (`numbered`). The numbers
increase, so putting a recorded trace into its canonical order changes nothing, and all that does
not look at the numbers sees the events as they came.
-/

namespace FunctionChain

namespace Trace

/-! ## Numbering -/

/-- The events with their positions, counted from `first`. -/
def numbered (first : Nat) : List Event → List Event
  | [] => []
  | event :: rest => { event with seq := first } :: numbered (first + 1) rest

/-- Numbering adds no events. -/
theorem length_numbered (first : Nat) (events : List Event) :
    (numbered first events).length = events.length := by
  induction events generalizing first with
  | nil => rfl
  | cons event rest ih => simp [numbered, ih]

/-- The positions have no gaps. -/
theorem map_seq_numbered (first : Nat) (events : List Event) :
    (numbered first events).map (·.seq) = (List.range' first events.length).map Int.ofNat := by
  induction events generalizing first with
  | nil => rfl
  | cons event rest ih =>
    simp only [numbered, List.map_cons, ih, List.length_cons, List.range'_succ]
    rfl

/-- Events are numbered in order. -/
theorem pairwise_numbered (first : Nat) (events : List Event) :
    (numbered first events).Pairwise fun a b => a.seq ≤ b.seq := by
  have h : ((numbered first events).map (·.seq)).Pairwise (· ≤ ·) := by
    rw [map_seq_numbered, List.pairwise_map]
    exact (List.pairwise_le_range' (s := first)).imp fun h => Int.ofNat_le.2 h
  exact List.pairwise_map.1 h

/-- What does not look at the positions does not see them. -/
theorem map_numbered {α : Type} (view : Event → α)
    (h : ∀ (event : Event) (seq : Int), view { event with seq } = view event) (first : Nat)
    (events : List Event) : (numbered first events).map view = events.map view := by
  induction events generalizing first with
  | nil => rfl
  | cons event rest ih => simp only [numbered, List.map_cons, h, ih]

/-- What holds of events whatever their positions holds of all when they are numbered. -/
theorem forall_mem_numbered {p : Event → Prop}
    (h : ∀ (event : Event) (seq : Int), p { event with seq } ↔ p event) (first : Nat)
    (events : List Event) :
    (∀ event ∈ numbered first events, p event) ↔ ∀ event ∈ events, p event := by
  induction events generalizing first with
  | nil => exact Iff.rfl
  | cons event rest ih => simp only [numbered, List.forall_mem_cons, h, ih]

/-! ## Recording -/

/-- A recorder that goes on recording counts on. -/
theorem Recorder.events_foldl_record (events : List Event) (recorder : Recorder) :
    (events.foldl record recorder).events
      = recorder.events ++ numbered recorder.events.length events := by
  induction events generalizing recorder with
  | nil => simp [numbered]
  | cons event rest ih =>
    rw [List.foldl_cons, ih]
    simp [record, numbered]

/-- Events in order are canonical already. -/
theorem canonical_of_pairwise {source : Bytes} {events : List Event}
    (h : events.Pairwise fun a b => a.seq ≤ b.seq) :
    canonical ⟨source, events⟩ = ⟨source, events⟩ := by
  have hs : events.mergeSort (fun a b => decide (a.seq ≤ b.seq)) = events := by
    apply List.mergeSort_of_pairwise
    exact h.imp decide_eq_true
  simp [canonical, hs]

/-- A numbered trace is in its canonical order. -/
theorem canonical_numbered (source : Bytes) (first : Nat) (events : List Event) :
    canonical ⟨source, numbered first events⟩ = ⟨source, numbered first events⟩ :=
  canonical_of_pairwise (pairwise_numbered first events)

/-- The trace of what was recorded has the events as they came, numbered from zero. -/
theorem trace_foldl_record (events : List Event) (source : Bytes) :
    (events.foldl Recorder.record .empty).trace source = ⟨source, numbered 0 events⟩ := by
  have h : (events.foldl Recorder.record .empty).events = numbered 0 events :=
    Recorder.events_foldl_record events .empty
  rw [Recorder.trace, h]
  exact canonical_numbered source 0 events

/-! ## States -/

/-- Numbering changes no states. -/
theorem states_numbered (source : Bytes) (first : Nat) (events : List Event) :
    states ⟨source, numbered first events⟩ = states ⟨source, events⟩ := by
  unfold states
  induction events generalizing first with
  | nil => rfl
  | cons event rest ih =>
    simp only [numbered, List.filter_cons]
    split
    · simp only [List.map_cons]
      exact congrArg _ (ih _)
    · exact ih _

/-! ## Problems -/

/-- An event has a kind, and a state when it enters one. -/
def Event.IsComplete (event : Event) : Prop :=
  event.kind ≠ [] ∧ (event.kind = stateEntered → event.state ≠ [])

/-- Nothing is wrong with an event just if it is complete. -/
theorem Event.problem?_eq_none_iff {index : Nat} {event : Event} :
    event.problem? index = none ↔ event.IsComplete := by
  unfold Event.problem? Event.IsComplete
  grind

/-- A trace has no problem exactly when it has a program and its events are complete. -/
theorem problem?_eq_none_iff {trace : Trace} :
    trace.problem? = none ↔ trace.source ≠ [] ∧ ∀ event ∈ trace.events, event.IsComplete := by
  unfold problem?
  split
  · next h => simp [List.isEmpty_iff.1 h]
  · next h =>
    have hs : trace.source ≠ [] := fun he => h (List.isEmpty_iff.2 he)
    simp only [List.findSome?_eq_none_iff, Event.problem?_eq_none_iff]
    constructor
    · intro hall
      refine ⟨hs, fun event hmem => ?_⟩
      obtain ⟨index, hlt, rfl⟩ := List.getElem_of_mem hmem
      exact hall (trace.events[index], index)
        (List.mem_zipIdx_iff_getElem?.2 (List.getElem?_eq_getElem hlt))
    · rintro ⟨-, hall⟩ ⟨event, index⟩ hmem
      exact hall event (List.mem_of_getElem? (List.mem_zipIdx_iff_getElem?.1 hmem))

/-- A digest is never empty. -/
theorem sourceHash_ne_nil (source : Bytes) : sourceHash source ≠ [] := by
  simp [sourceHash, Sha256.hexDigest, Sha256.digest, Hex.ofBytes, Hex.padded]

end Trace

end FunctionChain
