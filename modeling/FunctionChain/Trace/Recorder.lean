import FunctionChain.Trace.Basic

/-!
# Recording traces

A recorder collects events and numbers them in the order of their arrival. Events are sent to a
*sink*, which need not be a recorder: sending never fails, whatever the sink does with the event.
-/

namespace FunctionChain

namespace Trace

/-- The events collected so far. -/
structure Recorder where
  events : List Event
deriving Repr, DecidableEq

namespace Recorder

/-- The recorder before the first event. -/
def empty : Recorder := ⟨[]⟩

/-- Take an event and give it the next number. -/
def record (recorder : Recorder) (event : Event) : Recorder :=
  ⟨recorder.events ++ [{ event with seq := recorder.events.length }]⟩

/-- Enter a state. -/
def enter (recorder : Recorder) (state reason : Bytes) : Recorder :=
  recorder.record ⟨0, stateEntered, state, reason⟩

/-- The trace of what was collected, for a program. -/
def trace (recorder : Recorder) (source : Bytes) : Trace :=
  Trace.canonical ⟨source, recorder.events⟩

end Recorder

/-- Where events are sent. -/
inductive Sink where
  | recorder (events : Recorder)
  /-- There is no sink, or it is one that forgets its events. -/
  | forgetful
  /-- A sink that breaks on every event. -/
  | faulty
deriving Repr, DecidableEq

/-- Send an event. What the sink cannot take is lost, and nothing else happens. -/
def Sink.send (sink : Sink) (event : Event) : Sink :=
  match sink with
  | .recorder events => .recorder (events.record event)
  | .forgetful => .forgetful
  | .faulty => .faulty

/-- What a sink has collected. -/
def Sink.collected : Sink → Recorder
  | .recorder events => events
  | .forgetful | .faulty => .empty

end Trace

end FunctionChain
