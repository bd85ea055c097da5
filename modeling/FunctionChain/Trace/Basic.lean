import FunctionChain.Digest.Sha256
import FunctionChain.Json.Written
import FunctionChain.Text.Quoted

/-!
# Traces

The logical steps of one job: the states it entered and what the artifact cache did. A trace holds
no times, job ids or paths, so two jobs over the same program with the same outcome have
byte-identical traces.
-/

namespace FunctionChain

namespace Trace

/-- One step. -/
structure Event where
  seq : Int
  kind : Bytes
  /-- The state that was entered, for events of that kind. -/
  state : Bytes
  /-- A stable code that says why, or nothing. -/
  reason : Bytes
deriving Repr, DecidableEq

/-- The kind of the events that enter a state. -/
def stateEntered : Bytes := bytes "StateEntered"

/-- The kind of the event that records an artifact taken from the cache. -/
def cacheHit : Bytes := bytes "CacheHit"

/-- The kind of the event that records an artifact put into the cache. -/
def cacheStored : Bytes := bytes "CacheStored"

/-- The name of a generated program: its digest. -/
def sourceHash (source : Bytes) : Bytes := Sha256.hexDigest source

/-- The digest of an encoded trace. Nothing has no digest. -/
def hashOf (encoded : Bytes) : Bytes := if encoded.isEmpty then [] else Sha256.hexDigest encoded

end Trace

/-- The steps of one job, under the name of its program. -/
structure Trace where
  source : Bytes
  events : List Trace.Event
deriving Repr, DecidableEq

namespace Trace

/-- Why a trace cannot be written. -/
inductive Problem where
  | noTrace
  | noSource
  | noKind (index : Nat)
  | noState (index : Nat) (kind : Bytes)
deriving Repr, DecidableEq

/-- The message of a problem. -/
def Problem.message : Problem → Bytes
  | .noTrace => bytes "trace is nil"
  | .noSource => bytes "sourceHash is required"
  | .noKind index => bytes "events[" ++ Decimal.ofNat index ++ bytes "].kind is required"
  | .noState index kind =>
    bytes "events[" ++ Decimal.ofNat index ++ bytes "].state is required for kind "
      ++ Quoted.quote kind

/-- What is wrong with one event. -/
def Event.problem? (index : Nat) (event : Event) : Option Problem :=
  if event.kind.isEmpty then some (.noKind index)
  else if event.kind == stateEntered && event.state.isEmpty then some (.noState index event.kind)
  else none

/-- The first thing that is wrong with a trace. -/
def problem? (trace : Trace) : Option Problem :=
  if trace.source.isEmpty then some .noSource
  else trace.events.zipIdx.findSome? fun (event, index) => event.problem? index

/-- The trace with its events by position; events of equal position keep their order. -/
def canonical (trace : Trace) : Trace :=
  { trace with events := trace.events.mergeSort fun a b => a.seq ≤ b.seq }

/-- The states that were entered, in order. -/
def states (trace : Trace) : List Bytes :=
  (trace.events.filter (·.kind == stateEntered)).map (·.state)

/-! ## Encoding -/

/-- One event as JSON. Empty optional members are left out. -/
def Event.toJson (event : Event) : Bytes :=
  Json.compactRecord ([(bytes "seq", Decimal.ofInt event.seq),
      (bytes "kind", Json.ofText event.kind)]
    ++ (if event.state.isEmpty then [] else [(bytes "state", Json.ofText event.state)])
    ++ (if event.reason.isEmpty then [] else [(bytes "reason", Json.ofText event.reason)]))

/-- The trace as JSON, with its events as they stand. -/
def encode (trace : Trace) : Bytes :=
  bytes "\x7b\"sourceHash\":" ++ Json.ofText trace.source ++ bytes ",\"events\":["
    ++ Bytes.joined (bytes ",") (trace.events.map Event.toJson) ++ bytes "]\x7d"

/-- Why a trace cannot be encoded as it stands: there is no program, or an event has no kind. -/
def unencodable? (trace : Trace) : Option Bytes :=
  if trace.source.isEmpty then some (Problem.message .noSource)
  else if trace.events.any (·.kind.isEmpty) then
    some (bytes "json: error calling MarshalJSON for type trace.Event: kind is required")
  else none

/-- The trace as JSON with its events as they stand, or why there is none. -/
def toJson (trace : Trace) : Except Bytes Bytes :=
  match trace.unencodable? with
  | some message => .error message
  | none => .ok trace.encode

/-- The canonical encoding: events by position, and only for a trace without problems. -/
def canonicalJson (trace : Trace) : Except Problem Bytes :=
  match trace.canonical.problem? with
  | some problem => .error problem
  | none => .ok trace.canonical.encode

/-- The digest of the canonical encoding. -/
def hash (trace : Trace) : Except Problem Bytes := trace.canonicalJson.map hashOf

end Trace

end FunctionChain
