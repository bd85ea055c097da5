import FunctionChain.Build.Stage
import FunctionChain.Failure.Error
import FunctionChain.Log.Entry
import FunctionChain.Metrics.Basic
import FunctionChain.Trace.Recorder

/-!
# The journal of a build

Everything a build does is written down in order. The trace of the job, its log and its metrics are
three views of this one journal: the trace has the stages and what the cache did, the log has them
with their circumstances, and the metrics count them.
-/

namespace FunctionChain

namespace Build

/-- Something that happened in a build. -/
inductive Happening where
  /-- A stage was entered, for a reason when it is that of failure. -/
  | entered (stage : Stage) (reason : Bytes)
  /-- A phase of the build is done. -/
  | completed (phase : Bytes)
  | lookupFailed (error : Error)
  /-- The cache had no artifact. -/
  | missed
  /-- The artifact was taken from the cache. -/
  | restored (key : Bytes)
  | compiling (command : Bytes) (arguments : List Bytes)
  /-- The artifact was put into the cache. -/
  | stored
  | storeFailed (error : Error)
  | removalFailed (path : Bytes) (error : Error)
  | failed (reason : Bytes) (error : Error)

/-- What happened, in order. -/
abbrev Journal := List Happening

/-! ## The trace -/

/-- The event of a happening. Its number comes with the recording. -/
def Happening.event? : Happening → Option Trace.Event
  | .entered stage reason => some ⟨0, Trace.stateEntered, stage.name, reason⟩
  | .restored _ => some ⟨0, Trace.cacheHit, [], []⟩
  | .stored => some ⟨0, Trace.cacheStored, [], []⟩
  | _ => none

/-- The trace of a journal, under the name of the program. -/
def Journal.trace (journal : Journal) (source : Bytes) : Trace :=
  ((journal.filterMap Happening.event?).foldl Trace.Recorder.record .empty).trace
    (Trace.sourceHash source)

/-- Whether the artifact was taken from the cache. -/
def Journal.isHit (journal : Journal) : Bool :=
  journal.any fun
    | .restored _ => true
    | _ => false

/-! ## The log -/

/-- The log entry of a happening. -/
def Happening.entry? : Happening → Option Log.Entry
  | .entered stage _ => some ⟨.debug, bytes "State entered", [(bytes "state", .text stage.name)]⟩
  | .completed _ | .missed | .stored => none
  | .lookupFailed error =>
    some ⟨.warn, bytes "Artifact cache lookup failed", Log.errorFields error⟩
  | .restored key =>
    some ⟨.debug, bytes "Artifact restored from cache", [(bytes "key", .text key)]⟩
  | .compiling command arguments =>
    some ⟨.debug, bytes "Compiling",
      [(bytes "toolchain", .text command), (bytes "args", .texts arguments)]⟩
  | .storeFailed error =>
    some ⟨.warn, bytes "Failed to store artifact in cache", Log.errorFields error⟩
  | .removalFailed path error =>
    some ⟨.warn, bytes "Failed to remove workspace",
      (bytes "dir", .text path) :: Log.errorFields error⟩
  | .failed reason error =>
    some ⟨.info, bytes "Job failed", (bytes "reason", .text reason) :: Log.errorFields error⟩

/-- The log of a journal. -/
def Journal.entries (journal : Journal) : List Log.Entry := journal.filterMap Happening.entry?

/-! ## The metrics -/

/-- Builds by final stage and failure code. -/
def jobsFamily : Metrics.Family :=
  ⟨bytes "fsscompiler_build_jobs_total",
    bytes "Number of build jobs by terminal state and failure code", .counter⟩

/-- Times of the phases. -/
def phasesFamily : Metrics.Family :=
  ⟨bytes "fsscompiler_build_stage_duration_seconds",
    bytes "Histogram of times spent in each build stage", .histogram⟩

/-- Lookups in the cache. -/
def lookupsFamily : Metrics.Family :=
  ⟨bytes "fsscompiler_build_cache_lookups_total",
    bytes "Number of artifact cache lookups by result", .counter⟩

/-- The sample that counts a happening. -/
def Happening.sample? : Happening → Option Metrics.Sample
  | .completed phase => some ⟨phasesFamily, [(bytes "stage", phase)]⟩
  | .missed => some ⟨lookupsFamily, [(bytes "result", bytes "miss")]⟩
  | .restored _ => some ⟨lookupsFamily, [(bytes "result", bytes "hit")]⟩
  | _ => none

/-- The sample that counts a build. -/
def jobSample (stage : Stage) (code : Bytes) : Metrics.Sample :=
  ⟨jobsFamily, [(bytes "code", code), (bytes "state", stage.name)]⟩

end Build

end FunctionChain
