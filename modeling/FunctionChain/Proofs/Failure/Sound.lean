import FunctionChain.Document.Load
import FunctionChain.Reference.Resolve
import FunctionChain.Proofs.Archive.Codec
import FunctionChain.Proofs.Failure.Classify

/-!
# Records that can be kept

The record of a failure is kept only if it has one of the classes, a code and a message, and it is
read back as it was only if its exit code is a machine word. A record is sound when both is so. An
error that has one node of a class, and one with a code and a message of its own, gets a sound
record (`Error.IsRecorded`); so does every error of a document.
-/

namespace FunctionChain

namespace Failure

/-- The record may be kept, and its exit code is a machine word if it has one. -/
structure Record.IsSound (record : Record) : Prop where
  valid : record.invalid? = none
  exitCode : ∀ code, record.exitCode = some code → Word.IsSigned code

/-- A record with a class, a visible code and a visible message is sound. -/
theorem isSound_of_startsVisibly {record : Record}
    (hclass : (Class.ofName? record.className).isSome = true)
    (hcode : Blank.startsVisibly record.code = true)
    (hmessage : Blank.startsVisibly record.message = true)
    (hexit : ∀ code, record.exitCode = some code → Word.IsSigned code) : record.IsSound :=
  ⟨Archive.invalid?_failure_eq_none_iff.2 ⟨hclass, Blank.isAllBlank_of_startsVisibly hcode,
    Blank.isAllBlank_of_startsVisibly hmessage⟩, hexit⟩

/-- The record of a node has the name of a class. -/
theorem ofNode?_className {node : Error} {record : Record} (h : ofNode? node = some record) :
    (Class.ofName? record.className).isSome = true := by
  unfold ofNode? at h
  split at h <;> cases h <;> rfl

/-- A visible text is visible with a default too. -/
theorem startsVisibly_orDefault {text : Bytes} (h : Blank.startsVisibly text = true)
    (fallback : Bytes) : Blank.startsVisibly (orDefault text fallback) = true := by
  cases text with
  | nil => cases h
  | cons b rest => exact h

end Failure

namespace Error

open Failure

/-- One node of the error is of a class, and its record is sound. -/
def IsRecorded (error : Error) : Prop :=
  ∃ node record, error.OnlyHas node ∧ ofNode? node = some record ∧ record.IsSound

/-- A recorded error is classified, and its record is sound. -/
theorem IsRecorded.classify {error : Error} (h : error.IsRecorded) :
    ∃ record, Failure.classify error = some record ∧ record.IsSound := by
  obtain ⟨node, record, hnode, hrecord, hsound⟩ := h
  exact ⟨record, classify_of_onlyHas hnode hrecord, hsound⟩

/-- A node of a class that has a code and a message. -/
theorem isRecorded_of_node {node : Error} {record : Record} (hrecord : ofNode? node = some record)
    (hcause : ∀ cause, node.cause? = some cause → cause.IsForeign)
    (hcode : Blank.startsVisibly record.code = true)
    (hmessage : Blank.startsVisibly record.message = true)
    (hexit : ∀ code, record.exitCode = some code → Word.IsSigned code) : node.IsRecorded :=
  ⟨node, record, onlyHas_self hrecord hcause, hrecord,
    isSound_of_startsVisibly (ofNode?_className hrecord) hcode hmessage hexit⟩

end Error

/-! ## Errors of documents -/

namespace Document

/-- Every problem of a document has a visible message. -/
theorem Problem.startsVisibly_message (problem : Problem) :
    Blank.startsVisibly problem.message = true := by
  cases problem with
  | finding found =>
    cases found with
    | mismatch found target wanted => cases target <;> rfl
    | unknownField name => rfl
  | _ => rfl

/-- Every problem of a document has a visible code. -/
theorem Problem.startsVisibly_code (problem : Problem) :
    Blank.startsVisibly problem.code = true := by
  unfold Problem.code
  split <;> rfl

/-- Problems of documents are recorded. -/
theorem Problem.isRecorded (problem : Problem) : problem.toError.IsRecorded := by
  refine Error.isRecorded_of_node rfl ?_ ?_ ?_ nofun
  · intro cause hcause
    simp only [Problem.toError, Error.cause?] at hcause
    split at hcause <;> cases hcause
    exact Error.isForeign_plain _
  · exact Failure.startsVisibly_orDefault problem.startsVisibly_code _
  · exact Failure.startsVisibly_orDefault problem.startsVisibly_message _

end Document

/-- References to nothing are recorded. -/
theorem Reference.Undefined.isRecorded (undefined : Reference.Undefined) :
    undefined.toError.IsRecorded :=
  Error.isRecorded_of_node rfl nofun rfl rfl nofun

end FunctionChain
