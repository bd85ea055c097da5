import FunctionChain.Document.Load
import FunctionChain.Proofs.Json.Completeness

/-!
# The language of documents

Which texts are documents, and how the two codes of a refusal divide the others. A text is malformed
exactly when it is not a single object of the grammar, nested at most ten thousand deep, with white
space around it; a text that is such an object is loaded or violates the schema. So a refusal for
the contents of a document never hides one for its form, and the other way round.
-/

namespace FunctionChain

namespace Document

/-- The texts that have the form of a document. -/
def IsObjectText (text : Bytes) : Prop := ∃ members, Json.SpellsAlone 10000 (.object members) text

/-! ## The value of a text -/

/-- The only value of a text is the one that the grammar derives it from. -/
theorem onlyValue_eq_ok_iff {text : Bytes} {v : Json} :
    onlyValue text = .ok v ↔ Json.SpellsAlone Json.maxDepth v text := by
  rw [← Json.scan_alone_iff, onlyValue]
  constructor
  · intro h
    split at h
    · cases h
    · cases h
    · cases h
    · next value rest hscan =>
      split at h
      · next hrest => cases h; exact ⟨rest, hscan, hrest⟩
      · cases h
      · cases h
      · split at h <;> cases h
  · rintro ⟨rest, hscan, hrest⟩
    simp only [hscan, hrest]

/-- A text without a value of its own is malformed. -/
theorem onlyValue_isMalformed {text : Bytes} {problem : Problem}
    (h : onlyValue text = .error problem) : problem.isMalformed = true := by
  unfold onlyValue at h
  split at h
  · cases h; rfl
  · cases h; rfl
  · cases h; rfl
  · split at h
    · cases h
    · cases h; rfl
    · cases h; rfl
    · split at h <;> (cases h; rfl)

/-! ## The calls of a document -/

/-- A call that is taken has a name and a function. -/
theorem checkCall_named {index : Nat} {wire : WireCall} {call : Call}
    (h : checkCall index wire = .ok call) : call.name ≠ [] ∧ call.function ≠ [] := by
  unfold checkCall at h
  split at h
  · cases h
  · next hname =>
    split at h
    · cases h
    · next hfunction =>
      rw [List.isEmpty_iff] at hname hfunction
      split at h
      · cases h; exact ⟨hname, hfunction⟩
      · split at h
        · cases h; exact ⟨hname, hfunction⟩
        · cases h

/-- What is wrong with a call is no matter of form. -/
theorem checkCall_isMalformed {index : Nat} {wire : WireCall} {problem : Problem}
    (h : checkCall index wire = .error problem) : problem.isMalformed = false := by
  unfold checkCall at h
  split at h
  · cases h; rfl
  · split at h
    · cases h; rfl
    · split at h
      · cases h
      · split at h
        · cases h
        · cases h; rfl

/-- All calls that are taken have a name and a function, if those before them have. -/
theorem checkCalls_named {wires : List WireCall} {index : Nat} {done calls : List Call}
    (hdone : ∀ call ∈ done, call.name ≠ [] ∧ call.function ≠ [])
    (h : checkCalls index done wires = .ok calls) :
    ∀ call ∈ calls, call.name ≠ [] ∧ call.function ≠ [] := by
  induction wires generalizing index done with
  | nil =>
    cases h
    intro call hcall
    exact hdone call (List.mem_reverse.1 hcall)
  | cons wire rest ih =>
    rw [checkCalls] at h
    split at h
    · next call hcall =>
      exact ih (List.forall_mem_cons.2 ⟨checkCall_named hcall, hdone⟩) h
    · cases h

/-- What is wrong with a call is not that the document is malformed. -/
theorem checkCalls_isMalformed {wires : List WireCall} {index : Nat} {done : List Call}
    {problem : Problem} (h : checkCalls index done wires = .error problem) :
    problem.isMalformed = false := by
  induction wires generalizing index done with
  | nil => cases h
  | cons wire rest ih =>
    rw [checkCalls] at h
    split at h
    · exact ih h
    · next hcall => cases h; exact checkCall_isMalformed hcall

/-! ## Reading -/

/-- An object is never refused for its form. -/
theorem read_of_object {text : Bytes} {members : List (Bytes × Json)}
    (h : onlyValue text = .ok (.object members)) :
    (∃ graph, read text = .ok graph) ∨
      ∃ problem, read text = .error problem ∧ problem.isMalformed = false := by
  unfold read
  rw [h]
  dsimp only
  split
  · exact .inr ⟨_, rfl, rfl⟩
  · split
    · exact .inl ⟨_, rfl⟩
    · next hcheck => exact .inr ⟨_, rfl, checkCalls_isMalformed hcheck⟩

/-- **Form.** A text is refused for its form exactly when it has not the form of a document. -/
theorem read_malformed_iff {text : Bytes} :
    (∃ problem, read text = .error problem ∧ problem.isMalformed = true) ↔
      ¬ IsObjectText text := by
  constructor
  · rintro ⟨problem, hread, hmal⟩ ⟨members, hmembers⟩
    rcases read_of_object (onlyValue_eq_ok_iff.2 hmembers) with
      ⟨graph, hok⟩ | ⟨other, hother, hform⟩
    · rw [hok] at hread
      cases hread
    · rw [hother] at hread
      cases hread
      rw [hmal] at hform
      cases hform
  · intro hnot
    unfold read
    split
    · next hvalue => exact ⟨_, rfl, onlyValue_isMalformed hvalue⟩
    · next members hvalue => exact absurd ⟨members, onlyValue_eq_ok_iff.1 hvalue⟩ hnot
    · exact ⟨_, rfl, rfl⟩

/-- Every call of a graph has a name and a function. -/
theorem read_named {text : Bytes} {graph : Graph} (h : read text = .ok graph) :
    ∀ call ∈ graph.calls, call.name ≠ [] ∧ call.function ≠ [] := by
  unfold read at h
  split at h
  · cases h
  · split at h
    · cases h
    · split at h
      · next hcheck =>
        cases h
        exact checkCalls_named (by simp) hcheck
      · cases h
  · cases h

/-! ## Loading -/

/-- A document is not loaded because of a problem in reading it. -/
theorem load_eq_error_iff {text : Bytes} {error : Error} :
    load text = .error error ↔ ∃ problem, read text = .error problem ∧ problem.toError = error := by
  unfold load
  cases read text with
  | error problem =>
    constructor
    · rintro ⟨⟩
      exact ⟨problem, rfl, rfl⟩
    · rintro ⟨_, ⟨⟩, rfl⟩
      rfl
  | ok graph =>
    constructor
    · rintro ⟨⟩
    · rintro ⟨_, ⟨⟩, -⟩

/-- A document is loaded as it is read. -/
theorem load_eq_ok_iff {text : Bytes} {graph : Graph} :
    load text = .ok graph ↔ read text = .ok graph := by
  unfold load
  cases read text with
  | error problem => constructor <;> rintro ⟨⟩
  | ok graph => constructor <;> rintro ⟨⟩ <;> rfl

/-- The two codes differ. -/
theorem malformed_ne_violation : Failure.Code.malformedDocument ≠ Failure.Code.schemaViolation := by
  decide

/-- The code of an error says whether the form or the contents were refused. -/
theorem load_code_iff {text : Bytes} (form : Bool) :
    (∃ message cause, load text = .error (.parse
        (if form then Failure.Code.malformedDocument else Failure.Code.schemaViolation)
        message cause)) ↔
      ∃ problem, read text = .error problem ∧ problem.isMalformed = form := by
  simp only [load_eq_error_iff]
  constructor
  · rintro ⟨message, cause, problem, hread, herror⟩
    refine ⟨problem, hread, ?_⟩
    injection herror with hcode
    unfold Problem.code at hcode
    cases form <;> cases hp : problem.isMalformed <;>
      simp [hp, malformed_ne_violation, malformed_ne_violation.symm] at hcode ⊢
  · rintro ⟨problem, hread, rfl⟩
    exact ⟨_, _, problem, hread, rfl⟩

/-- **The language of documents.** The two codes divide the texts that are not loaded by their form,
every error is one of a document that cannot be parsed, and every call of a graph that was loaded
has a name and a function. -/
theorem load_language (text : Bytes) :
    ((∃ message cause, load text = .error (.parse Failure.Code.malformedDocument message cause)) ↔
        ¬ IsObjectText text) ∧
    (IsObjectText text →
      (∃ graph, load text = .ok graph) ∨
        ∃ message cause, load text = .error (.parse Failure.Code.schemaViolation message cause)) ∧
    (∀ error, load text = .error error → ∃ code message cause, error = .parse code message cause) ∧
    (∀ graph, load text = .ok graph →
      ∀ call ∈ graph.calls, call.name ≠ [] ∧ call.function ≠ []) := by
  refine ⟨?_, ?_, ?_, ?_⟩
  · exact (load_code_iff true).trans read_malformed_iff
  · rintro ⟨members, hmembers⟩
    rcases read_of_object (onlyValue_eq_ok_iff.2 hmembers) with ⟨graph, hok⟩ | hviolation
    · exact .inl ⟨graph, load_eq_ok_iff.2 hok⟩
    · exact .inr ((load_code_iff false).2 hviolation)
  · intro error h
    obtain ⟨problem, -, rfl⟩ := load_eq_error_iff.1 h
    exact ⟨_, _, _, rfl⟩
  · intro graph h
    exact read_named (load_eq_ok_iff.1 h)

end Document

end FunctionChain
