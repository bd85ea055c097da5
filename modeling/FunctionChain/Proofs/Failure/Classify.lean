import FunctionChain.Failure.Record
import FunctionChain.Proofs.Failure.Search

/-!
# Classification of errors

A search through an error without absent nodes (`IsWhole`) does not break off. Such an error is
therefore always classified, and whatever record it gets has a code.

An error in which just one node is of a class (`OnlyHas`) gets the record of that node. So it is
with a node of a class whose cause comes from outside (`IsForeign`), as file faults do, also when
another error from outside is added to it.
-/

namespace FunctionChain

namespace Error

/-! ## Errors from outside -/

/-- A file fault, or a message before one. -/
def IsFault : Error → Prop
  | .file _ => True
  | .wrap _ cause => IsFault cause
  | _ => False

/-- Nothing in the error is absent or of a class. -/
structure IsForeign (error : Error) : Prop where
  whole : error.IsWhole
  nothing : ∀ kind ∈ Failure.priority, error.find kind = .nothing

/-- A message is foreign. -/
theorem isForeign_plain (message : Bytes) : IsForeign (.plain message) :=
  ⟨trivial, fun _ _ => rfl⟩

/-- There is no kind to be found in a fault. -/
theorem IsFault.find_eq_nothing (kind : ErrorKind) :
    ∀ {error : Error}, error.IsFault → error.find kind = .nothing
  | .file _, _ => rfl
  | .wrap _ cause, h => @IsFault.find_eq_nothing kind cause h

/-- A fault is whole. -/
theorem IsFault.isWhole : ∀ {error : Error}, error.IsFault → error.IsWhole
  | .file _, _ => trivial
  | .wrap _ cause, h => @IsFault.isWhole cause h

/-- A fault is foreign. -/
theorem IsFault.isForeign {error : Error} (h : error.IsFault) : error.IsForeign :=
  ⟨h.isWhole, fun kind _ => h.find_eq_nothing kind⟩

/-! ## Errors with one node of a class -/

/-- One node of the error is of a class, and it is the only one. -/
def OnlyHas (error node : Error) : Prop :=
  ∀ kind ∈ Failure.priority,
    error.find kind = if node.kind? = some kind then .node node else .nothing

/-- A node of a class behind which there is nothing of a kind. -/
theorem find_node {node : Error} {record : Failure.Record}
    (hrecord : Failure.ofNode? node = some record) {kind : ErrorKind}
    (hcause : ∀ cause, node.cause? = some cause → cause.find kind = .nothing) :
    node.find kind = if node.kind? = some kind then .node node else .nothing := by
  have hbehind {cause : Option Error}
      (h : ∀ error, cause = some error → error.find kind = .nothing) :
      findCause kind cause = .nothing := by
    cases cause with
    | none => rfl
    | some error => exact h error rfl
  unfold find
  simp only [beq_iff_eq]
  split
  · rfl
  · cases node with
    | parse => exact hbehind hcause
    | resolve => rfl
    | io => exact hbehind hcause
    | compile => exact hbehind hcause
    | runtime => exact hbehind hcause
    | _ => cases hrecord

/-- A node of a class with a cause from outside. -/
theorem onlyHas_self {node : Error} {record : Failure.Record}
    (hrecord : Failure.ofNode? node = some record)
    (hcause : ∀ cause, node.cause? = some cause → cause.IsForeign) : node.OnlyHas node :=
  fun kind hkind => find_node hrecord fun cause h => (hcause cause h).nothing kind hkind

/-- What was found stays if nothing is found behind it. -/
theorem Found.orElse_nothing (first : Found) : first.orElse .nothing = first := by
  cases first <;> rfl

/-- What is found in two lists is found in the first, or else in the second. -/
theorem findAny_append (kind : ErrorKind) (first second : List Error) :
    findAny kind (first ++ second) = (findAny kind first).orElse (findAny kind second) := by
  induction first with
  | nil => rfl
  | cons error rest ih =>
    rw [List.cons_append, findAny, findAny, ih]
    cases find kind error <;> rfl

/-- What is found in the parts of an error is found in it. -/
theorem findAny_parts (kind : ErrorKind) (error : Error) :
    findAny kind error.parts = error.find kind := by
  cases error with
  | combined errors => rfl
  | _ => exact Found.orElse_nothing _

/-- An error that is added makes no difference to a search that finds nothing in it. -/
theorem find_combined {kind : ErrorKind} {second : Error} (h : second.find kind = .nothing)
    (first : Error) :
    find kind (.combined (first.parts ++ second.parts)) = first.find kind := by
  have hfind : find kind (.combined (first.parts ++ second.parts))
      = findAny kind (first.parts ++ second.parts) := rfl
  rw [hfind, findAny_append, findAny_parts, findAny_parts, h, Found.orElse_nothing]

end Error

namespace Failure

/-! ## Records -/

/-- Classes have different names. -/
@[simp]
theorem Class.name_inj {first second : Class} : first.name = second.name ↔ first = second := by
  cases first <;> cases second <;> decide

/-- Classes have names. -/
@[simp]
theorem Class.name_ne_nil (failure : Class) : failure.name ≠ [] := by
  cases failure <;> decide

/-- An error with one node of a class gets the record of that node. -/
theorem classify_of_onlyHas {error node : Error} {record : Record} (h : error.OnlyHas node)
    (hrecord : ofNode? node = some record) : classify error = some record := by
  simp only [Error.OnlyHas, priority, List.forall_mem_cons, List.not_mem_nil, false_implies,
    implies_true, and_true] at h
  obtain ⟨hparse, hresolve, hio, hcompile, hruntime⟩ := h
  simp only [classify, classifyBy, priority, hparse, hresolve, hio, hcompile, hruntime]
  cases node with
  | parse | resolve | io | compile | runtime => simp [Error.kind?, hrecord]
  | _ => cases hrecord

/-- A whole error has a record, whatever kinds are looked for. -/
theorem exists_classifyBy {error : Error} (h : error.IsWhole) (kinds : List ErrorKind) :
    ∃ record, classifyBy error kinds = some record := by
  induction kinds with
  | nil => exact ⟨_, rfl⟩
  | cons kind rest ih =>
    unfold classifyBy
    split
    · next hf => exact absurd hf (h.find_ne_broken kind)
    · exact ih
    · split
      · exact ⟨_, rfl⟩
      · exact ih

/-- A whole error is classified. -/
theorem exists_classify {error : Error} (h : error.IsWhole) :
    ∃ record, classify error = some record :=
  exists_classifyBy h priority

/-- What has a default is not empty. -/
theorem orDefault_ne_nil (text : Bytes) {fallback : Bytes} (h : fallback ≠ []) :
    orDefault text fallback ≠ [] := by
  unfold orDefault
  split
  · exact h
  · next ht => simpa using ht

/-- The record of a node has a code. -/
theorem ofNode?_code_ne_nil {error : Error} {record : Record} (h : ofNode? error = some record) :
    record.code ≠ [] := by
  unfold ofNode? at h
  split at h <;> cases h <;> exact orDefault_ne_nil _ (by decide)

/-- The record of an error has a code. -/
theorem classifyBy_code_ne_nil {error : Error} {kinds : List ErrorKind} {record : Record}
    (h : classifyBy error kinds = some record) : record.code ≠ [] := by
  induction kinds with
  | nil =>
    cases h
    exact (by decide : Code.unknown ≠ [])
  | cons kind rest ih =>
    unfold classifyBy at h
    split at h
    · cases h
    · exact ih h
    · split at h
      · next hn =>
        cases h
        exact ofNode?_code_ne_nil hn
      · exact ih h

/-- A record always has a code. -/
theorem classify_code_ne_nil {error : Error} {record : Record}
    (h : classify error = some record) : record.code ≠ [] :=
  classifyBy_code_ne_nil h

end Failure

end FunctionChain
