import FunctionChain.Failure.Error

/-!
# Searching an error

A search for a kind goes through the nodes of an error in their order, the error itself before what
is behind it (`nodes`). It ends at the first node that answers to the kind, and breaks off if it
comes before that to an absent node that would have to be asked for its cause (`find_eq`).

An error without absent nodes is whole (`IsWhole`): a search through it never breaks off.
-/

namespace FunctionChain

namespace Error

/-! ## Whole errors -/

mutual

/-- No node of the error is absent. -/
def IsWhole : Error → Prop
  | .parse _ _ cause | .io _ _ cause | .compile _ _ _ _ cause | .runtime _ _ _ _ cause
  | .admission cause => CauseIsWhole cause
  | .wrap _ cause => IsWhole cause
  | .joined errors | .combined errors => AreWhole errors
  | .absent _ => False
  | .resolve .. | .invocation .. | .invalidJobId .. | .file .. | .plain .. => True

/-- No node of the cause is absent, if there is one. -/
def CauseIsWhole : Option Error → Prop
  | some cause => IsWhole cause
  | none => True

/-- No node of any of the errors is absent. -/
def AreWhole : List Error → Prop
  | [] => True
  | error :: rest => IsWhole error ∧ AreWhole rest

end

/-- Errors are whole together if each of them is. -/
theorem areWhole_iff {errors : List Error} : AreWhole errors ↔ ∀ error ∈ errors, error.IsWhole := by
  induction errors with
  | nil => simp [AreWhole]
  | cons error rest ih => rw [AreWhole, ih, List.forall_mem_cons]

/-- Two lists of whole errors are whole together. -/
theorem AreWhole.append {first second : List Error} (h₁ : AreWhole first) (h₂ : AreWhole second) :
    AreWhole (first ++ second) := by
  induction first with
  | nil => exact h₂
  | cons error rest ih => exact ⟨h₁.1, ih h₁.2⟩

/-- The parts of a whole error are whole. -/
theorem IsWhole.parts {error : Error} (h : error.IsWhole) : AreWhole error.parts := by
  cases error with
  | combined errors => exact h
  | _ => exact ⟨h, trivial⟩

/-- Whole errors combine into a whole one. -/
theorem IsWhole.combine {first second : Error} (h₁ : first.IsWhole) (h₂ : second.IsWhole) :
    (Error.combined (first.parts ++ second.parts)).IsWhole :=
  AreWhole.append h₁.parts h₂.parts

/-! ## The nodes of an error -/

mutual

/-- The nodes of an error: the error itself, then those of what is behind it, depth first. -/
def nodes (error : Error) : List Error :=
  error :: match error with
    | .parse _ _ cause | .io _ _ cause | .compile _ _ _ _ cause | .runtime _ _ _ _ cause
    | .admission cause => nodesOfCause cause
    | .wrap _ cause => nodes cause
    | .joined errors | .combined errors => nodesOfAll errors
    | .resolve .. | .invocation .. | .invalidJobId .. | .absent .. | .file .. | .plain .. => []

/-- The nodes of a cause that may be missing. -/
def nodesOfCause : Option Error → List Error
  | some cause => nodes cause
  | none => []

/-- The nodes of several errors. -/
def nodesOfAll : List Error → List Error
  | [] => []
  | error :: rest => nodes error ++ nodesOfAll rest

end

/-- The nodes of a list are those of its errors, one after the other. -/
theorem nodesOfAll_eq_flatMap (errors : List Error) : nodesOfAll errors = errors.flatMap nodes := by
  induction errors with
  | nil => rfl
  | cons error rest ih => rw [nodesOfAll, ih, List.flatMap_cons]

mutual

/-- No node of a whole error is absent. -/
theorem IsWhole.ne_absent (kind : ErrorKind) :
    ∀ {error : Error}, error.IsWhole → .absent kind ∉ error.nodes := by
  intro error h
  unfold nodes
  rw [List.mem_cons, not_or]
  refine ⟨?_, ?_⟩
  · rintro rfl
    exact h
  · cases error with
    | parse | io | compile | runtime | admission => exact CauseIsWhole.ne_absent kind h
    | wrap message cause => exact @IsWhole.ne_absent kind cause h
    | joined | combined => exact AreWhole.ne_absent kind h
    | absent other => exact h.elim
    | _ => exact List.not_mem_nil

/-- Nothing is absent in a whole cause. -/
theorem CauseIsWhole.ne_absent (kind : ErrorKind) :
    ∀ {cause : Option Error}, CauseIsWhole cause → .absent kind ∉ nodesOfCause cause
  | none, _ => List.not_mem_nil
  | some _, h => IsWhole.ne_absent kind h

/-- Nothing is absent in a list of whole errors. -/
theorem AreWhole.ne_absent (kind : ErrorKind) :
    ∀ {errors : List Error}, AreWhole errors → .absent kind ∉ nodesOfAll errors
  | [], _ => List.not_mem_nil
  | error :: rest, h => by
    rw [nodesOfAll, List.mem_append, not_or]
    exact ⟨IsWhole.ne_absent kind h.1, AreWhole.ne_absent kind h.2⟩

end

/-- No node of a whole error is absent. -/
theorem IsWhole.ne_absent_of_mem {error : Error} (h : error.IsWhole) {other : Error}
    (hmem : other ∈ error.nodes) (kind : ErrorKind) : other ≠ .absent kind := by
  rintro rfl
  exact h.ne_absent kind hmem

/-! ## Where a search ends -/

/-- Whether a node answers to a kind. -/
def answersTo (kind : ErrorKind) (node : Error) : Bool := node.kind? == some kind

/-- Whether the node is absent although it would have to be asked for its cause. -/
def isHollow : Error → Bool
  | .absent kind => kind.hasCause
  | _ => false

/-- The node at which a search for a kind ends: the first that answers to it, or is hollow. -/
def meets? (kind : ErrorKind) (nodes : List Error) : Option Error :=
  nodes.find? fun node => node.answersTo kind || node.isHollow

/-- What a search brings that has ended at this node, or at none. -/
def Found.ofMeeting (kind : ErrorKind) : Option Error → Found
  | some reached => if reached.answersTo kind then .node reached else .broken
  | none => .nothing

/-- What is met first is found. -/
theorem Found.ofMeeting_orElse (kind : ErrorKind) (first second : Option Error) :
    (Found.ofMeeting kind first).orElse (.ofMeeting kind second)
      = .ofMeeting kind (first.or second) := by
  cases first with
  | none => rfl
  | some reached =>
    rw [Option.some_or, Found.ofMeeting]
    split <;> rfl

mutual

/-- **Searching.** A search goes through the nodes in order, up to the one that it meets. -/
theorem find_eq (kind : ErrorKind) :
    ∀ (error : Error), error.find kind = .ofMeeting kind (meets? kind error.nodes) := by
  intro error
  unfold find nodes meets?
  rw [List.find?_cons, answersTo]
  split
  · next hkind => simp [hkind, Found.ofMeeting, answersTo]
  · next hkind =>
    rw [Bool.not_eq_true] at hkind
    simp only [hkind, Bool.false_or]
    cases error with
    | parse code message cause | io code message cause | admission cause
    | compile code message diagnostic exitCode cause
    | runtime code message diagnostic exitCode cause => exact findCause_eq kind cause
    | wrap message cause => exact find_eq kind cause
    | joined errors | combined errors => exact findAny_eq kind errors
    | absent other =>
      cases hcause : other.hasCause with
      | true => simp [isHollow, hcause, Found.ofMeeting, answersTo, hkind]
      | false => simp [isHollow, hcause, Found.ofMeeting]
    | _ => rfl

/-- A cause is searched in the order of its nodes. -/
theorem findCause_eq (kind : ErrorKind) :
    ∀ (cause : Option Error), findCause kind cause = .ofMeeting kind (meets? kind (nodesOfCause cause))
  | none => rfl
  | some cause => find_eq kind cause

/-- A list is searched in the order of its nodes. -/
theorem findAny_eq (kind : ErrorKind) :
    ∀ (errors : List Error), findAny kind errors = .ofMeeting kind (meets? kind (nodesOfAll errors))
  | [] => rfl
  | error :: rest => by
    rw [findAny, nodesOfAll, meets?, List.find?_append, find_eq kind error, findAny_eq kind rest,
      Found.ofMeeting_orElse, meets?, meets?]

end

/-- What a search brings that has come to this node, or to none. -/
def Found.ofOption : Option Error → Found
  | some error => .node error
  | none => .nothing

/-- In a whole error the first node that answers is met. -/
theorem IsWhole.meets?_eq {error : Error} (h : error.IsWhole) (kind : ErrorKind) :
    meets? kind error.nodes = error.nodes.find? (answersTo kind) := by
  rw [meets?, ← List.head?_filter, ← List.head?_filter]
  refine congrArg List.head? (List.filter_congr fun node hmem => ?_)
  cases node with
  | absent other => exact absurd hmem (h.ne_absent other)
  | _ => exact Bool.or_false _

/-- A search through a whole error comes to the first of its nodes that answers. -/
theorem IsWhole.find_eq {error : Error} (h : error.IsWhole) (kind : ErrorKind) :
    error.find kind = .ofOption (error.nodes.find? (answersTo kind)) := by
  rw [Error.find_eq, h.meets?_eq]
  cases hfound : error.nodes.find? (answersTo kind) with
  | none => rfl
  | some node => rw [Found.ofMeeting, List.find?_some hfound, if_pos rfl, Found.ofOption]

/-- A search through a whole error does not break off. -/
theorem IsWhole.find_ne_broken {error : Error} (h : error.IsWhole) (kind : ErrorKind) :
    error.find kind ≠ .broken := by
  rw [h.find_eq kind]
  cases error.nodes.find? (answersTo kind) with
  | none => exact nofun
  | some node => exact nofun

end Error

end FunctionChain
