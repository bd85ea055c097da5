import FunctionChain.Proofs.Failure.Priority
import FunctionChain.Proofs.Failure.Sound

/-!
# Which errors get a valid record

The kinds that decide a class are searched for one after the other. A kind is passed by when its
search brings nothing or an absent node of the kind itself (`Passes`). The first kind that is not
passed by decides the class, if the search for it ends at a node of the class (`DecidedBy`), or
breaks the classification off, if it ends at a hollow node of another kind (`IsObstructed`).

A record is filled up only where the node says nothing at all: a code or a message of white space is
kept as it is, and an error outside the taxonomy keeps a text that is empty. So an error gets a valid
record exactly when nothing obstructs it and what is taken over is not white space
(`classify_valid_iff`). That is not so of every error (`not_classify_valid`).
-/

namespace FunctionChain

namespace Error

open Failure (Particulars)

/-! ## What decides an error -/

/-- The search for the kind brings nothing, or nothing but an absent node of the kind. -/
def Passes (error : Error) (kind : ErrorKind) : Prop :=
  ∀ node, meets? kind error.nodes = some node → node = .absent kind

/-- All kinds that are more important are passed by. -/
def ComesTo (error : Error) (kind : ErrorKind) : Prop :=
  ∃ higher lower, Failure.priority = higher ++ kind :: lower ∧
    ∀ other ∈ higher, error.Passes other

/-- The search for the first kind that is not passed by ends at a node of its class. -/
def DecidedBy (error node : Error) (said : Particulars) : Prop :=
  ∃ kind, error.ComesTo kind ∧ meets? kind error.nodes = some node ∧ node.particulars? = some said

/-- The node that decides says something. -/
theorem DecidedBy.tells {error node : Error} {said : Particulars} (h : error.DecidedBy node said) :
    node.particulars? = some said := by
  obtain ⟨-, -, -, htells⟩ := h
  exact htells

/-- The node that decides is one of the error. -/
theorem DecidedBy.mem {error node : Error} {said : Particulars} (h : error.DecidedBy node said) :
    node ∈ error.nodes := by
  obtain ⟨kind, -, hmeets, -⟩ := h
  exact List.mem_of_find?_eq_some hmeets

/-- The search for the first kind that is not passed by ends at an absent node of another kind. -/
def IsObstructed (error : Error) : Prop :=
  ∃ kind other, error.ComesTo kind ∧ meets? kind error.nodes = some (.absent other) ∧ other ≠ kind

/-- Every kind is passed by. -/
def IsUndecided (error : Error) : Prop := ∀ kind ∈ Failure.priority, error.Passes kind

/-- What a search meets answers to its kind or is hollow. -/
theorem stops_of_meets? {kind : ErrorKind} {nodes : List Error} {node : Error}
    (h : meets? kind nodes = some node) : node.answersTo kind = true ∨ node.isHollow = true := by
  simpa using List.find?_some h

/-- No node of the error would have to be asked for its cause and is absent. -/
def IsSolid (error : Error) : Prop := ∀ node ∈ error.nodes, node.isHollow = false

end Error

namespace Failure

open Error (Found)

/-- The text is left out, or there is more to it than white space. -/
def IsStated (text : Bytes) : Prop := text = [] ∨ Blank.isAllBlank text = false

variable {error node : Error} {said : Particulars}

/-! ## The walk through the kinds -/

/-- A node that is absent has no record. -/
theorem ofNode?_absent (kind : ErrorKind) : ofNode? (.absent kind) = none := rfl

/-- A kind that is passed by leaves the decision to the kinds behind it. -/
theorem classifyBy_of_passes {kind : ErrorKind} (h : error.Passes kind) (rest : List ErrorKind) :
    classifyBy error (kind :: rest) = classifyBy error rest := by
  rw [classifyBy, error.find_eq]
  cases hmeets : Error.meets? kind error.nodes with
  | none => rfl
  | some node =>
    obtain rfl := h node hmeets
    simp [Found.ofMeeting, Error.answersTo, Error.kind?, ofNode?_absent]

/-- Kinds that are passed over make no difference. -/
theorem classifyBy_append {higher : List ErrorKind} (h : ∀ kind ∈ higher, error.Passes kind)
    (rest : List ErrorKind) : classifyBy error (higher ++ rest) = classifyBy error rest := by
  induction higher with
  | nil => rfl
  | cons kind higher ih =>
    rw [List.forall_mem_cons] at h
    rw [List.cons_append, classifyBy_of_passes h.1, ih h.2]

/-- A node that was met and says something answers. -/
theorem answersTo_of_particulars {kind : ErrorKind}
    (h : Error.meets? kind error.nodes = some node) (htells : node.particulars? = some said) :
    node.answersTo kind = true := by
  refine (Error.stops_of_meets? h).resolve_right fun hhollow => ?_
  cases node with
  | absent other => cases htells
  | _ => cases hhollow

/-- The node that decides gives its record. -/
theorem classify_of_decidedBy (h : error.DecidedBy node said) :
    ∃ record, classify error = some record ∧ record.Repeats node said := by
  obtain ⟨kind, ⟨higher, lower, hpriority, hpasses⟩, hmeets, htells⟩ := h
  obtain ⟨record, hrecord, hrepeats⟩ := exists_ofNode? htells
  refine ⟨record, ?_, hrepeats⟩
  have hfind : error.find kind = .node node := by
    rw [error.find_eq, hmeets, Found.ofMeeting, answersTo_of_particulars hmeets htells, if_pos rfl]
  rw [classify, hpriority, classifyBy_append hpasses]
  exact classifyBy_of_node hfind hrecord

/-- An error that is obstructed is not classified. -/
theorem classify_of_isObstructed (h : error.IsObstructed) : classify error = none := by
  obtain ⟨kind, other, ⟨higher, lower, hpriority, hpasses⟩, hmeets, hne⟩ := h
  have hfind : error.find kind = .broken := by
    simp [error.find_eq, hmeets, Found.ofMeeting, Error.answersTo, Error.kind?, hne]
  rw [classify, hpriority, classifyBy_append hpasses, classifyBy, hfind]

/-- An error that nothing decides is internal. -/
theorem classify_of_isUndecided (h : error.IsUndecided) :
    classify error = some (internalRecord error) := by
  rw [classify, ← List.append_nil priority, classifyBy_append h]
  rfl

/-- A node that answers to a kind of a class is of that class, or absent. -/
theorem exists_particulars {kind : ErrorKind} (hkind : kind ∈ priority)
    (h : node.answersTo kind = true) :
    node = .absent kind ∨ ∃ said, node.particulars? = some said := by
  simp only [priority, List.mem_cons, List.not_mem_nil, or_false] at hkind
  rw [Error.answersTo, beq_iff_eq] at h
  cases node with
  | absent other =>
    cases h
    exact .inl rfl
  | parse | resolve | io | compile | runtime => exact .inr ⟨_, rfl⟩
  | _ => rcases hkind with rfl | rfl | rfl | rfl | rfl <;> cases h

/-- If not all kinds are passed over, there is a first one that is not. -/
theorem exists_not_passes {kinds : List ErrorKind} (h : ¬ ∀ kind ∈ kinds, error.Passes kind) :
    ∃ higher kind lower, kinds = higher ++ kind :: lower ∧ (∀ other ∈ higher, error.Passes other) ∧
      ¬ error.Passes kind := by
  induction kinds with
  | nil => exact absurd (List.forall_mem_nil _) h
  | cons kind rest ih =>
    by_cases hkind : error.Passes kind
    · obtain ⟨higher, first, lower, rfl, hpasses, hfirst⟩ :=
        ih fun hrest => h (List.forall_mem_cons.2 ⟨hkind, hrest⟩)
      exact ⟨kind :: higher, first, lower, rfl, List.forall_mem_cons.2 ⟨hkind, hpasses⟩, hfirst⟩
    · exact ⟨[], kind, rest, rfl, List.forall_mem_nil _, hkind⟩

/-- **Every error is obstructed, decided or left undecided.** The first kind that is not passed by
tells which. -/
theorem isObstructed_or (error : Error) :
    error.IsObstructed ∨ (∃ node said, error.DecidedBy node said) ∨ error.IsUndecided := by
  by_cases hall : error.IsUndecided
  · exact .inr (.inr hall)
  obtain ⟨higher, kind, lower, hpriority, hpasses, hkind⟩ := exists_not_passes hall
  have hcomes : error.ComesTo kind := ⟨higher, lower, hpriority, hpasses⟩
  obtain ⟨node, hmeets, hne⟩ : ∃ node, Error.meets? kind error.nodes = some node ∧
      node ≠ .absent kind := by
    simpa [Error.Passes] using hkind
  rcases Error.stops_of_meets? hmeets with hanswers | hhollow
  · have hmem : kind ∈ priority := by simp [hpriority]
    obtain ⟨said, hsaid⟩ := (exists_particulars hmem hanswers).resolve_left hne
    exact .inr (.inl ⟨node, said, kind, hcomes, hmeets, hsaid⟩)
  · cases node with
    | absent other => exact .inl ⟨kind, other, hcomes, hmeets, fun heq => hne (heq ▸ rfl)⟩
    | _ => cases hhollow

/-- **What classifying comes to.** An obstructed error gets no record, a decided one the record of the
node, and an undecided one is internal. -/
theorem classify_cases (error : Error) :
    error.IsObstructed ∧ classify error = none ∨
    (∃ node said record, error.DecidedBy node said ∧ classify error = some record ∧
      record.Repeats node said) ∨
    error.IsUndecided ∧ classify error = some (internalRecord error) := by
  rcases isObstructed_or error with h | ⟨node, said, h⟩ | h
  · exact .inl ⟨h, classify_of_isObstructed h⟩
  · obtain ⟨record, hrecord, hrepeats⟩ := classify_of_decidedBy h
    exact .inr (.inl ⟨node, said, record, h, hrecord, hrepeats⟩)
  · exact .inr (.inr ⟨h, classify_of_isUndecided h⟩)

/-! ## Validity -/

/-- The name of a class is one. -/
theorem ofName?_name (group : Class) : (Class.ofName? group.name).isSome = true := by
  cases group <;> rfl

/-- With a default that can be seen a text is not blank just if it is stated. -/
theorem isAllBlank_default_iff {text fallback : Bytes} (h : Blank.startsVisibly fallback = true) :
    Blank.isAllBlank (if text = [] then fallback else text) = false ↔ IsStated text := by
  unfold IsStated
  split
  · next hempty => simp [hempty, Blank.isAllBlank_of_startsVisibly h]
  · next hne => simp [hne]

/-- What a node says in words can be seen. -/
theorem startsVisibly_text (h : node.particulars? = some said) :
    Blank.startsVisibly node.text = true := by
  have hlabel (label : Bytes) (hlabel : Blank.startsVisibly label = true) (code message : Bytes) :
      Blank.startsVisibly (Error.labelled label code message) = true := by
    cases label with
    | nil => cases hlabel
    | cons b rest =>
      unfold Error.labelled
      split <;> exact hlabel
  cases node with
  | parse | io | compile | runtime => exact hlabel _ rfl _ _
  | resolve code call message =>
    unfold Error.text
    split <;> rfl
  | _ => cases h

/-- The record of a node of a class is valid unless the node gives white space for its code or its
message. -/
theorem Record.Repeats.valid_iff {record : Record} (h : record.Repeats node said)
    (htells : node.particulars? = some said) :
    record.invalid? = none ↔ IsStated said.code ∧ IsStated said.message := by
  have hdefault : Blank.startsVisibly said.group.defaultCode = true := by
    cases said.group <;> rfl
  rw [Archive.invalid?_failure_eq_none_iff, h.className, h.code, h.message,
    isAllBlank_default_iff hdefault, isAllBlank_default_iff (startsVisibly_text htells)]
  exact and_iff_right (ofName?_name said.group)

/-- The record of an unclassified error is valid just if its text is not blank. -/
theorem internalRecord_valid_iff (error : Error) :
    (internalRecord error).invalid? = none ↔ Blank.isAllBlank error.text = false := by
  rw [Archive.invalid?_failure_eq_none_iff]
  have hclass : (Class.ofName? (internalRecord error).className).isSome = true := rfl
  have hcode : Blank.isAllBlank (internalRecord error).code = false :=
    Blank.isAllBlank_of_startsVisibly rfl
  exact (and_iff_right hclass).trans (and_iff_right hcode)

/-- What obstructs an error is a hollow node. -/
theorem not_isObstructed_of_isSolid (h : error.IsSolid) : ¬ error.IsObstructed := by
  rintro ⟨kind, other, -, hmeets, hne⟩
  rcases Error.stops_of_meets? hmeets with hanswers | hhollow
  · rw [Error.answersTo, beq_iff_eq] at hanswers
    exact hne (Option.some.inj hanswers)
  · rw [h _ (List.mem_of_find?_eq_some hmeets)] at hhollow
    cases hhollow

/-- An error gets a valid record exactly when what is taken over into it says something. -/
theorem exists_valid_iff (error : Error) :
    (∃ record, classify error = some record ∧ record.invalid? = none) ↔
      (∃ node said, error.DecidedBy node said ∧ IsStated said.code ∧ IsStated said.message) ∨
        error.IsUndecided ∧ Blank.isAllBlank error.text = false := by
  constructor
  · rintro ⟨record, hrecord, hvalid⟩
    rcases classify_cases error with
      ⟨-, hnone⟩ | ⟨node, said, other, hdecided, hother, hrepeats⟩ | ⟨hundecided, hinternal⟩
    · rw [hnone] at hrecord
      cases hrecord
    · rw [hother] at hrecord
      cases hrecord
      exact .inl ⟨node, said, hdecided, (hrepeats.valid_iff hdecided.tells).1 hvalid⟩
    · rw [hinternal] at hrecord
      cases hrecord
      exact .inr ⟨hundecided, (internalRecord_valid_iff error).1 hvalid⟩
  · rintro (⟨node, said, h, hstated⟩ | ⟨h, htext⟩)
    · obtain ⟨record, hrecord, hrepeats⟩ := classify_of_decidedBy h
      exact ⟨record, hrecord, (hrepeats.valid_iff h.tells).2 hstated⟩
    · exact ⟨_, classify_of_isUndecided h, (internalRecord_valid_iff error).2 htext⟩

/-- An error gets no record exactly when it is obstructed. -/
theorem classify_eq_none_iff (error : Error) : classify error = none ↔ error.IsObstructed := by
  refine ⟨fun hnone => ?_, classify_of_isObstructed⟩
  rcases classify_cases error with ⟨h, -⟩ | ⟨_, _, record, -, hrecord, -⟩ | ⟨-, hinternal⟩
  · exact h
  · rw [hnone] at hrecord
    cases hrecord
  · rw [hnone] at hinternal
    cases hinternal

/-- The class of a record is a known one. -/
theorem classify_className {record : Record} (h : classify error = some record) :
    (Class.ofName? record.className).isSome = true := by
  rcases classify_cases error with
    ⟨-, hnone⟩ | ⟨_, said, other, -, hother, hrepeats⟩ | ⟨-, hinternal⟩
  · rw [hnone] at h
    cases h
  · rw [hother] at h
    cases h
    rw [hrepeats.className]
    exact ofName?_name said.group
  · rw [hinternal] at h
    cases h
    rfl

/-- **Validity.** An error gets a valid record exactly when a node decides whose code and message are
left out or say something, or nothing decides and its own text says something. It gets no record
exactly when it is obstructed, and the class of a record is always a known one. So an error gets a
valid record if no absent node would have to be asked for its cause, no node gives white space for
its code or its message, and its own text says something. -/
theorem classify_valid_iff (error : Error) :
    ((∃ record, classify error = some record ∧ record.invalid? = none) ↔
      (∃ node said, error.DecidedBy node said ∧ IsStated said.code ∧ IsStated said.message) ∨
        error.IsUndecided ∧ Blank.isAllBlank error.text = false) ∧
    (classify error = none ↔ error.IsObstructed) ∧
    (∀ record, classify error = some record →
      (Class.ofName? record.className).isSome = true) ∧
    (error.IsSolid →
      (∀ node ∈ error.nodes, ∀ said, node.particulars? = some said →
        IsStated said.code ∧ IsStated said.message) →
      Blank.isAllBlank error.text = false →
      ∃ record, classify error = some record ∧ record.invalid? = none) := by
  refine ⟨exists_valid_iff error, classify_eq_none_iff error, fun _ => classify_className, ?_⟩
  intro hsolid hstated htext
  rw [exists_valid_iff]
  rcases isObstructed_or error with h | ⟨node, said, h⟩ | h
  · exact absurd h (not_isObstructed_of_isSolid hsolid)
  · exact .inl ⟨node, said, h, hstated node h.mem said h.tells⟩
  · exact .inr ⟨h, htext⟩

namespace Sample

/-- A failed compilation behind an absent node, which does not obstruct it. -/
def outlived : Error :=
  .joined [.absent .resolve, .compile [] [] (bytes "diagnostic") 1 none, .absent .invocation]

/-- It gets the valid record of the failed compilation. -/
theorem classify_outlived :
    (∃ record, classify outlived = some record ∧ record.invalid? = none) ∧ outlived.IsSolid := by
  obtain ⟨hvalid, -, -, -⟩ := classify_valid_iff outlived
  refine ⟨hvalid.2 (.inl ⟨.compile [] [] (bytes "diagnostic") 1 none,
    ⟨.compile, [], [], bytes "diagnostic", some 1⟩, ⟨.compile, ?_, rfl, rfl⟩, .inl rfl, .inl rfl⟩), ?_⟩
  · refine ⟨[.parse, .resolve, .io], [.runtime], rfl, ?_⟩
    simp [Error.Passes, outlived, Error.meets?, Error.nodes, Error.nodesOfAll, Error.nodesOfCause,
      Error.answersTo, Error.isHollow, Error.kind?, ErrorKind.hasCause]
  · simp [Error.IsSolid, outlived, Error.nodes, Error.nodesOfAll, Error.nodesOfCause,
      Error.isHollow, ErrorKind.hasCause]

/-- Not every error gets a valid record: a message of white space is taken over as it is, and behind
an absent node there is no looking for the other kinds. -/
theorem not_classify_valid :
    (∃ record, classify (.parse [] (bytes " ") none) = some record ∧
      record.invalid?.map Error.text = some (bytes "message is required")) ∧
    classify (.wrap (bytes "job") (.absent .parse)) = none := by
  refine ⟨⟨⟨bytes "parse", Code.malformedDocument, bytes " ", [], none⟩, rfl, ?_⟩, rfl⟩
  decide

end Sample

end Failure

end FunctionChain
