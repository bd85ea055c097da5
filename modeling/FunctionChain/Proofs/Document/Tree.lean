import FunctionChain.Document.Load
import Mathlib.Data.List.Nodup

/-!
# The graph that a tree stands for

`graphOf?` says which graph the tree of a document stands for, and `Violates` when it stands for
none, both by looking up each field and without regard to how a text is read.
-/

namespace FunctionChain

namespace Document

/-! ## Looking up fields -/

/-- Whether a member's name is that of a field, the case of letters aside. -/
def names (field : Bytes) (member : Bytes × Json) : Bool :=
  Json.foldedName (Json.unquoted member.1) == Json.foldedName field

/-- The value that an object gives to a field. -/
def fieldIn? (field : Bytes) (members : List (Bytes × Json)) : Option Json :=
  (members.find? (names field)).map (·.2)

/-- The text of a value that is one. -/
def textOf? : Json → Option Bytes
  | .string written => some (Json.unquoted written)
  | _ => none

/-- The text of a field that must have one, and no empty one. -/
def requiredIn? (field : Bytes) (members : List (Bytes × Json)) : Option Bytes :=
  ((fieldIn? field members).bind textOf?).filter (!·.isEmpty)

/-! ## The graph of a tree -/

/-- The map of an object whose members are all texts. -/
def textsOf? (members : List (Bytes × Json)) : Option (List (Bytes × Bytes)) :=
  if members.all fun member => (textOf? member.2).isSome then
    some (members.map fun member => (Json.unquoted member.1, (textOf? member.2).getD []))
  else none

/-- The parameters that a call gives. None at all are told apart from an empty object. -/
def parametersIn? (members : List (Bytes × Json)) : Option (Option (List (Bytes × Bytes))) :=
  match fieldIn? (bytes "parameters") members with
  | none | some .null => some none
  | some (.object parameters) => (textsOf? parameters).map some
  | some _ => none

/-- The call that an element of the array of calls stands for. -/
def callOf? : Json → Option Call
  | .object members =>
    (requiredIn? (bytes "name") members).bind fun name =>
      (requiredIn? (bytes "function") members).bind fun function =>
        (parametersIn? members).map fun parameters => ⟨name, function, parameters⟩
  | _ => none

/-- The graph that the members of a document stand for. -/
def graphOf? (members : List (Bytes × Json)) : Option Graph :=
  match fieldIn? (bytes "functions") members with
  | none | some .null => some ⟨[]⟩
  | some (.array items) => (items.mapM callOf?).map Graph.mk
  | some _ => none

/-! ## Violations -/

/-- A text that must be there is missing, `null`, empty or no text. -/
def LacksText (field : Bytes) (members : List (Bytes × Json)) : Prop :=
  ∀ written, fieldIn? field members = some (.string written) → Json.unquoted written = []

/-- The elements of the array of calls that stand for no call. -/
inductive CallViolates : Json → Prop where
  | notObject {item : Json} : (∀ members, item ≠ .object members) → CallViolates item
  | noName {members : List (Bytes × Json)} :
      LacksText (bytes "name") members → CallViolates (.object members)
  | noFunction {members : List (Bytes × Json)} :
      LacksText (bytes "function") members → CallViolates (.object members)
  | parameters {members : List (Bytes × Json)} {value : Json} :
      fieldIn? (bytes "parameters") members = some value → value ≠ .null →
      (∀ parameters, value ≠ .object parameters) → CallViolates (.object members)
  | parameter {members parameters : List (Bytes × Json)} {parameter : Bytes × Json} :
      fieldIn? (bytes "parameters") members = some (.object parameters) → parameter ∈ parameters →
      (∀ written, parameter.2 ≠ .string written) → CallViolates (.object members)

/-- The documents that stand for no graph. -/
inductive Violates (members : List (Bytes × Json)) : Prop where
  | functions {value : Json} :
      fieldIn? (bytes "functions") members = some value → value ≠ .null →
      (∀ items, value ≠ .array items) → Violates members
  | call {items : List Json} {item : Json} :
      fieldIn? (bytes "functions") members = some (.array items) → item ∈ items →
      CallViolates item → Violates members

/-- Only strings are texts. -/
theorem textOf?_eq_none_iff {value : Json} :
    textOf? value = none ↔ ∀ written, value ≠ .string written := by
  cases value <;> simp [textOf?]

/-- A required text is not there just if the members lack it. -/
theorem requiredIn?_eq_none_iff {field : Bytes} {members : List (Bytes × Json)} :
    requiredIn? field members = none ↔ LacksText field members := by
  unfold requiredIn? LacksText
  cases fieldIn? field members with
  | none => simp
  | some value => cases value <;> simp [textOf?]

/-- Parameters are not texts just if one of them is no string. -/
theorem textsOf?_eq_none_iff {members : List (Bytes × Json)} :
    textsOf? members = none ↔ ∃ member ∈ members, ∀ written, member.2 ≠ .string written := by
  unfold textsOf?
  simp only [← textOf?_eq_none_iff]
  split
  · next h =>
    refine iff_of_false nofun ?_
    rintro ⟨member, hmem, hnone⟩
    have hsome := List.all_eq_true.1 h member hmem
    rw [hnone] at hsome
    cases hsome
  · next h => exact iff_of_true rfl (by simpa using h)

/-- An element stands for no call exactly when it violates the form of calls. -/
theorem callOf?_eq_none_iff {item : Json} : callOf? item = none ↔ CallViolates item := by
  constructor
  · intro h
    cases item with
    | object members =>
      rw [callOf?, Option.bind_eq_none_iff] at h
      cases hname : requiredIn? (bytes "name") members with
      | none => exact .noName (requiredIn?_eq_none_iff.1 hname)
      | some name =>
        have h := h name hname
        rw [Option.bind_eq_none_iff] at h
        cases hfunction : requiredIn? (bytes "function") members with
        | none => exact .noFunction (requiredIn?_eq_none_iff.1 hfunction)
        | some function =>
          have h := h function hfunction
          rw [Option.map_eq_none_iff, parametersIn?] at h
          split at h
          · cases h
          · cases h
          · next parameters hfield =>
            rw [Option.map_eq_none_iff, textsOf?_eq_none_iff] at h
            obtain ⟨parameter, hmem, hbad⟩ := h
            exact .parameter hfield hmem hbad
          · next value hnull hobject hfield =>
            exact .parameters hfield hnull hobject
    | _ => exact .notObject nofun
  · intro h
    cases h with
    | notObject hno =>
      cases item with
      | object members => exact absurd rfl (hno members)
      | _ => rfl
    | noName hname => simp [callOf?, requiredIn?_eq_none_iff.2 hname]
    | noFunction hfunction => simp [callOf?, requiredIn?_eq_none_iff.2 hfunction]
    | @parameters members value hfield hnull hobject =>
      have hnone : parametersIn? members = none := by
        rw [parametersIn?, hfield]
        cases value with
        | null => exact absurd rfl hnull
        | object parameters => exact absurd rfl (hobject parameters)
        | _ => rfl
      simp [callOf?, hnone]
    | parameter hfield hmem hbad =>
      have htexts := textsOf?_eq_none_iff.2 ⟨_, hmem, hbad⟩
      simp [callOf?, parametersIn?, hfield, htexts]

/-- A list of optional values has no value as a whole exactly when one of them has none. -/
theorem mapM_eq_none_iff {α β : Type} {f : α → Option β} {items : List α} :
    items.mapM f = none ↔ ∃ item ∈ items, f item = none := by
  induction items with
  | nil => simp
  | cons item rest ih =>
    rw [List.mapM_cons]
    cases hitem : f item with
    | none => simp [hitem]
    | some value =>
      cases hrest : rest.mapM f with
      | none => simp [hitem, ← ih, hrest]
      | some values => simp [hitem, ← ih, hrest]

/-- A document stands for no graph exactly when it violates the form of documents. -/
theorem graphOf?_eq_none_iff {members : List (Bytes × Json)} :
    graphOf? members = none ↔ Violates members := by
  constructor
  · intro h
    rw [graphOf?] at h
    split at h
    · cases h
    · cases h
    · next items hfield =>
      rw [Option.map_eq_none_iff, mapM_eq_none_iff] at h
      obtain ⟨item, hmem, hnone⟩ := h
      exact .call hfield hmem (callOf?_eq_none_iff.1 hnone)
    · next value hnull harray hfield => exact .functions hfield hnull harray
  · intro h
    cases h with
    | @functions value hfield hnull harray =>
      rw [graphOf?, hfield]
      cases value with
      | null => exact absurd rfl hnull
      | array items => exact absurd rfl (harray items)
      | _ => rfl
    | call hfield hmem hviolates =>
      rw [graphOf?, hfield]
      simpa [mapM_eq_none_iff] using ⟨_, hmem, callOf?_eq_none_iff.2 hviolates⟩

/-! ## Fields that are given once -/

/-- No field is given by two members. -/
def GivesOnce (fields : List Bytes) (members : List (Bytes × Json)) : Prop :=
  ∀ field ∈ fields, members.Pairwise fun a b => ¬ (names field a = true ∧ names field b = true)

/-- Documents whose objects give no field and no parameter twice. -/
structure IsPlain (members : List (Bytes × Json)) : Prop where
  document : GivesOnce [bytes "functions"] members
  calls : ∀ {items call}, fieldIn? (bytes "functions") members = some (.array items) →
    .object call ∈ items → GivesOnce callFields call
  parameters : ∀ {items call parameters},
    fieldIn? (bytes "functions") members = some (.array items) → .object call ∈ items →
    fieldIn? (bytes "parameters") call = some (.object parameters) →
    (parameters.map fun parameter => Json.unquoted parameter.1).Nodup

/-- The first member that names a field gives its value. -/
theorem fieldIn?_cons_of_names {field : Bytes} {member : Bytes × Json}
    {members : List (Bytes × Json)} (h : names field member = true) :
    fieldIn? field (member :: members) = some member.2 := by
  simp [fieldIn?, List.find?_cons_of_pos h]

/-- A member that names another one is passed over. -/
theorem fieldIn?_cons_of_not_names {field : Bytes} {member : Bytes × Json}
    {members : List (Bytes × Json)} (h : names field member = false) :
    fieldIn? field (member :: members) = fieldIn? field members := by
  simp [fieldIn?, h]

/-- A field that the first member gives is given by no other. -/
theorem GivesOnce.fieldIn?_tail {fields : List Bytes} {member : Bytes × Json}
    {members : List (Bytes × Json)} (h : GivesOnce fields (member :: members)) {field : Bytes}
    (hfield : field ∈ fields) (hnames : names field member = true) :
    fieldIn? field members = none := by
  have hrest := (List.pairwise_cons.1 (h field hfield)).1
  rw [fieldIn?, Option.map_eq_none_iff, List.find?_eq_none]
  exact fun other hmem hother => hrest other hmem ⟨hnames, hother⟩

/-- What is given once is given once by the members behind. -/
theorem GivesOnce.tail {fields : List Bytes} {member : Bytes × Json}
    {members : List (Bytes × Json)} (h : GivesOnce fields (member :: members)) :
    GivesOnce fields members :=
  fun field hfield => (List.pairwise_cons.1 (h field hfield)).2

end Document

end FunctionChain
