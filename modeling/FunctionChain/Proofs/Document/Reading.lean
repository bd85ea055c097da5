import FunctionChain.Proofs.Document.Tree
import FunctionChain.Proofs.Document.Language
import Mathlib.Data.List.Forall2

/-!
# Reading a document

A document is read member by member into fields that may have been filled before. Where no field is
given twice this comes to looking up each field in the tree of the document, and what is read is the
graph that the tree stands for.
-/

namespace FunctionChain

namespace Document

/-! ## Fields -/

/-- The field that a member is read into is the one that its name is, the case of letters aside. -/
theorem fieldOf?_eq_some_iff {fields : List Bytes} (hfields : (fields.map Json.foldedName).Nodup)
    {member : Bytes × Json} {field : Bytes} :
    Json.fieldOf? fields (Json.unquoted member.1) = some field ↔
      field ∈ fields ∧ names field member = true := by
  have hinj := List.inj_on_of_nodup_map hfields
  simp only [Json.fieldOf?, names, beq_iff_eq, List.contains_iff_mem]
  split
  · next hmem =>
    constructor
    · rintro ⟨⟩
      exact ⟨hmem, rfl⟩
    · rintro ⟨hfield, hfold⟩
      rw [hinj hmem hfield hfold]
  · constructor
    · intro h
      have hfold := List.find?_some h
      rw [beq_iff_eq] at hfold
      exact ⟨List.mem_of_find?_eq_some h, hfold.symm⟩
    · rintro ⟨hfield, hfold⟩
      cases hfound : fields.find? (fun field => Json.foldedName field
          == Json.foldedName (Json.unquoted member.1)) with
      | none => exact absurd hfold.symm (by simpa using List.find?_eq_none.1 hfound field hfield)
      | some other =>
        have hother := List.find?_some hfound
        rw [beq_iff_eq] at hother
        rw [hinj (List.mem_of_find?_eq_some hfound) hfield (hother.trans hfold)]

/-! ## Reading parameters -/

/-- The parameters after one more has been read, if its key is new. -/
theorem setParameter_of_new {parameters : List (Bytes × Option Bytes)} {key : Bytes}
    (h : key ∉ parameters.map (·.1)) (value : Option Bytes) :
    setParameter parameters key value = parameters ++ [(key, value)] := by
  have hany : parameters.any (·.1 == key) = false := by
    rw [List.any_eq_false]
    intro parameter hmem hkey
    exact h (List.mem_map.2 ⟨parameter, hmem, by simpa using hkey⟩)
  simp [setParameter, hany]

/-- One parameter as it is read. -/
def readEntry (member : Bytes × Json) : Bytes × Option Bytes :=
  (Json.unquoted member.1, (readParameter member.2).value)

/-- Parameters with different keys are read one after another. -/
theorem value_readParameters {old : List (Bytes × Option Bytes)} {members : List (Bytes × Json)}
    (h : (old.map (·.1) ++ members.map fun member => Json.unquoted member.1).Nodup) :
    (readParameters old members).value = old ++ members.map readEntry := by
  unfold readParameters
  generalize (none : Option Json.Finding) = finding
  induction members generalizing old finding with
  | nil => simp
  | cons member rest ih =>
    have hnew : Json.unquoted member.1 ∉ old.map (·.1) := by
      intro hmem
      exact (List.nodup_append.1 h).2.2 _ hmem _ (by simp) rfl
    rw [List.foldl_cons]
    simp only [setParameter_of_new hnew]
    rw [ih (by simpa using h)]
    simp [readEntry]

/-- Parameters are read without a finding just if each of them is. -/
theorem finding_readParameters {old : List (Bytes × Option Bytes)} {members : List (Bytes × Json)} :
    (readParameters old members).finding = none ↔
      ∀ member ∈ members, (readParameter member.2).finding = none := by
  suffices h : ∀ finding : Option Json.Finding,
      (members.foldl (fun (reading : Json.Reading _) (member : Bytes × Json) =>
        (⟨setParameter reading.value (Json.unquoted member.1) (readParameter member.2).value,
          reading.finding <|> (readParameter member.2).finding⟩ : Json.Reading _))
        ⟨old, finding⟩).finding = none ↔
      finding = none ∧ ∀ member ∈ members, (readParameter member.2).finding = none by
    exact (h none).trans (and_iff_right rfl)
  intro finding
  induction members generalizing old finding with
  | nil => simp
  | cons member rest ih =>
    rw [List.foldl_cons, ih, List.forall_mem_cons, ← and_assoc]
    simp

/-- All parameters are texts if the first one is and the others are. -/
theorem textsOf?_cons (member : Bytes × Json) (rest : List (Bytes × Json)) :
    textsOf? (member :: rest) = (textOf? member.2).bind fun text =>
      (textsOf? rest).map ((Json.unquoted member.1, text) :: ·) := by
  unfold textsOf?
  cases htext : textOf? member.2 with
  | none => simp [htext]
  | some text => by_cases h : rest.all fun member => (textOf? member.2).isSome <;> simp [h, htext]

/-- Parameters are taken exactly when all of them are texts. -/
theorem parameterTexts_eq_ok_iff {members : List (Bytes × Json)} {texts : List (Bytes × Bytes)} :
    (∀ member ∈ members, (readParameter member.2).finding = none) ∧
        parameterTexts (members.map readEntry) = .ok texts ↔
      textsOf? members = some texts := by
  induction members generalizing texts with
  | nil => simp [parameterTexts, textsOf?]
  | cons member rest ih =>
    obtain ⟨written, value⟩ := member
    rw [textsOf?_cons, List.forall_mem_cons, List.map_cons]
    cases value with
    | string text =>
      cases hrest : parameterTexts (rest.map readEntry) with
      | ok others =>
        simp [readEntry, readParameter, parameterTexts, textOf?, ← ih, hrest]
      | error key => simp [readEntry, readParameter, parameterTexts, textOf?, ← ih, hrest]
    | null => simp [readEntry, readParameter, parameterTexts, textOf?]
    | _ => simp [readParameter, textOf?]

/-! ## Reading calls -/

/-- One member read into a call. -/
def callStep (reading : Json.Reading WireCall) (member : Bytes × Json) : Json.Reading WireCall :=
  match Json.fieldOf? callFields (Json.unquoted member.1) with
  | some field =>
    let next := readCallMember reading.value field member.2
    ⟨next.value, reading.finding <|> next.finding⟩
  | none => reading

/-- A call is read from the members of an object, step by step. -/
theorem readCall_object (old : WireCall) (members : List (Bytes × Json)) :
    readCall old (.object members) = members.foldl callStep ⟨old, none⟩ := rfl

/-- The fields of a call differ, even when case is folded. -/
theorem nodup_callFields : (callFields.map Json.foldedName).Nodup := by decide

/-- A member that names a field is read into that. -/
theorem callStep_of_names {reading : Json.Reading WireCall} {member : Bytes × Json} {field : Bytes}
    (hfield : field ∈ callFields) (h : names field member = true) :
    callStep reading member = ⟨(readCallMember reading.value field member.2).value,
      reading.finding <|> (readCallMember reading.value field member.2).finding⟩ := by
  rw [callStep, (fieldOf?_eq_some_iff nodup_callFields).2 ⟨hfield, h⟩]

/-- A member that names none is passed over. -/
theorem callStep_of_unknown {reading : Json.Reading WireCall} {member : Bytes × Json}
    (h : ∀ field ∈ callFields, names field member = false) : callStep reading member = reading := by
  rw [callStep]
  split
  · next field hfound =>
    obtain ⟨hfield, hnames⟩ := (fieldOf?_eq_some_iff nodup_callFields).1 hfound
    rw [h field hfield] at hnames
    cases hnames
  · rfl

/-- The parameters after a member for them has been read. -/
def parametersAfter (old : Option (List (Bytes × Option Bytes))) :
    Json → Option (List (Bytes × Option Bytes))
  | .null => none
  | .object members => some (readParameters (old.getD []) members).value
  | _ => old

/-- Whether a value has the type of its field, `null` included. -/
def fits (field : Bytes) (value : Json) : Prop := (readCallMember .blank field value).finding = none

variable (call : WireCall) (value : Json)

/-- A name is read as a text, and null leaves the one that was there. -/
theorem readCallMember_name : (readCallMember call (bytes "name") value).value
    = { call with name := (textOf? value).getD call.name } := by
  cases value <;> rfl

/-- So is a function. -/
theorem readCallMember_function : (readCallMember call (bytes "function") value).value
    = { call with function := (textOf? value).getD call.function } := by
  cases value <;> rfl

/-- Parameters are read over those that were there. -/
theorem readCallMember_parameters : (readCallMember call (bytes "parameters") value).value
    = { call with parameters := parametersAfter call.parameters value } := by
  cases value <;> rfl

/-- Whether there is something to find does not depend on what was read before. -/
theorem finding_readCallMember (field : Bytes) :
    (readCallMember call field value).finding = none ↔ fits field value := by
  unfold fits readCallMember
  split
  · cases value <;> rfl
  · split
    · cases value <;> rfl
    · cases value with
      | object members => exact finding_readParameters.trans finding_readParameters.symm
      | _ => rfl

/-- A member names one field at most. -/
theorem names_unique {member : Bytes × Json} {field other : Bytes} (hfield : field ∈ callFields)
    (hother : other ∈ callFields) (h : names field member = true) (hne : other ≠ field) :
    names other member = false := by
  rw [Bool.eq_false_iff]
  intro ho
  rw [names, beq_iff_eq] at h ho
  exact hne (List.inj_on_of_nodup_map nodup_callFields hother hfield (ho.symm.trans h))

/-- What members do to a call: each of its fields becomes what the member that names it says. -/
def callAfter (call : WireCall) (members : List (Bytes × Json)) : WireCall where
  name := ((fieldIn? (bytes "name") members).bind textOf?).getD call.name
  function := ((fieldIn? (bytes "function") members).bind textOf?).getD call.function
  parameters := (fieldIn? (bytes "parameters") members).elim call.parameters
    (parametersAfter call.parameters)

/-- The values that an object gives to the fields of a call have the types of the fields. -/
def Fits (members : List (Bytes × Json)) : Prop :=
  ∀ field ∈ callFields, ∀ value, fieldIn? field members = some value → fits field value

/-- A member that names a field is read into it, and the rest leave that field alone. -/
theorem callAfter_cons {member : Bytes × Json} {members : List (Bytes × Json)}
    (h : GivesOnce callFields (member :: members)) {field : Bytes} (hfield : field ∈ callFields)
    (hnames : names field member = true) :
    callAfter call (member :: members)
      = callAfter (readCallMember call field member.2).value members := by
  have hhere : fieldIn? field (member :: members) = some member.2 := fieldIn?_cons_of_names hnames
  have hthere := h.fieldIn?_tail hfield hnames
  have hothers (other : Bytes) (hother : other ∈ callFields) (hne : other ≠ field) :
      fieldIn? other (member :: members) = fieldIn? other members :=
    fieldIn?_cons_of_not_names (names_unique hfield hother hnames hne)
  simp only [callFields, List.mem_cons, List.not_mem_nil, or_false] at hfield
  rcases hfield with rfl | rfl | rfl
  · simp only [callAfter, hhere, hthere, readCallMember_name]
    rw [hothers (bytes "function") (by decide) (by decide),
      hothers (bytes "parameters") (by decide) (by decide)]
    rfl
  · simp only [callAfter, hhere, hthere, readCallMember_function]
    rw [hothers (bytes "name") (by decide) (by decide),
      hothers (bytes "parameters") (by decide) (by decide)]
    rfl
  · simp only [callAfter, hhere, hthere, readCallMember_parameters]
    rw [hothers (bytes "name") (by decide) (by decide),
      hothers (bytes "function") (by decide) (by decide)]
    rfl

/-- Members fit if the first one fits its field and the others fit. -/
theorem fits_cons_iff {member : Bytes × Json} {members : List (Bytes × Json)}
    (h : GivesOnce callFields (member :: members)) {field : Bytes} (hfield : field ∈ callFields)
    (hnames : names field member = true) :
    Fits (member :: members) ↔ fits field member.2 ∧ Fits members := by
  have hothers (other : Bytes) (hother : other ∈ callFields) (hne : other ≠ field) :
      fieldIn? other (member :: members) = fieldIn? other members :=
    fieldIn?_cons_of_not_names (names_unique hfield hother hnames hne)
  constructor
  · intro hfits
    refine ⟨hfits field hfield _ (fieldIn?_cons_of_names hnames), ?_⟩
    intro other hother value hvalue
    by_cases hne : other = field
    · rw [hne, h.fieldIn?_tail hfield hnames] at hvalue
      cases hvalue
    · exact hfits other hother value ((hothers other hother hne).trans hvalue)
  · rintro ⟨hhere, hrest⟩ other hother value hvalue
    by_cases hne : other = field
    · rw [hne, fieldIn?_cons_of_names hnames] at hvalue
      cases hvalue
      rwa [hne]
    · exact hrest other hother value ((hothers other hother hne).symm.trans hvalue)

/-- Members that give each field once are read as if the fields were looked up. -/
theorem foldl_callStep {members : List (Bytes × Json)} (h : GivesOnce callFields members)
    (reading : Json.Reading WireCall) :
    (members.foldl callStep reading).value = callAfter reading.value members ∧
      ((members.foldl callStep reading).finding = none ↔
        reading.finding = none ∧ Fits members) := by
  induction members generalizing reading with
  | nil => simp [callAfter, Fits, fieldIn?]
  | cons member rest ih =>
    rw [List.foldl_cons]
    by_cases hknown : ∃ field ∈ callFields, names field member = true
    · obtain ⟨field, hfield, hnames⟩ := hknown
      rw [callStep_of_names hfield hnames, (ih h.tail _).1, (ih h.tail _).2,
        callAfter_cons _ h hfield hnames, fits_cons_iff h hfield hnames, ← and_assoc]
      simp [finding_readCallMember]
    · have hunknown : ∀ field ∈ callFields, names field member = false := by simpa using hknown
      have hsame (field : Bytes) (hfield : field ∈ callFields) :
          fieldIn? field (member :: rest) = fieldIn? field rest :=
        fieldIn?_cons_of_not_names (hunknown field hfield)
      rw [callStep_of_unknown hunknown, (ih h.tail _).1, (ih h.tail _).2]
      refine ⟨?_, and_congr_right fun _ => forall₂_congr fun field hfield => ?_⟩
      · simp only [callAfter]
        rw [hsame (bytes "name") (by decide), hsame (bytes "function") (by decide),
          hsame (bytes "parameters") (by decide)]
      · rw [hsame field hfield]

/-! ## Taking calls -/

/-- The parameters of a call as they are taken from those that were read. -/
def Taken : Option (List (Bytes × Option Bytes)) → Option (List (Bytes × Bytes)) → Prop
  | none, none => True
  | some entries, some texts => parameterTexts entries = .ok texts
  | _, _ => False

/-- A call is taken just if it has a name and a function and its parameters are texts. -/
theorem checkCall_eq_ok_iff {index : Nat} {wire : WireCall} {call : Call} :
    checkCall index wire = .ok call ↔ (wire.name = call.name ∧ call.name ≠ []) ∧
      (wire.function = call.function ∧ call.function ≠ []) ∧
      Taken wire.parameters call.parameters := by
  obtain ⟨name, function, parameters⟩ := wire
  obtain ⟨callName, callFunction, callParameters⟩ := call
  unfold checkCall Taken
  cases parameters with
  | none => cases callParameters <;> grind
  | some entries => cases callParameters <;> cases htexts : parameterTexts entries <;> grind

/-- A field that must have a text has it exactly when a text that is not empty was read. -/
theorem requiredIn?_eq_some_iff {field : Bytes} (members : List (Bytes × Json)) (text : Bytes)
    (hfits : ∀ value, fits field value ↔ (∃ written, value = .string written) ∨ value = .null) :
    ((∀ value, fieldIn? field members = some value → fits field value) ∧
        ((fieldIn? field members).bind textOf?).getD [] = text ∧ text ≠ []) ↔
      requiredIn? field members = some text := by
  simp only [requiredIn?, hfits]
  cases fieldIn? field members with
  | none => simp [eq_comm]
  | some value =>
    cases value with
    | string written => grind [textOf?]
    | _ => simp [textOf?]

/-- A text or null fits a field that is a text. -/
theorem fits_text_iff {field : Bytes} (hfield : field = bytes "name" ∨ field = bytes "function")
    (value : Json) : fits field value ↔ (∃ written, value = .string written) ∨ value = .null := by
  have hne : bytes "function" ≠ bytes "name" := by decide
  rcases hfield with rfl | rfl <;>
    cases value <;> simp [fits, readCallMember, Json.readText, Json.readTextAs, hne]

/-- The parameters that were read are taken exactly when they are those of the tree. -/
theorem parametersIn?_eq_some_iff {members : List (Bytes × Json)}
    (parameters : Option (List (Bytes × Bytes)))
    (h : ∀ {given}, fieldIn? (bytes "parameters") members = some (.object given) →
      (given.map fun parameter => Json.unquoted parameter.1).Nodup) :
    ((∀ value, fieldIn? (bytes "parameters") members = some value →
          fits (bytes "parameters") value) ∧
        Taken ((fieldIn? (bytes "parameters") members).elim none (parametersAfter none))
          parameters) ↔
      parametersIn? members = some parameters := by
  rw [parametersIn?]
  cases hfield : fieldIn? (bytes "parameters") members with
  | none => cases parameters <;> simp [Taken]
  | some value =>
    simp only [Option.some.injEq, forall_eq']
    cases value with
    | null =>
      have hfits : fits (bytes "parameters") .null := rfl
      cases parameters <;> simp [Taken, parametersAfter, hfits]
    | object given =>
      have hfits : fits (bytes "parameters") (.object given) ↔
          ∀ member ∈ given, (readParameter member.2).finding = none := finding_readParameters
      have hvalue : (readParameters [] given).value = given.map readEntry :=
        value_readParameters (h hfield)
      cases parameters with
      | none => simp [Taken, parametersAfter]
      | some texts =>
        simp only [Option.elim_some, parametersAfter, Option.getD_none, hvalue, Taken, hfits,
          parameterTexts_eq_ok_iff, Option.map_eq_some_iff, Option.some.injEq, exists_eq_right]
    | _ =>
      refine iff_of_false (fun hread => ?_) fun hsome => ?_
      · cases (hread.1 : _ = none)
      · cases hsome

/-- **Calls.** An object that gives each field once is read and taken as the call that it stands
for, and is not taken when it stands for none. -/
theorem takes_call_iff {members : List (Bytes × Json)} {call : Call} (index : Nat)
    (h : GivesOnce callFields members)
    (hparameters : ∀ {given}, fieldIn? (bytes "parameters") members = some (.object given) →
      (given.map fun parameter => Json.unquoted parameter.1).Nodup) :
    ((readCall .blank (.object members)).finding = none ∧
        checkCall index (readCall .blank (.object members)).value = .ok call) ↔
      callOf? (.object members) = some call := by
  obtain ⟨hvalue, hfinding⟩ := foldl_callStep h ⟨.blank, none⟩
  rw [readCall_object, hvalue, hfinding, checkCall_eq_ok_iff]
  have hname := requiredIn?_eq_some_iff members call.name (fits_text_iff (.inl rfl))
  have hfunction := requiredIn?_eq_some_iff members call.function (fits_text_iff (.inr rfl))
  have hgiven := parametersIn?_eq_some_iff call.parameters hparameters
  have hfits : Fits members ↔
      (∀ value, fieldIn? (bytes "name") members = some value → fits (bytes "name") value) ∧
      (∀ value, fieldIn? (bytes "function") members = some value → fits (bytes "function") value) ∧
      ∀ value, fieldIn? (bytes "parameters") members = some value →
        fits (bytes "parameters") value := by
    simp [Fits, callFields]
  have hcall : callOf? (.object members) = some call ↔
      requiredIn? (bytes "name") members = some call.name ∧
      requiredIn? (bytes "function") members = some call.function ∧
      parametersIn? members = some call.parameters := by
    obtain ⟨name, function, parameters⟩ := call
    simp only [callOf?, Option.bind_eq_some_iff, Option.map_eq_some_iff, Call.mk.injEq]
    grind
  rw [hcall, ← hname, ← hfunction, ← hgiven, hfits]
  simp only [callAfter, WireCall.blank]
  grind

/-- The same of any element: what is no object is not taken. -/
theorem takes_item_iff (item : Json) (call : Call) (index : Nat)
    (h : ∀ {members}, item = .object members → GivesOnce callFields members ∧
      ∀ {given}, fieldIn? (bytes "parameters") members = some (.object given) →
        (given.map fun parameter => Json.unquoted parameter.1).Nodup) :
    ((readCall .blank item).finding = none ∧
        checkCall index (readCall .blank item).value = .ok call) ↔ callOf? item = some call := by
  cases item with
  | object members => exact takes_call_iff index (h rfl).1 (h rfl).2
  | null => simp [readCall, WireCall.blank, checkCall, callOf?]
  | _ => simp [readCall, callOf?]

/-- Calls that are read over none are each read from nothing. -/
theorem readCallsOver_nil {items : List Json} {done : List WireCall}
    {finding : Option Json.Finding} :
    (readCallsOver [] done finding items).value
        = ⟨done.reverse ++ items.map fun item => (readCall .blank item).value, []⟩ ∧
      ((readCallsOver [] done finding items).finding = none ↔
        finding = none ∧ ∀ item ∈ items, (readCall .blank item).finding = none) := by
  induction items generalizing done finding with
  | nil => simp [readCallsOver]
  | cons item rest ih =>
    simp only [readCallsOver, List.headD_nil, List.tail_nil]
    rw [ih.1, ih.2]
    simp [and_assoc]

/-- All calls are taken exactly when each is, wherever it stands. -/
theorem checkCalls_eq_ok_iff {wires : List WireCall} {index : Nat} {done calls : List Call} :
    checkCalls index done wires = .ok calls ↔ ∃ rest, calls = done.reverse ++ rest ∧
      List.Forall₂ (fun wire call => checkCall 0 wire = .ok call) wires rest := by
  induction wires generalizing index done with
  | nil => simp [checkCalls, eq_comm]
  | cons wire wires ih =>
    rw [checkCalls]
    have hindex (call : Call) : checkCall index wire = .ok call ↔ checkCall 0 wire = .ok call :=
      checkCall_eq_ok_iff.trans checkCall_eq_ok_iff.symm
    constructor
    · intro h
      split at h
      · next call hcall =>
        obtain ⟨rest, rfl, hrest⟩ := ih.1 h
        exact ⟨call :: rest, by simp, .cons ((hindex call).1 hcall) hrest⟩
      · cases h
    · rintro ⟨_, rfl, hrest⟩
      cases hrest with
      | @cons _ call _ rest hcall hrest =>
        rw [(hindex call).2 hcall]
        exact ih.2 ⟨rest, by simp, hrest⟩

/-- All items have values just if each of them has its own. -/
theorem mapM_eq_some_iff {α β : Type} {f : α → Option β} {items : List α} {values : List β} :
    items.mapM f = some values ↔
      List.Forall₂ (fun item value => f item = some value) items values := by
  induction items generalizing values with
  | nil => simp [eq_comm]
  | cons item rest ih =>
    rw [List.mapM_cons]
    simp only [bind, Option.bind_eq_some_iff, ih, pure, Option.some.injEq]
    constructor
    · rintro ⟨value, hvalue, others, hothers, rfl⟩
      exact .cons hvalue hothers
    · intro h
      cases h with
      | cons hvalue hothers => exact ⟨_, hvalue, _, hothers, rfl⟩

/-- Lists are related alike by relations that agree on the first one. -/
theorem forall₂_congr_of_mem {α β : Type} {R S : α → β → Prop} {l : List α} {m : List β}
    (h : ∀ a ∈ l, ∀ b, R a b ↔ S a b) : List.Forall₂ R l m ↔ List.Forall₂ S l m := by
  induction l generalizing m with
  | nil => simp
  | cons a l ih =>
    cases m with
    | nil => simp
    | cons b m =>
      rw [List.forall_mem_cons] at h
      rw [List.forall₂_cons, List.forall₂_cons, h.1 b, ih h.2]

/-! ## Reading documents -/

/-- One member read into a document. -/
def documentStep (reading : Json.Reading WireCalls) (member : Bytes × Json) :
    Json.Reading WireCalls :=
  match Json.fieldOf? [bytes "functions"] (Json.unquoted member.1) with
  | some _ =>
    let next := readCalls reading.value member.2
    ⟨next.value, reading.finding <|> next.finding⟩
  | none => reading

/-- A member for functions is read into the calls. -/
theorem documentStep_of_names {reading : Json.Reading WireCalls} {member : Bytes × Json}
    (h : names (bytes "functions") member = true) :
    documentStep reading member = ⟨(readCalls reading.value member.2).value,
      reading.finding <|> (readCalls reading.value member.2).finding⟩ := by
  rw [documentStep, (fieldOf?_eq_some_iff (by simp)).2 ⟨List.mem_singleton.2 rfl, h⟩]

/-- A member of another name is passed over. -/
theorem documentStep_of_unknown {reading : Json.Reading WireCalls} {member : Bytes × Json}
    (h : names (bytes "functions") member = false) : documentStep reading member = reading := by
  rw [documentStep]
  split
  · next field hfound =>
    obtain ⟨hfield, hnames⟩ := (fieldOf?_eq_some_iff (by simp)).1 hfound
    rw [List.mem_singleton.1 hfield, h] at hnames
    cases hnames
  · rfl

/-- Without a member for functions nothing is read. -/
theorem foldl_documentStep_of_none {members : List (Bytes × Json)}
    (h : fieldIn? (bytes "functions") members = none) (reading : Json.Reading WireCalls) :
    members.foldl documentStep reading = reading := by
  induction members with
  | nil => rfl
  | cons member rest ih =>
    have hunknown : names (bytes "functions") member = false := by
      rw [Bool.eq_false_iff]
      intro hnames
      rw [fieldIn?_cons_of_names hnames] at h
      cases h
    rw [fieldIn?_cons_of_not_names hunknown] at h
    rw [List.foldl_cons, documentStep_of_unknown hunknown, ih h]

/-- The members of a document that gives its calls once are read as these calls. -/
theorem readMembers_eq {members : List (Bytes × Json)}
    (h : GivesOnce [bytes "functions"] members) :
    readMembers members = match fieldIn? (bytes "functions") members with
      | none => ⟨.none, none⟩
      | some value => readCalls .none value := by
  suffices hfold : members.foldl documentStep ⟨.none, none⟩
      = match fieldIn? (bytes "functions") members with
        | none => ⟨.none, none⟩
        | some value => readCalls .none value from hfold
  induction members with
  | nil => rfl
  | cons member rest ih =>
    rw [List.foldl_cons]
    cases hnames : names (bytes "functions") member with
    | true =>
      rw [fieldIn?_cons_of_names hnames, documentStep_of_names hnames,
        foldl_documentStep_of_none (h.fieldIn?_tail (List.mem_singleton.2 rfl) hnames)]
      simp
    | false =>
      rw [fieldIn?_cons_of_not_names hnames, documentStep_of_unknown hnames, ih h.tail]

/-- A document is read just if its members are, and the calls in them are taken. -/
theorem read_eq_ok_iff_checkCalls {text : Bytes} {members : List (Bytes × Json)} {graph : Graph}
    (hvalue : onlyValue text = .ok (.object members)) :
    read text = .ok graph ↔ (readMembers members).finding = none ∧
      checkCalls 0 [] (readMembers members).value.current = .ok graph.calls := by
  rw [read, hvalue]
  dsimp only
  obtain ⟨calls, finding⟩ := readMembers members
  cases finding with
  | some finding => simp
  | none =>
    dsimp only
    cases checkCalls 0 [] calls.current with
    | ok taken =>
      obtain ⟨graphCalls⟩ := graph
      simp
    | error problem => simp

/-- **Documents.** The graph of a plain document is the one that its tree stands for. -/
theorem read_eq_ok_iff {text : Bytes} {members : List (Bytes × Json)} {graph : Graph}
    (hvalue : onlyValue text = .ok (.object members)) (h : IsPlain members) :
    read text = .ok graph ↔ graphOf? members = some graph := by
  rw [read_eq_ok_iff_checkCalls hvalue, readMembers_eq h.document, graphOf?]
  obtain ⟨calls⟩ := graph
  cases hfield : fieldIn? (bytes "functions") members with
  | none => simp [WireCalls.none, checkCalls]
  | some value =>
    cases value with
    | null => simp [readCalls, WireCalls.none, checkCalls]
    | array items =>
      have hread : readCalls .none (.array items) = readCallsOver [] [] none items := by
        cases items <;> rfl
      have hitems (item : Json) (hmem : item ∈ items) (call : Call) :=
        takes_item_iff item call 0 fun {members} hitem =>
          ⟨h.calls hfield (hitem ▸ hmem), h.parameters hfield (hitem ▸ hmem)⟩
      simp only [hread]
      rw [readCallsOver_nil.1, readCallsOver_nil.2, checkCalls_eq_ok_iff]
      simp only [List.reverse_nil, List.nil_append, true_and, exists_eq_left',
        List.forall₂_map_left_iff, ← List.forall₂_and_left]
      simp only [Option.map_eq_some_iff, Graph.mk.injEq, exists_eq_right, mapM_eq_some_iff]
      exact forall₂_congr_of_mem hitems
    | _ => simp [readCalls]

end Document

end FunctionChain
