import FunctionChain.Proofs.Document.Reading

/-!
# What a document says

A text is loaded as its tree says. So nothing counts but the fields and what their texts stand for:
neither the order of members nor white space, neither the spelling of a text nor members that name
no field (`Alike`).
-/

namespace FunctionChain

namespace Document

/-! ## What does not matter -/

/-- The members of an object by what their names stand for, as far as they matter. -/
def decoded (matters : Bytes → Bool) (members : List (Bytes × Json)) : List (Bytes × Json) :=
  (members.map fun member => (Json.unquoted member.1, member.2)).filter (matters ·.1)

/-- Objects that differ only in the order of their members, in the spelling of names, in members
that do not matter, and in values that `R` does not tell apart. -/
def Alike (matters : Bytes → Bool) (R : Json → Json → Prop) (first second : List (Bytes × Json)) :
    Prop :=
  ∃ reordered, (decoded matters first).Perm reordered ∧
    List.Forall₂ (fun a b => a.1 = b.1 ∧ R a.2 b.2) reordered (decoded matters second)

/-- Whether a name is that of one of the fields, the case of letters aside. -/
def isFieldName (fields : List Bytes) (name : Bytes) : Bool :=
  fields.any fun field => Json.foldedName name == Json.foldedName field

/-- Values that differ at most in the spelling of a text. -/
inductive TextAlike : Json → Json → Prop where
  | same (value : Json) : TextAlike value value
  | respelled {a b : Bytes} :
      Json.unquoted a = Json.unquoted b → TextAlike (.string a) (.string b)

/-- Values of a call's members that do not differ in what they say. -/
inductive MemberAlike : Json → Json → Prop where
  | text {a b : Json} : TextAlike a b → MemberAlike a b
  | parameters {a b : List (Bytes × Json)} :
      Alike (fun _ => true) TextAlike a b → MemberAlike (.object a) (.object b)

/-- Elements of the array of calls that do not differ in what they say. -/
inductive ItemAlike : Json → Json → Prop where
  | same (value : Json) : ItemAlike value value
  | call {a b : List (Bytes × Json)} :
      Alike (isFieldName callFields) MemberAlike a b → ItemAlike (.object a) (.object b)

/-- Values of the field of calls that do not differ in what they say. -/
inductive CallsAlike : Json → Json → Prop where
  | same (value : Json) : CallsAlike value value
  | items {a b : List Json} : List.Forall₂ ItemAlike a b → CallsAlike (.array a) (.array b)

/-- Documents that do not differ in what they say. -/
def DocumentsAlike : List (Bytes × Json) → List (Bytes × Json) → Prop :=
  Alike (isFieldName [bytes "functions"]) CallsAlike

/-- Each of related items has its partner. -/
theorem exists_of_forall₂_of_mem {α β : Type} {R : α → β → Prop} {l : List α} {m : List β}
    (h : List.Forall₂ R l m) {a : α} (ha : a ∈ l) : ∃ b ∈ m, R a b := by
  induction h with
  | nil => cases ha
  | @cons c d l m hcd _ ih =>
    rcases List.mem_cons.1 ha with rfl | ha
    · exact ⟨d, by simp, hcd⟩
    · obtain ⟨b, hb, hab⟩ := ih ha
      exact ⟨b, List.mem_cons_of_mem d hb, hab⟩

/-- A field is given by the member that names it, wherever it stands. -/
theorem GivesOnce.fieldIn?_of_mem {fields : List Bytes} {members : List (Bytes × Json)}
    (h : GivesOnce fields members) {field : Bytes} (hfield : field ∈ fields)
    {member : Bytes × Json} (hmem : member ∈ members) (hnames : names field member = true) :
    fieldIn? field members = some member.2 := by
  induction members with
  | nil => cases hmem
  | cons first rest ih =>
    rcases List.mem_cons.1 hmem with rfl | hmem
    · exact fieldIn?_cons_of_names hnames
    · have hfirst := (List.pairwise_cons.1 (h field hfield)).1 _ hmem
      have hnot : names field first = false := by simpa [hnames] using hfirst
      rw [fieldIn?_cons_of_not_names hnot]
      exact ih h.tail hmem

/-- What is given once is found, under any spelling of its name. -/
theorem GivesOnce.fieldIn?_eq_some_iff {fields : List Bytes} {members : List (Bytes × Json)}
    (h : GivesOnce fields members) {field : Bytes} (hfield : field ∈ fields) {value : Json} :
    fieldIn? field members = some value ↔
      ∃ name, (name, value) ∈ decoded (isFieldName fields) members ∧
        Json.foldedName name = Json.foldedName field := by
  constructor
  · intro hvalue
    obtain ⟨⟨written, _⟩, hfound, rfl⟩ := Option.map_eq_some_iff.1 hvalue
    have hfold := List.find?_some hfound
    rw [names, beq_iff_eq] at hfold
    refine ⟨Json.unquoted written, ?_, hfold⟩
    refine List.mem_filter.2 ⟨List.mem_map.2 ⟨_, List.mem_of_find?_eq_some hfound, rfl⟩, ?_⟩
    exact List.any_eq_true.2 ⟨field, hfield, by simpa using hfold⟩
  · rintro ⟨name, hdecoded, hfold⟩
    obtain ⟨member, hmem, heq⟩ := List.mem_map.1 (List.mem_filter.1 hdecoded).1
    cases heq
    exact h.fieldIn?_of_mem hfield hmem (by simpa [names] using hfold)

/-- Alike objects give alike values to every field that matters. -/
theorem Alike.fieldIn? {fields : List Bytes} {R : Json → Json → Prop}
    {first second : List (Bytes × Json)} (h : Alike (isFieldName fields) R first second)
    (hfirst : GivesOnce fields first) (hsecond : GivesOnce fields second) {field : Bytes}
    (hfield : field ∈ fields) :
    Option.Rel R (fieldIn? field first) (fieldIn? field second) := by
  obtain ⟨reordered, hperm, hrel⟩ := h
  cases hvalue : Document.fieldIn? field first with
  | some value =>
    obtain ⟨name, hmem, hfold⟩ := (hfirst.fieldIn?_eq_some_iff hfield).1 hvalue
    obtain ⟨⟨other, otherValue⟩, hother, hname, hR⟩ :=
      exists_of_forall₂_of_mem hrel (hperm.mem_iff.1 hmem)
    obtain rfl : name = other := hname
    rw [(hsecond.fieldIn?_eq_some_iff hfield).2 ⟨name, hother, hfold⟩]
    exact .some hR
  | none =>
    cases hother : Document.fieldIn? field second with
    | none => exact .none
    | some otherValue =>
      obtain ⟨name, hmem, hfold⟩ := (hsecond.fieldIn?_eq_some_iff hfield).1 hother
      obtain ⟨⟨own, value⟩, hown, hname, -⟩ := exists_of_forall₂_of_mem hrel.flip hmem
      obtain rfl : own = name := hname
      have hsome := (hfirst.fieldIn?_eq_some_iff hfield).2 ⟨own, hperm.mem_iff.2 hown, hfold⟩
      rw [hvalue] at hsome
      cases hsome

/-- Values are related to themselves if what they hold is. -/
theorem rel_refl {α : Type} {R : α → α → Prop} (hR : ∀ a, R a a) (value : Option α) :
    Option.Rel R value value := by
  cases value with
  | none => exact .none
  | some a => exact .some (hR a)

/-- Texts that are alike are the same text. -/
theorem TextAlike.textOf? {a b : Json} (h : TextAlike a b) : textOf? a = textOf? b := by
  cases h with
  | same value => rfl
  | respelled h => exact congrArg some h

/-- Members that are alike have the same text. -/
theorem MemberAlike.textOf? {a b : Json} (h : MemberAlike a b) : textOf? a = textOf? b := by
  cases h with
  | text h => exact h.textOf?
  | parameters h => rfl

/-- Parameters are texts by their decoded names. -/
theorem textsOf?_eq_decoded (members : List (Bytes × Json)) :
    textsOf? members =
      let entries := (decoded (fun _ => true) members).map fun entry => (entry.1, textOf? entry.2)
      if entries.all (·.2.isSome) then some (entries.map fun entry => (entry.1, entry.2.getD []))
      else none := by
  have hall : decoded (fun _ => true) members
      = members.map fun member => (Json.unquoted member.1, member.2) :=
    List.filter_eq_self.2 fun _ _ => rfl
  dsimp only
  rw [hall, textsOf?, List.map_map, List.map_map, List.all_map]
  rfl

/-- Alike objects of texts are the same map, with its keys in some other order. -/
theorem Alike.textsOf? {first second : List (Bytes × Json)}
    (h : Alike (fun _ => true) TextAlike first second) :
    Option.Rel List.Perm (textsOf? first) (textsOf? second) := by
  obtain ⟨reordered, hperm, hrel⟩ := h
  have hentries : reordered.map (fun entry => (entry.1, Document.textOf? entry.2))
      = (decoded (fun _ => true) second).map fun entry => (entry.1, Document.textOf? entry.2) := by
    rw [← List.forall₂_eq_eq_eq, List.forall₂_map_left_iff, List.forall₂_map_right_iff]
    exact hrel.imp fun a b hab => Prod.ext hab.1 hab.2.textOf?
  have hperm := hperm.map fun entry => (entry.1, Document.textOf? entry.2)
  rw [hentries] at hperm
  rw [textsOf?_eq_decoded, textsOf?_eq_decoded]
  dsimp only
  rw [hperm.all_eq]
  split
  · exact .some (hperm.map _)
  · exact .none

/-- Calls with the same name, function and map of parameters. -/
structure SameCall (first second : Call) : Prop where
  name : first.name = second.name
  function : first.function = second.function
  parameters : Option.Rel List.Perm first.parameters second.parameters

/-- Calls that are alike have the same required texts. -/
theorem Alike.requiredIn? {first second : List (Bytes × Json)}
    (h : Alike (isFieldName callFields) MemberAlike first second)
    (hfirst : GivesOnce callFields first) (hsecond : GivesOnce callFields second) {field : Bytes}
    (hfield : field ∈ callFields) : requiredIn? field first = requiredIn? field second := by
  have hrel := h.fieldIn? hfirst hsecond hfield
  unfold Document.requiredIn?
  generalize Document.fieldIn? field first = a, Document.fieldIn? field second = b at hrel
  cases hrel with
  | none => rfl
  | some hvalues => simp only [Option.bind_some, hvalues.textOf?]

/-- Calls that are alike have the same parameters, in some order. -/
theorem Alike.parametersIn? {first second : List (Bytes × Json)}
    (h : Alike (isFieldName callFields) MemberAlike first second)
    (hfirst : GivesOnce callFields first) (hsecond : GivesOnce callFields second) :
    Option.Rel (Option.Rel List.Perm) (parametersIn? first) (parametersIn? second) := by
  have hfield : bytes "parameters" ∈ callFields := by decide
  have hrel := h.fieldIn? hfirst hsecond hfield
  unfold Document.parametersIn?
  generalize Document.fieldIn? (bytes "parameters") first = a,
    Document.fieldIn? (bytes "parameters") second = b at hrel
  have hrefl := rel_refl (rel_refl (List.Perm.refl (α := Bytes × Bytes)))
  cases hrel with
  | none => exact hrefl _
  | some hvalues =>
    cases hvalues with
    | text htext =>
      cases htext with
      | same value => exact hrefl _
      | respelled _ => exact .none
    | @parameters a b hparameters =>
      have htexts := hparameters.textsOf?
      dsimp only
      generalize Document.textsOf? a = c, Document.textsOf? b = d at htexts
      cases htexts with
      | none => exact .none
      | some hperm => exact .some (.some hperm)

/-- A call is the same as itself. -/
theorem SameCall.refl (call : Call) : SameCall call call := ⟨rfl, rfl, rel_refl .refl _⟩

/-- Alike elements stand for the same call, or both for none. -/
theorem ItemAlike.callOf? {first second : Json} (h : ItemAlike first second)
    (hfirst : ∀ {members}, first = .object members → GivesOnce callFields members)
    (hsecond : ∀ {members}, second = .object members → GivesOnce callFields members) :
    Option.Rel SameCall (callOf? first) (callOf? second) := by
  cases h with
  | same => exact rel_refl SameCall.refl _
  | @call a b h =>
    have hname : bytes "name" ∈ callFields := by decide
    have hfunction : bytes "function" ∈ callFields := by decide
    have hparameters := h.parametersIn? (hfirst rfl) (hsecond rfl)
    simp only [Document.callOf?, h.requiredIn? (hfirst rfl) (hsecond rfl) hname,
      h.requiredIn? (hfirst rfl) (hsecond rfl) hfunction]
    cases Document.requiredIn? (bytes "name") b with
    | none => exact .none
    | some name =>
      cases Document.requiredIn? (bytes "function") b with
      | none => exact .none
      | some function =>
        generalize Document.parametersIn? a = c, Document.parametersIn? b = d at hparameters
        cases hparameters with
        | none => exact .none
        | some hsame => exact .some ⟨rfl, rfl, hsame⟩

/-- Related items have related values, if they have any. -/
theorem mapM_rel {α β : Type} {R : α → α → Prop} {S : β → β → Prop} {f : α → Option β}
    {l m : List α} (h : List.Forall₂ R l m)
    (hf : ∀ a ∈ l, ∀ b ∈ m, R a b → Option.Rel S (f a) (f b)) :
    Option.Rel (List.Forall₂ S) (l.mapM f) (m.mapM f) := by
  induction h with
  | nil => exact .some .nil
  | @cons a b l m hab _ ih =>
    have hhead := hf a (by simp) b (by simp) hab
    have hrest := ih fun a ha b hb => hf a (by simp [ha]) b (by simp [hb])
    rw [List.mapM_cons, List.mapM_cons]
    generalize f a = c, f b = d at hhead
    generalize l.mapM f = e, m.mapM f = g at hrest
    cases hhead with
    | none => exact .none
    | some hhead =>
      cases hrest with
      | none => exact .none
      | some hrest => exact .some (.cons hhead hrest)

/-- Graphs with the same calls in the same order. -/
def SameGraph (first second : Graph) : Prop := List.Forall₂ SameCall first.calls second.calls

/-- Alike documents stand for the same graph, or both for none. -/
theorem graphOf?_of_alike {first second : List (Bytes × Json)} (h : DocumentsAlike first second)
    (hfirst : IsPlain first) (hsecond : IsPlain second) :
    Option.Rel SameGraph (graphOf? first) (graphOf? second) := by
  have hrel := h.fieldIn? hfirst.document hsecond.document (List.mem_singleton.2 rfl)
  have hcalls := @IsPlain.calls _ hfirst
  have hothers := @IsPlain.calls _ hsecond
  have hrefl := rel_refl (R := SameGraph) fun graph => List.forall₂_same.2 fun call _ => .refl call
  unfold graphOf?
  generalize fieldIn? (bytes "functions") first = a, fieldIn? (bytes "functions") second = b
    at hrel hcalls hothers
  cases hrel with
  | none => exact hrefl _
  | some hvalues =>
    cases hvalues with
    | same value => exact hrefl _
    | @items a b hitems =>
      have hmapped := mapM_rel hitems fun item hitem other hother hab =>
        hab.callOf? (fun heq => hcalls rfl (heq ▸ hitem)) (fun heq => hothers rfl (heq ▸ hother))
      dsimp only
      generalize a.mapM callOf? = c, b.mapM callOf? = d at hmapped
      cases hmapped with
      | none => exact .none
      | some hcalls => exact .some hcalls

/-! ## Loading -/

/-- The error of a document with the wrong contents. -/
def IsViolation (error : Error) : Prop :=
  ∃ message cause, error = .parse Failure.Code.schemaViolation message cause

/-- Outcomes of loading that tell the same. -/
def SameOutcome : Except Error Graph → Except Error Graph → Prop
  | .ok first, .ok second => SameGraph first second
  | .error first, .error second => IsViolation first ∧ IsViolation second
  | _, _ => False

/-- A plain document is loaded as the graph of its tree, or refused for its contents. -/
theorem load_of_plain {text : Bytes} {members : List (Bytes × Json)}
    (htext : Json.SpellsAlone Json.maxDepth (.object members) text) (hplain : IsPlain members) :
    match graphOf? members with
    | some graph => load text = .ok graph
    | none => ∃ error, load text = .error error ∧ IsViolation error := by
  have hvalue := onlyValue_eq_ok_iff.2 htext
  split
  · next graph hgraph => exact load_eq_ok_iff.2 ((read_eq_ok_iff hvalue hplain).2 hgraph)
  · next hgraph =>
    rcases read_of_object hvalue with ⟨graph, hok⟩ | hviolation
    · rw [(read_eq_ok_iff hvalue hplain).1 hok] at hgraph
      cases hgraph
    · obtain ⟨message, cause, herror⟩ := (load_code_iff false).2 hviolation
      exact ⟨_, herror, message, cause, rfl⟩

/-- **What a document says.** A text that is a single plain object is loaded as the graph that its
tree stands for, and is refused for its contents exactly when the tree violates the form of
documents; documents that do not differ in what they say are loaded alike. -/
theorem load_as_tree_says {text : Bytes} {members : List (Bytes × Json)}
    (htext : Json.SpellsAlone 10000 (.object members) text) (hplain : IsPlain members) :
    (∀ graph, load text = .ok graph ↔ graphOf? members = some graph) ∧
    ((∃ error, load text = .error error ∧ IsViolation error) ↔ Violates members) ∧
    ∀ {other : Bytes} {otherMembers : List (Bytes × Json)},
      Json.SpellsAlone 10000 (.object otherMembers) other → IsPlain otherMembers →
      DocumentsAlike members otherMembers → SameOutcome (load text) (load other) := by
  have hload := load_of_plain htext hplain
  refine ⟨fun graph => ?_, ?_, ?_⟩
  · rw [load_eq_ok_iff, read_eq_ok_iff (onlyValue_eq_ok_iff.2 htext) hplain]
  · rw [← graphOf?_eq_none_iff]
    cases hgraph : graphOf? members with
    | none =>
      rw [hgraph] at hload
      exact iff_of_true hload rfl
    | some graph =>
      rw [hgraph] at hload
      dsimp only at hload
      rw [hload]
      exact iff_of_false nofun nofun
  · intro other otherMembers hother hotherPlain halike
    have hotherLoad := load_of_plain hother hotherPlain
    have hrel := graphOf?_of_alike halike hplain hotherPlain
    generalize graphOf? members = a, graphOf? otherMembers = b at hload hotherLoad hrel
    cases hrel with
    | some hsame =>
      dsimp only at hload hotherLoad
      rw [hload, hotherLoad]
      exact hsame
    | none =>
      obtain ⟨error, herror, hviolation⟩ := hload
      obtain ⟨otherError, hotherError, hotherViolation⟩ := hotherLoad
      rw [herror, hotherError]
      exact ⟨hviolation, hotherViolation⟩

namespace Sample

/-- The members of a document with one call. -/
def documentOf (call : List (Bytes × Json)) : List (Bytes × Json) :=
  [(bytes "functions", .array [.object call])]

/-- A document of one call is plain if the call is. -/
theorem isPlain_documentOf {call parameters : List (Bytes × Json)}
    (hcall : GivesOnce callFields call)
    (hfield : fieldIn? (bytes "parameters") call = some (.object parameters))
    (hkeys : (parameters.map fun parameter => Json.unquoted parameter.1).Nodup) :
    IsPlain (documentOf call) where
  document := fun _ _ => List.pairwise_singleton _ _
  calls := by
    intro items other hitems hmem
    cases hitems
    cases List.mem_singleton.1 hmem
    exact hcall
  parameters := by
    intro items other given hitems hmem hgiven
    cases hitems
    cases List.mem_singleton.1 hmem
    cases hfield.symm.trans hgiven
    exact hkeys

/-- A call spelled in the usual way. -/
def call : List (Bytes × Json) :=
  [(bytes "name", .string (bytes "a")), (bytes "function", .string (bytes "f")),
    (bytes "parameters", .object [(bytes "p", .string (bytes "x"))])]

def text : Bytes :=
  bytes "\x7b\"functions\":[\x7b\"name\":\"a\",\"function\":\"f\","
    ++ bytes "\"parameters\":\x7b\"p\":\"x\"\x7d\x7d]\x7d"

/-- The same call in another order, with escapes and a member that names no field. -/
def oddCall : List (Bytes × Json) :=
  [(bytes "more", .array []), (bytes "function", .string (bytes "\\u0066")),
    (bytes "parameters", .object [(bytes "\\u0070", .string (bytes "x"))]),
    (bytes "name", .string (bytes "a"))]

def oddText : Bytes :=
  bytes " \x7b\"functions\":[\x7b\"more\":[ ],\"function\":\"\\u0066\","
    ++ bytes "\"parameters\":\x7b\"\\u0070\":\"x\"\x7d,\"name\":\"a\"\x7d]\x7d"

/-- The call with odd spellings, members in another order and unknown members is like the plain one. -/
theorem alike : DocumentsAlike (documentOf call) (documentOf oddCall) := by
  have hparameters : Alike (fun _ => true) TextAlike [(bytes "p", .string (bytes "x"))]
      [(bytes "\\u0070", .string (bytes "x"))] :=
    ⟨_, .refl _, .cons ⟨rfl, .same _⟩ .nil⟩
  have hcall : Alike (isFieldName callFields) MemberAlike call oddCall := by
    have hperm : call.Perm (call.tail ++ [(bytes "name", .string (bytes "a"))]) :=
      (List.perm_append_singleton _ call.tail).symm
    refine ⟨_, hperm, ?_⟩
    exact .cons ⟨rfl, .text (.respelled rfl)⟩
      (.cons ⟨rfl, .parameters hparameters⟩ (.cons ⟨rfl, .text (.same _)⟩ .nil))
  exact ⟨_, .refl _, .cons ⟨rfl, .items (.cons (.call hcall) .nil)⟩ .nil⟩

/-- Two spellings of one document are loaded as the same graph. -/
theorem load_oddText :
    load text = .ok ⟨[⟨bytes "a", bytes "f", some [(bytes "p", bytes "x")]⟩]⟩ ∧
      SameOutcome (load text) (load oddText) := by
  have hplain : IsPlain (documentOf call) :=
    isPlain_documentOf (by unfold GivesOnce; decide) rfl (by decide)
  have hodd : IsPlain (documentOf oddCall) :=
    isPlain_documentOf (by unfold GivesOnce; decide) rfl (by decide)
  have htext : onlyValue text = .ok (.object (documentOf call)) := rfl
  have hoddText : onlyValue oddText = .ok (.object (documentOf oddCall)) := rfl
  obtain ⟨hload, -, halike⟩ := load_as_tree_says (onlyValue_eq_ok_iff.1 htext) hplain
  exact ⟨(hload _).2 rfl, halike (onlyValue_eq_ok_iff.1 hoddText) hodd alike⟩

end Sample

end Document

end FunctionChain
