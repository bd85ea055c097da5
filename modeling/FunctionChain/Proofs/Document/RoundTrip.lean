import FunctionChain.Proofs.Document.Meaning
import FunctionChain.Proofs.Json.Written

/-!
# Encoding and loading

Calls written out as a document, and what becomes of them when that is loaded. `documentTrees` gives
the members of the document as trees. Every object among them gives each of its names once, so the
document is plain, and it stands for the calls that were written, with their parameters in the order
of the keys. Loading follows the tree, whatever the layout, so it gives the calls back
(`load_encode`).
-/

namespace FunctionChain

/-- Calls that can be written out: they have a name and a function, all their texts are UTF-8, and
no key of a parameter occurs twice. -/
structure Call.IsEncodable (call : Call) : Prop where
  name : call.name ≠ [] ∧ Utf8.isValid call.name = true
  function : call.function ≠ [] ∧ Utf8.isValid call.function = true
  keys : ((call.parameters.getD []).map (·.1)).Nodup
  entries : ∀ entry ∈ call.parameters.getD [],
    Utf8.isValid entry.1 = true ∧ Utf8.isValid entry.2 = true

namespace Document

open Json (Layout ofText)

/-! ## Encoding -/

/-- The entries of a map in the order of their keys. -/
def inKeyOrder (parameters : List (Bytes × Bytes)) : List (Bytes × Bytes) :=
  parameters.mergeSort fun a b => Bytes.atMost a.1 b.1

variable (layout : Layout) (depth : Nat)

/-- Parameters as an object, and as `null` when there are none. -/
def encodeParameters : Option (List (Bytes × Bytes)) → Bytes
  | none => bytes "null"
  | some parameters =>
    layout.object depth ((inKeyOrder parameters).map fun entry => (entry.1, ofText entry.2))

/-- A call as an object with its three fields. -/
def encodeCall (call : Call) : Bytes :=
  layout.object depth [(bytes "name", ofText call.name), (bytes "function", ofText call.function),
    (bytes "parameters", encodeParameters layout (depth + 1) call.parameters)]

/-- Calls as an array, and as `null` when there is no list of them. -/
def encodeCalls : Option (List Call) → Bytes
  | none => bytes "null"
  | some calls => layout.array depth (calls.map (encodeCall layout (depth + 1)))

/-- The document of some calls. -/
def encode (calls : Option (List Call)) : Bytes :=
  layout.object 0 [(bytes "functions", encodeCalls layout 1 calls)]

example : encode .compact
      (some [⟨bytes "a", bytes "<", some [(bytes "y", bytes "2"), (bytes "x", [])]⟩])
    = bytes "\x7b\"functions\":[\x7b\"name\":\"a\",\"function\":\"\\u003c\","
      ++ bytes "\"parameters\":\x7b\"x\":\"\",\"y\":\"2\"\x7d\x7d]\x7d" := by
  cbv

/-! ## The tree of an encoded document -/

def textTree (text : Bytes) : Json := .string (Json.escaped text)

def parameterTrees (parameters : List (Bytes × Bytes)) : List (Bytes × Json) :=
  (inKeyOrder parameters).map fun entry => (Json.escaped entry.1, textTree entry.2)

def parametersTree : Option (List (Bytes × Bytes)) → Json
  | none => .null
  | some parameters => .object (parameterTrees parameters)

def callTrees (call : Call) : List (Bytes × Json) :=
  [(Json.escaped (bytes "name"), textTree call.name),
    (Json.escaped (bytes "function"), textTree call.function),
    (Json.escaped (bytes "parameters"), parametersTree call.parameters)]

def callsTree : Option (List Call) → Json
  | none => .null
  | some calls => .array (calls.map fun call => .object (callTrees call))

def documentTrees (calls : Option (List Call)) : List (Bytes × Json) :=
  [(Json.escaped (bytes "functions"), callsTree calls)]

variable {layout depth}

/-- A text is written as its tree says. -/
theorem written_text (name text : Bytes) :
    Json.Written (name, ofText text) (Json.escaped name, textTree text) :=
  ⟨rfl, Json.spells_ofText text⟩

/-- Parameters are spelled as they are encoded. -/
theorem spells_encodeParameters (h : layout.IsBlank) (parameters : Option (List (Bytes × Bytes))) :
    Json.Spells (parametersTree parameters) (encodeParameters layout depth parameters) := by
  cases parameters with
  | none => exact .null
  | some parameters =>
    refine h.spells_object ?_
    rw [parameterTrees, List.forall₂_map_left_iff, List.forall₂_map_right_iff]
    exact List.forall₂_same.2 fun entry _ => written_text entry.1 entry.2

/-- A call is spelled as it is encoded. -/
theorem spells_encodeCall (h : layout.IsBlank) (call : Call) :
    Json.Spells (.object (callTrees call)) (encodeCall layout depth call) :=
  h.spells_object (.cons (written_text _ _) (.cons (written_text _ _)
    (.cons ⟨rfl, spells_encodeParameters h call.parameters⟩ .nil)))

/-- Calls are spelled as they are encoded. -/
theorem spells_encodeCalls (h : layout.IsBlank) (calls : Option (List Call)) :
    Json.Spells (callsTree calls) (encodeCalls layout depth calls) := by
  cases calls with
  | none => exact .null
  | some calls =>
    refine h.spells_array ?_
    rw [List.forall₂_map_left_iff, List.forall₂_map_right_iff]
    exact List.forall₂_same.2 fun call _ => spells_encodeCall h call

/-- An object is one deeper than its deepest member. -/
theorem depth_object_le_iff {members : List (Bytes × Json)} {bound : Nat} :
    Json.depth (.object members) ≤ bound ↔
      0 < bound ∧ ∀ member ∈ members, Json.depth member.2 < bound :=
  @Json.depth_object_add_le_iff members 0 bound

/-- The document, its array, its calls and their parameters: that is four containers. -/
theorem depth_documentTrees (calls : Option (List Call)) :
    Json.depth (.object (documentTrees calls)) ≤ 4 := by
  have hparameters (parameters : List (Bytes × Bytes)) :
      Json.depth (.object (parameterTrees parameters)) ≤ 1 := by
    refine depth_object_le_iff.2 ⟨by decide, ?_⟩
    rw [parameterTrees, List.forall_mem_map]
    exact fun _ _ => Nat.zero_lt_one
  have hcall (call : Call) : Json.depth (.object (callTrees call)) ≤ 2 := by
    refine depth_object_le_iff.2 ⟨by decide, ?_⟩
    simp only [callTrees, List.forall_mem_cons]
    refine ⟨Nat.zero_lt_two, Nat.zero_lt_two, ?_, List.forall_mem_nil _⟩
    cases call.parameters with
    | none => decide
    | some parameters => exact Nat.lt_succ_of_le (hparameters parameters)
  refine depth_object_le_iff.2 ⟨by decide, List.forall_mem_singleton.2 ?_⟩
  cases calls with
  | none => decide
  | some calls =>
    refine (@Json.depth_array_add_le_iff _ 1 4).2 ⟨by decide, ?_⟩
    rw [List.forall_mem_map]
    exact fun call _ => Nat.succ_lt_succ (Nat.lt_succ_of_le (hcall call))

/-- A document that is encoded is spelled by one object, whatever blanks it has. -/
theorem spellsAlone_encode (h : layout.IsBlank) (calls : Option (List Call)) {ending : Bytes}
    (hending : Json.Spaces ending) :
    Json.SpellsAlone Json.maxDepth (.object (documentTrees calls))
      (encode layout calls ++ ending) :=
  ⟨[], _, ending, rfl, .nil, h.spells_object (.cons ⟨rfl, spells_encodeCalls h calls⟩ .nil),
    hending, (depth_documentTrees calls).trans (by decide)⟩

/-! ## What the tree stands for -/

/-- Parameters in the order of their keys are the same ones. -/
theorem perm_inKeyOrder (parameters : List (Bytes × Bytes)) :
    (inKeyOrder parameters).Perm parameters := List.mergeSort_perm ..

/-- What is escaped is read back, if it is made of characters. -/
theorem unquoted_escaped_of_isValid {text : Bytes} (h : Utf8.isValid text = true) :
    Json.unquoted (Json.escaped text) = text := by
  rw [Json.unquoted_escaped, Utf8.sanitized_of_isValid h]

/-- Whether fields are given once is seen from the names of the members. -/
theorem givesOnce_iff {fields : List Bytes} {members : List (Bytes × Json)} :
    GivesOnce fields members ↔ ∀ field ∈ fields, (members.map (·.1)).Pairwise fun a b =>
      ¬ (names field (a, .null) = true ∧ names field (b, .null) = true) := by
  unfold GivesOnce
  simp only [List.pairwise_map]
  rfl

/-- A call that is encoded gives each of its fields once. -/
theorem callTrees_givesOnce (call : Call) : GivesOnce callFields (callTrees call) := by
  rw [givesOnce_iff]
  have hnames : (callTrees call).map (·.1) = callFields.map Json.escaped := rfl
  rw [hnames]
  decide

/-- The fields of a call that is encoded. -/
theorem fieldIn?_callTrees (call : Call) :
    fieldIn? (bytes "name") (callTrees call) = some (textTree call.name) ∧
      fieldIn? (bytes "function") (callTrees call) = some (textTree call.function) ∧
      fieldIn? (bytes "parameters") (callTrees call) = some (parametersTree call.parameters) := by
  have honce := callTrees_givesOnce call
  exact ⟨honce.fieldIn?_of_mem (by decide) (.head _) rfl,
    honce.fieldIn?_of_mem (by decide) (.tail _ (.head _)) rfl,
    honce.fieldIn?_of_mem (by decide) (.tail _ (.tail _ (.head _))) rfl⟩

/-- The calls of a document that is encoded. -/
theorem fieldIn?_documentTrees (calls : Option (List Call)) :
    fieldIn? (bytes "functions") (documentTrees calls) = some (callsTree calls) :=
  fieldIn?_cons_of_names rfl

/-- Parameters with different keys are encoded under different keys. -/
theorem nodup_parameterTrees {parameters : List (Bytes × Bytes)}
    (hkeys : (parameters.map (·.1)).Nodup)
    (hvalid : ∀ entry ∈ parameters, Utf8.isValid entry.1 = true) :
    ((parameterTrees parameters).map fun parameter => Json.unquoted parameter.1).Nodup := by
  have hperm := perm_inKeyOrder parameters
  have hread : (parameterTrees parameters).map (fun parameter => Json.unquoted parameter.1)
      = (inKeyOrder parameters).map (·.1) := by
    rw [parameterTrees, List.map_map]
    exact List.map_congr_left fun entry hmem =>
      unquoted_escaped_of_isValid (hvalid entry (hperm.mem_iff.1 hmem))
  rw [hread]
  exact (hperm.map _).nodup_iff.2 hkeys

/-- The tree of a document is plain. -/
theorem isPlain_documentTrees {calls : Option (List Call)}
    (h : ∀ call ∈ calls.getD [], call.IsEncodable) : IsPlain (documentTrees calls) := by
  have hcall {items : List Json} {members : List (Bytes × Json)}
      (hitems : fieldIn? (bytes "functions") (documentTrees calls) = some (.array items))
      (hmem : .object members ∈ items) : ∃ call ∈ calls.getD [], callTrees call = members := by
    rw [fieldIn?_documentTrees] at hitems
    cases calls with
    | none => cases hitems
    | some calls =>
      cases hitems
      obtain ⟨call, hcall, heq⟩ := List.mem_map.1 hmem
      cases heq
      exact ⟨call, hcall, rfl⟩
  refine ⟨fun _ _ => List.pairwise_singleton _ _, ?_, ?_⟩
  · intro items members hitems hmem
    obtain ⟨call, -, rfl⟩ := hcall hitems hmem
    exact callTrees_givesOnce call
  · intro items members given hitems hmem hgiven
    obtain ⟨call, hcall, rfl⟩ := hcall hitems hmem
    obtain ⟨-, -, hkeys, hentries⟩ := h call hcall
    rw [(fieldIn?_callTrees call).2.2] at hgiven
    cases hparameters : call.parameters with
    | none =>
      rw [hparameters] at hgiven
      cases hgiven
    | some parameters =>
      rw [hparameters] at hgiven hkeys hentries
      cases hgiven
      exact nodup_parameterTrees hkeys fun entry hmem => (hentries entry hmem).1

/-- The call as it is read: its parameters are in the order of their keys. -/
def inOrder (call : Call) : Call := { call with parameters := call.parameters.map inKeyOrder }

/-- The order of parameters does not matter. -/
theorem sameCall_inOrder (call : Call) : SameCall (inOrder call) call := by
  refine ⟨rfl, rfl, ?_⟩
  obtain ⟨name, function, parameters⟩ := call
  cases parameters with
  | none => exact .none
  | some parameters => exact .some (perm_inKeyOrder parameters)

/-- Parameters that are encoded are read back, in the order of their keys. -/
theorem textsOf?_parameterTrees {parameters : List (Bytes × Bytes)}
    (h : ∀ entry ∈ parameters, Utf8.isValid entry.1 = true ∧ Utf8.isValid entry.2 = true) :
    textsOf? (parameterTrees parameters) = some (inKeyOrder parameters) := by
  have hentries (entry : Bytes × Bytes) (hmem : entry ∈ inKeyOrder parameters) :=
    h entry ((perm_inKeyOrder parameters).mem_iff.1 hmem)
  unfold parameterTrees
  generalize inKeyOrder parameters = entries at hentries
  induction entries with
  | nil => rfl
  | cons entry entries ih =>
    obtain ⟨⟨hkey, hvalue⟩, hrest⟩ := List.forall_mem_cons.1 hentries
    rw [List.map_cons, textsOf?_cons, ih hrest]
    simp [textTree, textOf?, unquoted_escaped_of_isValid hkey, unquoted_escaped_of_isValid hvalue]

/-- A text that is not empty is read back. -/
theorem requiredIn?_of_textTree {field : Bytes} {members : List (Bytes × Json)} {text : Bytes}
    (hfield : fieldIn? field members = some (textTree text))
    (htext : text ≠ [] ∧ Utf8.isValid text = true) : requiredIn? field members = some text := by
  simp [requiredIn?, hfield, textTree, textOf?, unquoted_escaped_of_isValid htext.2, htext.1]

/-- The tree of a call stands for the call. -/
theorem callOf?_callTrees {call : Call} (h : call.IsEncodable) :
    callOf? (.object (callTrees call)) = some (inOrder call) := by
  obtain ⟨hname, hfunction, hparameters⟩ := fieldIn?_callTrees call
  have hgiven : parametersIn? (callTrees call) = some (call.parameters.map inKeyOrder) := by
    have hentries := h.entries
    rw [parametersIn?, hparameters]
    cases hsome : call.parameters with
    | none => rfl
    | some parameters =>
      rw [hsome] at hentries
      exact congrArg (Option.map some) (textsOf?_parameterTrees hentries)
  simp only [callOf?, requiredIn?_of_textTree hname h.name,
    requiredIn?_of_textTree hfunction h.function, hgiven]
  rfl

/-- A document that is encoded says the calls that were encoded. -/
theorem graphOf?_documentTrees {calls : Option (List Call)}
    (h : ∀ call ∈ calls.getD [], call.IsEncodable) :
    graphOf? (documentTrees calls) = some ⟨(calls.getD []).map inOrder⟩ := by
  rw [graphOf?, fieldIn?_documentTrees]
  cases calls with
  | none => rfl
  | some calls =>
    refine congrArg (Option.map Graph.mk) (mapM_eq_some_iff.2 ?_)
    rw [List.forall₂_map_left_iff]
    exact List.forall₂_map_right_iff.2 (List.forall₂_same.2 fun call hcall =>
      callOf?_callTrees (h call hcall))

/-- **Loading undoes encoding.** Calls that are written out, with or without white space between the
parts, are loaded as the same calls in the same order. -/
theorem load_encode {layout : Layout} (hlayout : layout.IsBlank) {calls : Option (List Call)}
    (hcalls : ∀ call ∈ calls.getD [], call.IsEncodable) {ending : Bytes}
    (hending : Json.Spaces ending) :
    ∃ graph, load (encode layout calls ++ ending) = .ok graph ∧
      SameGraph graph ⟨calls.getD []⟩ := by
  have hload := load_of_plain (spellsAlone_encode hlayout calls hending)
    (isPlain_documentTrees hcalls)
  rw [graphOf?_documentTrees hcalls] at hload
  refine ⟨_, hload, ?_⟩
  rw [SameGraph, List.forall₂_map_left_iff]
  exact List.forall₂_same.2 fun call _ => sameCall_inOrder call

namespace Sample

/-- A text with quotes, control characters, characters of markup, line separators and a character
outside the basic plane. -/
def hardText : Bytes :=
  bytes "\"\\/\x01\n\t\x7f<>&\u2028\u2029é" ++ Utf8.encode 8 ++ Utf8.encode 0x1F600

/-- Calls without parameters, with an empty map of them, and with hard texts. -/
def hardCalls : List Call :=
  [⟨bytes "a", bytes "f", none⟩, ⟨bytes "b", hardText, some []⟩,
    ⟨hardText, bytes "f", some [(hardText, []), ([], hardText), (bytes "k", bytes "a")]⟩]

/-- Calls with quotes, controls and many parameters, in lines. -/
theorem load_encoded_hardCalls :
    (Layout.lines [0x09] [0x20, 0x20]).IsBlank ∧
      (∀ call ∈ (some hardCalls).getD [], call.IsEncodable) ∧ Json.Spaces [0x0A] ∧
      ∃ graph, load (encode (.lines [0x09] [0x20, 0x20]) (some hardCalls) ++ [0x0A]) = .ok graph ∧
        SameGraph graph ⟨hardCalls⟩ := by
  have hlayout : (Layout.lines [0x09] [0x20, 0x20]).IsBlank := by
    simp [Layout.IsBlank, Json.Spaces, Json.Space]
  have hending : Json.Spaces [0x0A] := by simp [Json.Spaces, Json.Space]
  have hcalls : ∀ call ∈ (some hardCalls).getD [], call.IsEncodable := by
    simp only [hardCalls, Option.getD_some, List.forall_mem_cons]
    exact ⟨⟨by decide, by decide, by decide, by decide⟩,
      ⟨by decide, by decide, by decide, by decide⟩,
      ⟨by decide, by decide, by decide, by decide⟩, List.forall_mem_nil _⟩
  exact ⟨hlayout, hcalls, hending, load_encode hlayout hcalls hending⟩

end Sample

end Document

end FunctionChain
