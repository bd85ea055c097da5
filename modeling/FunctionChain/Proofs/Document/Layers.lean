import FunctionChain.Proofs.Document.Reading
import Mathlib.Data.List.DropRight
import Mathlib.Data.Option.Basic

/-!
# Documents that give a field again

Where a document gives its calls more than once, each array is read over the one before it place by
place. So a call is told by a *stack*: the members of all elements that stood in its place since the
calls were last forgotten, one element after the other. What the last element does not give stays as
an earlier one gave it (`Tells`). A call comes from its own element exactly when that element
mentions all that the call has; in particular it does when there is one array only
(`calls_told_by_stacks`).
-/

namespace FunctionChain

namespace Document

/-! ## Values that are given -/

/-- The values that members give to a field, in order. -/
def givenTo (field : Bytes) (members : List (Bytes × Json)) : List Json :=
  (members.filter (names field)).map (·.2)

/-- The elements of an array. -/
def itemsOf : Json → List Json
  | .array items => items
  | _ => []

/-- The members of a value, if it is an object. -/
def object? : Json → Option (List (Bytes × Json))
  | .object members => some members
  | _ => none

/-- The members of an object. -/
def membersOf (value : Json) : List (Bytes × Json) := (object? value).getD []

def isNull : Json → Bool
  | .null => true
  | _ => false

/-- The last text that members give to a field. -/
def lastText? (field : Bytes) (members : List (Bytes × Json)) : Option Bytes :=
  ((givenTo field members).filterMap textOf?).getLast?

/-- The objects of parameters that members give, since the last `null`. -/
def parameterObjects (members : List (Bytes × Json)) : List (List (Bytes × Json)) :=
  ((givenTo (bytes "parameters") members).rtakeWhile (!isNull ·)).filterMap object?

/-- The value of the last entry with a key. -/
def lastValue? (key : Bytes) (entries : List (Bytes × Json)) : Option Json :=
  ((entries.filter fun entry => Json.unquoted entry.1 == key).map (·.2)).getLast?

/-- `Tells members call`: read in order, the members give the call. The last text counts, and of
parameters the last entry for each key since the last `null`. -/
structure Tells (members : List (Bytes × Json)) (call : Call) : Prop where
  name : lastText? (bytes "name") members = some call.name
  function : lastText? (bytes "function") members = some call.function
  without : call.parameters = none ↔ parameterObjects members = []
  once : ((call.parameters.getD []).map (·.1)).Nodup
  parameters : ∀ key text, (key, text) ∈ call.parameters.getD [] ↔
    (lastValue? key (parameterObjects members).flatten).bind textOf? = some text

/-- What two lists of members give to a field is given one after the other. -/
theorem givenTo_append (field : Bytes) (first second : List (Bytes × Json)) :
    givenTo field (first ++ second) = givenTo field first ++ givenTo field second := by
  simp [givenTo]

/-- A member that names a field gives it its value. -/
theorem givenTo_of_names {field : Bytes} {member : Bytes × Json} (h : names field member = true) :
    givenTo field [member] = [member.2] := by
  simp [givenTo, h]

/-- A member that names another field gives nothing. -/
theorem givenTo_of_not_names {field : Bytes} {member : Bytes × Json}
    (h : names field member = false) : givenTo field [member] = [] := by
  simp [givenTo, h]

/-- What is given to a field is the value of a member that names it. -/
theorem mem_givenTo_iff {field : Bytes} {members : List (Bytes × Json)} {value : Json} :
    value ∈ givenTo field members ↔
      ∃ member ∈ members, names field member = true ∧ member.2 = value := by
  simp [givenTo, and_assoc]

/-- The last text of two lists is that of the second, or else that of the first. -/
theorem lastText?_append (field : Bytes) (first second : List (Bytes × Json)) :
    lastText? field (first ++ second) = (lastText? field second).or (lastText? field first) := by
  rw [lastText?, givenTo_append, List.filterMap_append, List.getLast?_append]
  rfl

/-- The last value of two lists is that of the second, or else that of the first. -/
theorem lastValue?_append (key : Bytes) (first second : List (Bytes × Json)) :
    lastValue? key (first ++ second) = (lastValue? key second).or (lastValue? key first) := by
  rw [lastValue?, List.filter_append, List.map_append, List.getLast?_append]
  rfl

/-! ## Stacks -/

/-- The elements of the last array of calls. There are none if `null` was given last. -/
def lastItems (members : List (Bytes × Json)) : List Json :=
  (givenTo (bytes "functions") members).getLast?.elim [] itemsOf

/-- The arrays of calls that are read over each other: those since the last empty one or `null`. -/
def layers (members : List (Bytes × Json)) : List (List Json) :=
  ((givenTo (bytes "functions") members).map itemsOf).rtakeWhile (!·.isEmpty)

/-- The members of all elements at one place. -/
def stack (layers : List (List Json)) (place : Nat) : List (Bytes × Json) :=
  layers.flatMap fun items => items[place]?.elim [] membersOf

/-! ## Reading parameters over each other -/

/-- One entry read into parameters. -/
def parameterStep (reading : Json.Reading (List (Bytes × Option Bytes))) (member : Bytes × Json) :
    Json.Reading (List (Bytes × Option Bytes)) :=
  ⟨setParameter reading.value (Json.unquoted member.1) (readParameter member.2).value,
    reading.finding <|> (readParameter member.2).finding⟩

/-- Parameters are read step by step. -/
theorem readParameters_eq (old : List (Bytes × Option Bytes)) (members : List (Bytes × Json)) :
    readParameters old members = members.foldl parameterStep ⟨old, none⟩ := rfl

/-- What is read does not depend on what has been found. -/
theorem value_foldl_parameterStep (reading : Json.Reading (List (Bytes × Option Bytes)))
    (members : List (Bytes × Json)) :
    (members.foldl parameterStep reading).value = (readParameters reading.value members).value := by
  rw [readParameters_eq]
  generalize (none : Option Json.Finding) = finding
  induction members generalizing reading finding with
  | nil => rfl
  | cons member members ih =>
    rw [List.foldl_cons, List.foldl_cons, ih _ (parameterStep _ member).finding]
    rfl

/-- The parameters of two lists are those of the second read over those of the first. -/
theorem value_readParameters_append (old : List (Bytes × Option Bytes))
    (first second : List (Bytes × Json)) :
    (readParameters old (first ++ second)).value
      = (readParameters (readParameters old first).value second).value := by
  rw [readParameters_eq, List.foldl_append, value_foldl_parameterStep, ← readParameters_eq]

/-- A key that is there already gets the value in its place. -/
theorem setParameter_of_old {parameters : List (Bytes × Option Bytes)} {key : Bytes}
    (h : key ∈ parameters.map (·.1)) (value : Option Bytes) :
    setParameter parameters key value
      = parameters.map fun entry => if entry.1 == key then (entry.1, value) else entry := by
  obtain ⟨entry, hmem, rfl⟩ := List.mem_map.1 h
  have hany : parameters.any (·.1 == entry.1) = true :=
    List.any_eq_true.2 ⟨entry, hmem, beq_self_eq_true _⟩
  rw [setParameter, if_pos hany]

/-- Setting a parameter changes the value of its key and no other. -/
theorem mem_setParameter_iff {parameters : List (Bytes × Option Bytes)} {key other : Bytes}
    {value otherValue : Option Bytes} :
    (other, otherValue) ∈ setParameter parameters key value ↔
      if other = key then otherValue = value else (other, otherValue) ∈ parameters := by
  by_cases hold : key ∈ parameters.map (·.1)
  · obtain ⟨⟨key, oldValue⟩, hentry, rfl⟩ := List.mem_map.1 hold
    rw [setParameter_of_old hold, List.mem_map]
    constructor
    · rintro ⟨⟨entryKey, entryValue⟩, hmem, heq⟩
      grind
    · intro h
      split at h
      · next hkey =>
        subst hkey h
        exact ⟨_, hentry, by simp⟩
      · next hkey => exact ⟨_, h, by simp [hkey]⟩
  · rw [setParameter_of_new hold, List.mem_append, List.mem_singleton, Prod.mk.injEq]
    split
    · next hkey =>
      subst hkey
      have hnot : (other, otherValue) ∉ parameters := fun h => hold (List.mem_map_of_mem h)
      simp [hnot]
    · next hkey => simp [hkey]

/-- Setting a parameter repeats no key. -/
theorem nodup_setParameter {parameters : List (Bytes × Option Bytes)} {key : Bytes}
    {value : Option Bytes} (h : (parameters.map (·.1)).Nodup) :
    ((setParameter parameters key value).map (·.1)).Nodup := by
  by_cases hold : key ∈ parameters.map (·.1)
  · have hkeys : (setParameter parameters key value).map (·.1) = parameters.map (·.1) := by
      rw [setParameter_of_old hold, List.map_map]
      refine List.map_congr_left fun entry _ => ?_
      dsimp only [Function.comp_apply]
      split <;> rfl
    rwa [hkeys]
  · rw [setParameter_of_new hold, List.map_append]
    exact List.Nodup.append h (List.nodup_singleton _) (by simpa using hold)

/-- Of the entries for a key the last is kept. -/
theorem mem_readParameters_iff {entries : List (Bytes × Json)} {key : Bytes}
    {value : Option Bytes} :
    (key, value) ∈ (readParameters [] entries).value ↔
      (lastValue? key entries).map (fun entry => (readParameter entry).value) = some value := by
  induction entries using List.reverseRecOn with
  | nil => simp [readParameters, lastValue?]
  | append_singleton entries entry ih =>
    have hlast : (readParameters (readParameters [] entries).value [entry]).value
        = setParameter (readParameters [] entries).value (Json.unquoted entry.1)
          (readParameter entry.2).value := rfl
    rw [value_readParameters_append, lastValue?_append, hlast, mem_setParameter_iff, ih]
    by_cases hkey : key = Json.unquoted entry.1
    · simp [lastValue?, hkey, eq_comm]
    · simp [lastValue?, hkey, Ne.symm hkey]

/-- Parameters are read without a key that stands twice. -/
theorem nodup_readParameters (entries : List (Bytes × Json)) :
    ((readParameters [] entries).value.map (·.1)).Nodup := by
  induction entries using List.reverseRecOn with
  | nil => exact List.nodup_nil
  | append_singleton entries entry ih =>
    rw [value_readParameters_append]
    exact nodup_setParameter ih

/-- Parameters that are taken for texts are texts. -/
theorem parameterTexts_eq_ok {entries : List (Bytes × Option Bytes)}
    {texts : List (Bytes × Bytes)} (h : parameterTexts entries = .ok texts) :
    entries = texts.map fun entry => (entry.1, some entry.2) := by
  induction entries generalizing texts with
  | nil => cases h; rfl
  | cons entry entries ih =>
    obtain ⟨key, value⟩ := entry
    cases value with
    | none => cases h
    | some text =>
      rw [parameterTexts] at h
      split at h
      · next hrest => cases h; rw [ih hrest]; rfl
      · cases h

/-! ## Reading the members of a stack -/

/-- The call after members have been read into it. -/
def filled (call : WireCall) (members : List (Bytes × Json)) : WireCall :=
  (members.foldl callStep ⟨call, none⟩).value

/-- A call is filled from its members, whether or not one of them does not fit. -/
theorem value_foldl_callStep (reading : Json.Reading WireCall) (members : List (Bytes × Json)) :
    (members.foldl callStep reading).value = filled reading.value members := by
  unfold filled
  generalize (none : Option Json.Finding) = finding
  induction members generalizing reading finding with
  | nil => rfl
  | cons member members ih =>
    have hvalue : (callStep ⟨reading.value, finding⟩ member).value
        = (callStep reading member).value := by
      unfold callStep
      split <;> rfl
    rw [List.foldl_cons, List.foldl_cons, ih _ (callStep ⟨reading.value, finding⟩ member).finding,
      ← hvalue]

/-- A call is filled from two lists of members one after the other. -/
theorem filled_append (call : WireCall) (first second : List (Bytes × Json)) :
    filled call (first ++ second) = filled (filled call first) second := by
  rw [filled, List.foldl_append, value_foldl_callStep]
  rfl

/-- A call is filled from the members of its item. -/
theorem value_readCall (old : WireCall) (item : Json) :
    (readCall old item).value = filled old (membersOf item) := by
  cases item <;> rfl

/-- A single member gives nothing twice. -/
theorem givesOnce_singleton (fields : List Bytes) (member : Bytes × Json) :
    GivesOnce fields [member] := fun _ _ => List.pairwise_singleton _ _

/-- The last member is read into what the others gave. -/
theorem filled_concat (call : WireCall) (members : List (Bytes × Json)) (member : Bytes × Json) :
    filled call (members ++ [member]) = callAfter (filled call members) [member] := by
  rw [filled_append]
  exact (foldl_callStep (givesOnce_singleton _ member) _).1

/-- The last text of a single member is its own, if it names the field. -/
theorem lastText?_singleton (field : Bytes) (member : Bytes × Json) :
    lastText? field [member] = (fieldIn? field [member]).bind textOf? := by
  cases hnames : names field member with
  | true =>
    rw [fieldIn?_cons_of_names hnames, lastText?, givenTo_of_names hnames]
    cases htext : textOf? member.2 <;> simp [htext]
  | false =>
    rw [fieldIn?_cons_of_not_names hnames, lastText?, givenTo_of_not_names hnames]
    rfl

/-- The last text that a stack gives is the one that is read. -/
theorem filled_name (call : WireCall) (members : List (Bytes × Json)) :
    (filled call members).name = (lastText? (bytes "name") members).getD call.name ∧
      (filled call members).function
        = (lastText? (bytes "function") members).getD call.function := by
  induction members using List.reverseRecOn with
  | nil => exact ⟨rfl, rfl⟩
  | append_singleton members member ih =>
    rw [filled_concat, lastText?_append, lastText?_append, lastText?_singleton,
      lastText?_singleton, Option.getD_or, Option.getD_or, ← ih.1, ← ih.2]
    exact ⟨rfl, rfl⟩

/-- One more member adds its parameters, or starts anew after a null. -/
theorem parameterObjects_concat (members : List (Bytes × Json)) (member : Bytes × Json) :
    parameterObjects (members ++ [member]) =
      match fieldIn? (bytes "parameters") [member] with
      | none => parameterObjects members
      | some .null => []
      | some (.object parameters) => parameterObjects members ++ [parameters]
      | some _ => parameterObjects members := by
  unfold parameterObjects
  rw [givenTo_append]
  cases hnames : names (bytes "parameters") member with
  | false =>
    rw [fieldIn?_cons_of_not_names hnames, givenTo_of_not_names hnames, List.append_nil]
    rfl
  | true =>
    rw [fieldIn?_cons_of_names hnames, givenTo_of_names hnames]
    cases member.2 <;> simp [isNull, object?]

/-- The parameters that are read are those of the objects since the last `null`. -/
theorem filled_parameters (members : List (Bytes × Json)) :
    (filled .blank members).parameters =
      if parameterObjects members = [] then none
      else some (readParameters [] (parameterObjects members).flatten).value := by
  induction members using List.reverseRecOn with
  | nil => rfl
  | append_singleton members member ih =>
    have hparameters : (filled .blank (members ++ [member])).parameters
        = (fieldIn? (bytes "parameters") [member]).elim (filled .blank members).parameters
          (parametersAfter (filled .blank members).parameters) := by
      rw [filled_concat]
      rfl
    rw [hparameters, parameterObjects_concat, ih]
    cases fieldIn? (bytes "parameters") [member] with
    | none => rfl
    | some value =>
      cases value with
      | null => rfl
      | object parameters =>
        by_cases hnone : parameterObjects members = []
        · simp [hnone, parametersAfter]
        · simp [hnone, parametersAfter, value_readParameters_append]
      | _ => rfl

/-- All that members give to the fields of a call has the types of the fields. -/
def AllFit (members : List (Bytes × Json)) : Prop :=
  ∀ field ∈ callFields, ∀ value ∈ givenTo field members, fits field value

/-- A member fits just if everything that it gives fits. -/
theorem fits_iff_givenTo (member : Bytes × Json) : Fits [member] ↔ AllFit [member] := by
  refine forall₂_congr fun field _ => ?_
  cases hnames : names field member with
  | true => simp [fieldIn?_cons_of_names hnames, givenTo_of_names hnames]
  | false =>
    rw [fieldIn?_cons_of_not_names hnames, givenTo_of_not_names hnames]
    simp [fieldIn?]

/-- Where nothing is found wrong, all has the right type. -/
theorem allFit_of_finding {reading : Json.Reading WireCall} {members : List (Bytes × Json)}
    (h : (members.foldl callStep reading).finding = none) :
    reading.finding = none ∧ AllFit members := by
  induction members using List.reverseRecOn with
  | nil => exact ⟨h, fun _ _ _ hvalue => nomatch hvalue⟩
  | append_singleton members member ih =>
    rw [List.foldl_append, (foldl_callStep (givesOnce_singleton _ member) _).2,
      fits_iff_givenTo] at h
    obtain ⟨hreading, hmembers⟩ := ih h.1
    refine ⟨hreading, fun field hfield value hvalue => ?_⟩
    rw [givenTo_append, List.mem_append] at hvalue
    exact hvalue.elim (hmembers field hfield value) (h.2 field hfield value)

/-- Objects of parameters are given to the field of parameters. -/
theorem mem_parameterObjects {members parameters : List (Bytes × Json)}
    (h : parameters ∈ parameterObjects members) :
    .object parameters ∈ givenTo (bytes "parameters") members := by
  obtain ⟨value, hmem, hvalue⟩ := List.mem_filterMap.1 h
  cases value with
  | object members =>
    cases hvalue
    exact (List.rtakeWhile_suffix _ _).mem hmem
  | _ => cases hvalue

/-- A parameter was given by one of the objects. -/
theorem exists_given_of_mem_flatten {members : List (Bytes × Json)} {entry : Bytes × Json}
    (h : entry ∈ (parameterObjects members).flatten) :
    ∃ given ∈ givenTo (bytes "parameters") members, entry ∈ membersOf given := by
  obtain ⟨parameters, hparameters, hentry⟩ := List.mem_flatten.1 h
  exact ⟨_, mem_parameterObjects hparameters, hentry⟩

/-- The last value of a key is the value of an entry with that key. -/
theorem mem_of_lastValue? {key : Bytes} {entries : List (Bytes × Json)} {value : Json}
    (h : lastValue? key entries = some value) :
    ∃ entry ∈ entries, Json.unquoted entry.1 = key ∧ entry.2 = value := by
  obtain ⟨entry, hmem, rfl⟩ := List.mem_map.1 (List.mem_of_getLast? h)
  obtain ⟨hentry, hkey⟩ := List.mem_filter.1 hmem
  exact ⟨entry, hentry, by simpa using hkey, rfl⟩

/-- A call that is taken is the one that its stack tells. -/
theorem tells_of_checkCall {members : List (Bytes × Json)} {call : Call} {index : Nat}
    (hfit : AllFit members) (h : checkCall index (filled .blank members) = .ok call) :
    Tells members call := by
  obtain ⟨⟨hname, hnamed⟩, ⟨hfunction, hfunctioned⟩, htaken⟩ := checkCall_eq_ok_iff.1 h
  have hlast {field text : Bytes} (hread : (lastText? field members).getD [] = text)
      (htext : text ≠ []) : lastText? field members = some text := by
    cases hlast : lastText? field members with
    | none =>
      rw [hlast] at hread
      exact absurd hread.symm htext
    | some last =>
      rw [hlast] at hread
      exact congrArg some hread
  -- What fits is a text or null, and is read as what it says.
  have hentry {key : Bytes} {value : Json}
      (hvalue : lastValue? key (parameterObjects members).flatten = some value) :
      (readParameter value).value = textOf? value := by
    obtain ⟨entry, hentry, -, rfl⟩ := mem_of_lastValue? hvalue
    obtain ⟨parameters, hparameters, hentry⟩ := List.mem_flatten.1 hentry
    have hfits : (readParameters [] parameters).finding = none :=
      hfit (bytes "parameters") (by decide) _ (mem_parameterObjects hparameters)
    have hfinding := finding_readParameters.1 hfits entry hentry
    cases hvalue : entry.2 with
    | string written => rfl
    | null => rfl
    | _ =>
      rw [hvalue] at hfinding
      cases hfinding
  obtain ⟨hreadName, hreadFunction⟩ := filled_name .blank members
  have hnameTold := hlast (hreadName.symm.trans hname) hnamed
  have hfunctionTold := hlast (hreadFunction.symm.trans hfunction) hfunctioned
  rw [filled_parameters] at htaken
  by_cases hnone : parameterObjects members = []
  · rw [if_pos hnone] at htaken
    have hwithout : call.parameters = none := by
      cases hparameters : call.parameters with
      | none => rfl
      | some texts =>
        rw [hparameters] at htaken
        exact htaken.elim
    exact ⟨hnameTold, hfunctionTold, by simp [hwithout, hnone], by simp [hwithout],
      by simp [hwithout, hnone, lastValue?]⟩
  · rw [if_neg hnone] at htaken
    cases hparameters : call.parameters with
    | none =>
      rw [hparameters] at htaken
      exact htaken.elim
    | some texts =>
      rw [hparameters] at htaken
      have htexts := parameterTexts_eq_ok htaken
      have hmem (key text : Bytes) :
          (key, some text) ∈ texts.map (fun entry => (entry.1, some entry.2)) ↔
            (key, text) ∈ texts := by simp
      refine ⟨hnameTold, hfunctionTold, by simp [hparameters, hnone], ?_, fun key text => ?_⟩
      · have hkeys := nodup_readParameters (parameterObjects members).flatten
        rw [htexts, List.map_map] at hkeys
        rw [hparameters]
        exact hkeys
      · rw [hparameters, Option.getD_some, ← hmem, ← htexts, mem_readParameters_iff]
        cases hvalue : lastValue? key (parameterObjects members).flatten with
        | none => simp
        | some value => simp [hentry hvalue]

/-! ## Reading arrays over each other -/

/-- Calls after the elements of an array have been read over them. -/
def overlay (old : List WireCall) : List Json → List WireCall
  | [] => old
  | item :: items => filled (old.headD .blank) (membersOf item) :: overlay old.tail items

/-- The call at a place, whether it is of the last array or was cut off by it. -/
def slot (calls : WireCalls) (place : Nat) : WireCall :=
  (calls.current ++ calls.cutOff)[place]?.getD .blank

/-- In an overlay each place is filled from the item there, over the call that was there before. -/
theorem getElem?_overlay (old : List WireCall) (items : List Json) (place : Nat) :
    (overlay old items)[place]?.getD .blank
      = filled (old[place]?.getD .blank) (items[place]?.elim [] membersOf) := by
  induction items generalizing old place with
  | nil => rfl
  | cons item items ih =>
    cases place with
    | zero => simp [overlay, List.headD_eq_head?_getD, List.head?_eq_getElem?]
    | succ place => simp [overlay, ih]

/-- Reading calls over old ones lays the items over them, and what is cut off comes after. -/
theorem value_readCallsOver (old done : List WireCall) (finding : Option Json.Finding)
    (items : List Json) :
    (readCallsOver old done finding items).value.current.length = done.length + items.length ∧
      (readCallsOver old done finding items).value.current
          ++ (readCallsOver old done finding items).value.cutOff
        = done.reverse ++ overlay old items := by
  induction items generalizing old done finding with
  | nil => simp [readCallsOver, overlay]
  | cons item items ih =>
    rw [readCallsOver, (ih _ _ _).1, (ih _ _ _).2, value_readCall]
    simp [overlay]
    omega

/-- A call that is read without a finding has members that fit. -/
theorem allFit_of_readCall {old : WireCall} {item : Json}
    (h : (readCall old item).finding = none) : AllFit (membersOf item) := by
  cases item with
  | object members => exact (allFit_of_finding h).2
  | _ => exact fun _ _ _ hvalue => nomatch hvalue

/-- Calls that are read without a finding have members that fit. -/
theorem allFit_of_readCallsOver {old done : List WireCall} {finding : Option Json.Finding}
    {items : List Json} (h : (readCallsOver old done finding items).finding = none) :
    finding = none ∧ ∀ item ∈ items, AllFit (membersOf item) := by
  induction items generalizing old done finding with
  | nil => exact ⟨h, List.forall_mem_nil _⟩
  | cons item items ih =>
    obtain ⟨hfinding, hitems⟩ := ih h
    rw [Option.orElse_eq_none] at hfinding
    exact ⟨hfinding.1, List.forall_mem_cons.2 ⟨allFit_of_readCall hfinding.2, hitems⟩⟩

/-! ## Reading documents -/

/-- What is known of the calls that members have been read into: there is one for each element of
the last array, and each is told by its stack. -/
structure Holds (members : List (Bytes × Json)) (calls : WireCalls) : Prop where
  length : calls.current.length = (lastItems members).length
  slots : ∀ place, slot calls place = filled .blank (stack (layers members) place)
  fit : ∀ items ∈ layers members, ∀ item ∈ items, AllFit (membersOf item)

/-- The last member for functions gives the items that count. -/
theorem lastItems_concat (members : List (Bytes × Json)) {member : Bytes × Json}
    (h : names (bytes "functions") member = true) :
    lastItems (members ++ [member]) = itemsOf member.2 := by
  simp [lastItems, givenTo_append, givenTo_of_names h]

/-- One more member for functions is one more layer, and an empty one takes all layers away. -/
theorem layers_concat (members : List (Bytes × Json)) {member : Bytes × Json}
    (h : names (bytes "functions") member = true) :
    layers (members ++ [member])
      = if (itemsOf member.2).isEmpty then [] else layers members ++ [itemsOf member.2] := by
  rw [layers, givenTo_append, givenTo_of_names h, List.map_append, List.map_singleton,
    List.rtakeWhile_concat]
  cases (itemsOf member.2).isEmpty <;> rfl

/-- One more layer adds what it has at a place. -/
theorem stack_concat (layers : List (List Json)) (items : List Json) (place : Nat) :
    stack (layers ++ [items]) place = stack layers place ++ items[place]?.elim [] membersOf := by
  simp [stack]

/-- A reader that has forgotten all layers holds nothing. -/
theorem Holds.forget {members : List (Bytes × Json)} (hitems : lastItems members = [])
    (hlayers : layers members = []) : Holds members .none where
  length := by rw [hitems]; rfl
  slots := by rw [hlayers]; exact fun _ => rfl
  fit := by rw [hlayers]; exact List.forall_mem_nil _

/-- One more array is read over the calls there are. -/
theorem Holds.concat {members : List (Bytes × Json)} {calls : WireCalls} (h : Holds members calls)
    {member : Bytes × Json} (hnames : names (bytes "functions") member = true)
    (hfinding : (readCalls calls member.2).finding = none) :
    Holds (members ++ [member]) (readCalls calls member.2).value := by
  have hitems := lastItems_concat members hnames
  have hlayers := layers_concat members hnames
  generalize member.2 = value at hfinding hitems hlayers
  match value with
  | .null => exact .forget hitems hlayers
  | .array [] => exact .forget hitems hlayers
  | .array (item :: items) =>
    obtain ⟨hlength, hcalls⟩ :=
      value_readCallsOver (calls.current ++ calls.cutOff) [] none (item :: items)
    obtain ⟨-, hfit⟩ := allFit_of_readCallsOver hfinding
    have hlayers : layers (members ++ [member]) = layers members ++ [item :: items] := hlayers
    refine ⟨?_, fun place => ?_, ?_⟩
    · rw [hitems]
      exact hlength.trans (Nat.zero_add _)
    · rw [hlayers, stack_concat, filled_append, ← h.slots, slot, slot, ← getElem?_overlay]
      exact congrArg (fun calls => calls[place]?.getD .blank) hcalls
    · rw [hlayers]
      exact List.forall_mem_append.2 ⟨h.fit, List.forall_mem_singleton.2 hfit⟩
  | .bool _ | .number _ | .string _ | .object _ => cases hfinding

/-- The members of a document are read step by step. -/
theorem readMembers_eq_foldl (members : List (Bytes × Json)) :
    readMembers members = members.foldl documentStep ⟨.none, none⟩ := rfl

/-- Members that are read without a finding are told by their stacks. -/
theorem holds_readMembers {members : List (Bytes × Json)}
    (h : (readMembers members).finding = none) : Holds members (readMembers members).value := by
  rw [readMembers_eq_foldl] at h ⊢
  induction members using List.reverseRecOn with
  | nil => exact .forget rfl rfl
  | append_singleton members member ih =>
    rw [List.foldl_append, List.foldl_cons, List.foldl_nil] at h ⊢
    cases hnames : names (bytes "functions") member with
    | true =>
      rw [documentStep_of_names hnames] at h ⊢
      obtain ⟨hmembers, hmember⟩ := (Option.orElse_eq_none _ _).1 h
      exact (ih hmembers).concat hnames hmember
    | false =>
      rw [documentStep_of_unknown hnames] at h ⊢
      obtain ⟨hlength, hslots, hfit⟩ := ih h
      have hgiven : givenTo (bytes "functions") (members ++ [member])
          = givenTo (bytes "functions") members := by
        rw [givenTo_append, givenTo_of_not_names hnames, List.append_nil]
      have hitems : lastItems (members ++ [member]) = lastItems members := by
        rw [lastItems, hgiven]
        rfl
      have hlayers : layers (members ++ [member]) = layers members := by
        rw [layers, hgiven]
        rfl
      exact ⟨hitems ▸ hlength, hlayers ▸ hslots, hlayers ▸ hfit⟩

/-- What is stacked fits if all layers fit. -/
theorem allFit_stack {layers : List (List Json)}
    (h : ∀ items ∈ layers, ∀ item ∈ items, AllFit (membersOf item)) (place : Nat) :
    AllFit (stack layers place) := by
  intro field hfield value hvalue
  obtain ⟨member, hmember, hnames, rfl⟩ := mem_givenTo_iff.1 hvalue
  obtain ⟨items, hitems, hmember⟩ := List.mem_flatMap.1 hmember
  cases hitem : items[place]? with
  | none =>
    rw [hitem] at hmember
    cases hmember
  | some item =>
    rw [hitem] at hmember
    exact h items hitems item (List.mem_of_getElem? hitem) field hfield _
      (mem_givenTo_iff.2 ⟨member, hmember, hnames, rfl⟩)

/-! ## What comes from the last array -/

/-- `ComesFrom item call`: the name, the function and each parameter of the call is given by a
member inside the element. -/
structure ComesFrom (item : Json) (call : Call) : Prop where
  name : ∃ value ∈ givenTo (bytes "name") (membersOf item), textOf? value = some call.name
  function : ∃ value ∈ givenTo (bytes "function") (membersOf item),
    textOf? value = some call.function
  parameters : ∀ key text, (key, text) ∈ call.parameters.getD [] →
    ∃ value ∈ givenTo (bytes "parameters") (membersOf item), ∃ entry ∈ membersOf value,
      Json.unquoted entry.1 = key ∧ textOf? entry.2 = some text

/-- `Mentions item call`: the element gives some name, some function, and something for every key
that the call has. -/
structure Mentions (item : Json) (call : Call) : Prop where
  name : ∃ value ∈ givenTo (bytes "name") (membersOf item), (textOf? value).isSome
  function : ∃ value ∈ givenTo (bytes "function") (membersOf item), (textOf? value).isSome
  parameters : ∀ key text, (key, text) ∈ call.parameters.getD [] →
    ∃ value ∈ givenTo (bytes "parameters") (membersOf item), ∃ entry ∈ membersOf value,
      Json.unquoted entry.1 = key

/-- A last text was given by a member. -/
theorem exists_of_lastText? {field text : Bytes} {members : List (Bytes × Json)}
    (h : lastText? field members = some text) :
    ∃ value ∈ givenTo field members, textOf? value = some text :=
  List.mem_filterMap.1 (List.mem_of_getLast? h)

/-- If the later members give a text at all, the last one is of them. -/
theorem exists_of_lastText?_append {field text : Bytes} {older own : List (Bytes × Json)}
    (h : lastText? field (older ++ own) = some text)
    (hown : ∃ value ∈ givenTo field own, (textOf? value).isSome) :
    ∃ value ∈ givenTo field own, textOf? value = some text := by
  rw [lastText?_append] at h
  cases hlast : lastText? field own with
  | some last =>
    rw [hlast] at h
    cases h
    exact exists_of_lastText? hlast
  | none =>
    obtain ⟨value, hmem, hsome⟩ := hown
    obtain ⟨last, hvalue⟩ := Option.isSome_iff_exists.1 hsome
    have hnone := List.getLast?_eq_none_iff.1 hlast
    exact absurd (List.mem_filterMap.2 ⟨value, hmem, hvalue⟩) (hnone ▸ List.not_mem_nil)

/-- What is taken from the end of two lists is taken from the second, and from the first just if all
of the second was. -/
theorem rtakeWhile_append {α : Type} (p : α → Bool) (first second : List α) :
    (first ++ second).rtakeWhile p = second.rtakeWhile p ∨
      second.rtakeWhile p = second ∧
        (first ++ second).rtakeWhile p = first.rtakeWhile p ++ second := by
  unfold List.rtakeWhile
  rw [List.reverse_append, List.takeWhile_append]
  split
  · next hlength =>
    have hall := (List.takeWhile_prefix p).eq_of_length hlength
    exact .inr ⟨by rw [hall, List.reverse_reverse], by simp⟩
  · exact .inl rfl

/-- Members before others matter for the parameters only if those give no `null`. -/
theorem parameterObjects_append (older own : List (Bytes × Json)) :
    parameterObjects (older ++ own) = parameterObjects own ∨
      parameterObjects own = (givenTo (bytes "parameters") own).filterMap object? ∧
        parameterObjects (older ++ own) = parameterObjects older ++ parameterObjects own := by
  unfold parameterObjects
  rw [givenTo_append]
  rcases rtakeWhile_append (!isNull ·) (givenTo (bytes "parameters") older)
    (givenTo (bytes "parameters") own) with heq | ⟨hown, heq⟩
  · exact .inl (by rw [heq])
  · exact .inr ⟨by rw [hown], by rw [heq, hown, List.filterMap_append]⟩

/-- If the later members mention a key at all, its last entry is of them. -/
theorem exists_of_lastValue?_append {key : Bytes} {value : Json} {older own : List (Bytes × Json)}
    (h : lastValue? key (parameterObjects (older ++ own)).flatten = some value)
    (hown : ∃ given ∈ givenTo (bytes "parameters") own, ∃ entry ∈ membersOf given,
      Json.unquoted entry.1 = key) :
    ∃ entry ∈ (parameterObjects own).flatten, Json.unquoted entry.1 = key ∧ entry.2 = value := by
  rcases parameterObjects_append older own with heq | ⟨hall, heq⟩
  · rw [heq] at h
    exact mem_of_lastValue? h
  · rw [heq, List.flatten_append, lastValue?_append] at h
    cases hlast : lastValue? key (parameterObjects own).flatten with
    | some last =>
      rw [hlast] at h
      cases h
      exact mem_of_lastValue? hlast
    | none =>
      obtain ⟨given, hgiven, entry, hentry, hkey⟩ := hown
      cases given with
      | object parameters =>
        have hmem : entry ∈ (parameterObjects own).flatten := by
          rw [hall]
          exact List.mem_flatten.2
            ⟨parameters, List.mem_filterMap.2 ⟨_, hgiven, rfl⟩, hentry⟩
        have hnone := List.map_eq_nil_iff.1 (List.getLast?_eq_none_iff.1 hlast)
        have hkeyed := List.filter_eq_nil_iff.1 hnone entry hmem
        exact absurd (beq_iff_eq.2 hkey) hkeyed
      | _ => cases hentry

/-- A call comes from its own element if that mentions all that the call has, whatever stood in its
place before. -/
theorem Mentions.comesFrom {older : List (Bytes × Json)} {item : Json} {call : Call}
    (h : Mentions item call) (htold : Tells (older ++ membersOf item) call) :
    ComesFrom item call where
  name := exists_of_lastText?_append htold.name h.name
  function := exists_of_lastText?_append htold.function h.function
  parameters := by
    intro key text hmem
    obtain ⟨value, hvalue, htext⟩ :=
      Option.bind_eq_some_iff.1 ((htold.parameters key text).1 hmem)
    obtain ⟨entry, hentry, hkey, rfl⟩ :=
      exists_of_lastValue?_append hvalue (h.parameters key text hmem)
    obtain ⟨given, hgiven, hentry⟩ := exists_given_of_mem_flatten hentry
    exact ⟨given, hgiven, entry, hentry, hkey, htext⟩

/-- A call that comes from an item is mentioned by it. -/
theorem ComesFrom.mentions {item : Json} {call : Call} (h : ComesFrom item call) :
    Mentions item call where
  name := by
    obtain ⟨value, hmem, hvalue⟩ := h.name
    exact ⟨value, hmem, by rw [hvalue]; rfl⟩
  function := by
    obtain ⟨value, hmem, hvalue⟩ := h.function
    exact ⟨value, hmem, by rw [hvalue]; rfl⟩
  parameters := by
    intro key text hmem
    obtain ⟨value, hvalue, entry, hentry, hkey, -⟩ := h.parameters key text hmem
    exact ⟨value, hvalue, entry, hentry, hkey⟩

/-- A call that its own element tells alone comes from it. -/
theorem Tells.comesFrom {item : Json} {call : Call} (h : Tells (membersOf item) call) :
    ComesFrom item call where
  name := exists_of_lastText? h.name
  function := exists_of_lastText? h.function
  parameters := by
    intro key text hmem
    obtain ⟨value, hvalue, htext⟩ := Option.bind_eq_some_iff.1 ((h.parameters key text).1 hmem)
    obtain ⟨entry, hentry, hkey, rfl⟩ := mem_of_lastValue? hvalue
    obtain ⟨given, hgiven, hentry⟩ := exists_given_of_mem_flatten hentry
    exact ⟨given, hgiven, entry, hentry, hkey, htext⟩

/-- The last array is the topmost layer. -/
theorem exists_layers_eq {members : List (Bytes × Json)} (h : lastItems members ≠ []) :
    ∃ earlier, layers members = earlier ++ [lastItems members] := by
  unfold lastItems layers at *
  rcases List.eq_nil_or_concat' (givenTo (bytes "functions") members) with hnil | ⟨given, last, heq⟩
  · simp [hnil] at h
  · rw [heq, List.getLast?_concat] at h ⊢
    rw [List.map_append, List.map_singleton, List.rtakeWhile_concat_pos _ _ _ (by simpa using h)]
    exact ⟨_, rfl⟩

/-- A stack ends with the members of the element of the last array. -/
theorem exists_stack_eq {members : List (Bytes × Json)} {place : Nat} {item : Json}
    (h : (lastItems members)[place]? = some item) :
    ∃ older, stack (layers members) place = older ++ membersOf item ∧
      ((layers members).length ≤ 1 → older = []) := by
  have hne : lastItems members ≠ [] := by
    intro hnil
    rw [hnil] at h
    cases h
  obtain ⟨earlier, hlayers⟩ := exists_layers_eq hne
  refine ⟨stack earlier place, by rw [hlayers, stack_concat, h]; rfl, fun hone => ?_⟩
  rw [hlayers, List.length_append, List.length_singleton] at hone
  rw [List.eq_nil_of_length_eq_zero (by omega : earlier.length = 0)]
  rfl

/-- A text that is loaded has the form of a document. -/
theorem isObjectText_of_load {text : Bytes} {graph : Graph} (h : load text = .ok graph) :
    IsObjectText text := by
  by_contra hnot
  obtain ⟨problem, hproblem, -⟩ := read_malformed_iff.2 hnot
  rw [load_eq_ok_iff.1 h] at hproblem
  cases hproblem

/-- **Repeated fields.** A text that is loaded is an object, and its calls are as many as there are
elements in the last array of calls. A call is what its stack tells, that is, all elements that
stood in its place since the calls were last forgotten. All calls come from their own elements
exactly if these mention all that the calls have, and they do if no earlier array is left to be read
over. -/
theorem calls_told_by_stacks {text : Bytes} {graph : Graph} (hload : load text = .ok graph) :
    IsObjectText text ∧ ∀ members, Json.SpellsAlone 10000 (.object members) text →
      graph.calls.length = (lastItems members).length ∧
      (∀ place call, graph.calls[place]? = some call →
        Tells (stack (layers members) place) call) ∧
      (List.Forall₂ ComesFrom (lastItems members) graph.calls ↔
        List.Forall₂ Mentions (lastItems members) graph.calls) ∧
      ((layers members).length ≤ 1 → List.Forall₂ ComesFrom (lastItems members) graph.calls) := by
  refine ⟨isObjectText_of_load hload, fun members htext => ?_⟩
  obtain ⟨hfinding, hcalls⟩ :=
    (read_eq_ok_iff_checkCalls (onlyValue_eq_ok_iff.2 htext)).1 (load_eq_ok_iff.1 hload)
  obtain ⟨hlength, hslots, hfit⟩ := holds_readMembers hfinding
  obtain ⟨taken, heq, htaken⟩ := checkCalls_eq_ok_iff.1 hcalls
  obtain rfl : graph.calls = taken := heq
  have hcount : graph.calls.length = (lastItems members).length := htaken.length_eq ▸ hlength
  -- The call at a place was read over all that its stack holds, from blank.
  have htold (place : Nat) (call : Call) (hcall : graph.calls[place]? = some call) :
      Tells (stack (layers members) place) call := by
    obtain ⟨hplace, rfl⟩ := List.getElem?_eq_some_iff.1 hcall
    have hcurrent : place < (readMembers members).value.current.length :=
      htaken.length_eq ▸ hplace
    have hslot : (readMembers members).value.current[place]
        = filled .blank (stack (layers members) place) := by
      have hslot := hslots place
      rwa [slot, List.getElem?_append_left hcurrent, List.getElem?_eq_getElem hcurrent] at hslot
    have hwire : checkCall 0 (readMembers members).value.current[place] = .ok graph.calls[place] :=
      (List.forall₂_iff_get.1 htaken).2 place hcurrent hplace
    exact tells_of_checkCall (allFit_stack hfit place) (hslot ▸ hwire)
  have hitem (place : Nat) (hlast : place < (lastItems members).length)
      (hplace : place < graph.calls.length) :
      ∃ older, Tells (older ++ membersOf (lastItems members)[place]) graph.calls[place] ∧
        ((layers members).length ≤ 1 → older = []) := by
    obtain ⟨older, hstack, hone⟩ := exists_stack_eq (List.getElem?_eq_getElem hlast)
    exact ⟨older, hstack ▸ htold place _ (List.getElem?_eq_getElem hplace), hone⟩
  refine ⟨hcount, htold, ⟨fun h => h.imp fun _ _ => ComesFrom.mentions, fun h => ?_⟩, fun hone => ?_⟩
  · refine List.forall₂_iff_get.2 ⟨hcount.symm, fun place hlast hplace => ?_⟩
    obtain ⟨older, htold, -⟩ := hitem place hlast hplace
    exact ((List.forall₂_iff_get.1 h).2 place hlast hplace).comesFrom htold
  · refine List.forall₂_iff_get.2 ⟨hcount.symm, fun place hlast hplace => ?_⟩
    obtain ⟨older, htold, hnone⟩ := hitem place hlast hplace
    rw [hnone hone] at htold
    exact htold.comesFrom

namespace Sample

/-- Three arrays of calls, the second shorter than the others. -/
def shrunkMembers : List (Bytes × Json) :=
  [(bytes "functions", .array
      [.object [(bytes "name", .string (bytes "a")), (bytes "function", .string (bytes "f"))],
        .object [(bytes "name", .string (bytes "b")),
          (bytes "parameters", .object [(bytes "x", .string (bytes "1"))])]]),
    (bytes "Functions", .array [.object [(bytes "name", .string (bytes "c"))]]),
    (bytes "functions", .array [.object [(bytes "function", .string (bytes "h"))],
      .object [(bytes "function", .string (bytes "g")),
        (bytes "parameters", .object [(bytes "y", .string (bytes "2"))])]])]

def shrunkText : Bytes :=
  bytes "\x7b\"functions\":[\x7b\"name\":\"a\",\"function\":\"f\"\x7d,"
    ++ bytes "\x7b\"name\":\"b\",\"parameters\":\x7b\"x\":\"1\"\x7d\x7d],"
    ++ bytes "\"Functions\":[\x7b\"name\":\"c\"\x7d],"
    ++ bytes "\"functions\":[\x7b\"function\":\"h\"\x7d,"
    ++ bytes "\x7b\"function\":\"g\",\"parameters\":\x7b\"y\":\"2\"\x7d\x7d]\x7d"

/-- The calls of that: one has its name from the second array, and one, which the second array has
cut off, its name and a parameter from the first. -/
def shrunkGraph : Graph :=
  ⟨[⟨bytes "c", bytes "h", none⟩,
    ⟨bytes "b", bytes "g", some [(bytes "x", bytes "1"), (bytes "y", bytes "2")]⟩]⟩

/-- A text whose array of functions is given again and is shorter then. -/
theorem load_shrunkText :
    load shrunkText = .ok shrunkGraph ∧ Json.SpellsAlone 10000 (.object shrunkMembers) shrunkText ∧
      shrunkGraph.calls.length = (lastItems shrunkMembers).length ∧
      (∀ place call, shrunkGraph.calls[place]? = some call →
        Tells (stack (layers shrunkMembers) place) call) ∧
      (List.Forall₂ ComesFrom (lastItems shrunkMembers) shrunkGraph.calls ↔
        List.Forall₂ Mentions (lastItems shrunkMembers) shrunkGraph.calls) ∧
      ((layers shrunkMembers).length ≤ 1 →
        List.Forall₂ ComesFrom (lastItems shrunkMembers) shrunkGraph.calls) := by
  have htext : Json.SpellsAlone 10000 (.object shrunkMembers) shrunkText :=
    onlyValue_eq_ok_iff.1 rfl
  have hload : load shrunkText = .ok shrunkGraph := rfl
  exact ⟨hload, htext, (calls_told_by_stacks hload).2 shrunkMembers htext⟩

/-- Two arrays of one call each. -/
def replacedMembers : List (Bytes × Json) :=
  [(bytes "functions", .array
      [.object [(bytes "name", .string (bytes "a")), (bytes "function", .string (bytes "f")),
        (bytes "parameters", .object [(bytes "x", .string (bytes "1"))])]]),
    (bytes "functions", .array
      [.object [(bytes "name", .string (bytes "b")), (bytes "function", .string (bytes "g")),
        (bytes "parameters", .object [(bytes "y", .string (bytes "2"))])]])]

def replacedText : Bytes :=
  bytes "\x7b\"functions\":[\x7b\"name\":\"a\",\"function\":\"f\","
    ++ bytes "\"parameters\":\x7b\"x\":\"1\"\x7d\x7d],"
    ++ bytes "\"functions\":[\x7b\"name\":\"b\",\"function\":\"g\","
    ++ bytes "\"parameters\":\x7b\"y\":\"2\"\x7d\x7d]\x7d"

def replacedGraph : Graph :=
  ⟨[⟨bytes "b", bytes "g", some [(bytes "x", bytes "1"), (bytes "y", bytes "2")]⟩]⟩

/-- A parameter of an array that is replaced stays with the call. -/
theorem not_comesFrom_replacedText :
    Json.SpellsAlone 10000 (.object replacedMembers) replacedText ∧
      load replacedText = .ok replacedGraph ∧
      ¬ List.Forall₂ ComesFrom (lastItems replacedMembers) replacedGraph.calls := by
  refine ⟨onlyValue_eq_ok_iff.1 rfl, rfl, ?_⟩
  intro h
  obtain ⟨value, hvalue, entry, hentry, hkey, -⟩ :=
    (List.forall₂_cons.1 h).1.parameters (bytes "x") (bytes "1") (by decide)
  obtain rfl : value = .object [(bytes "y", .string (bytes "2"))] := List.mem_singleton.1 hvalue
  obtain rfl : entry = (bytes "y", .string (bytes "2")) := List.mem_singleton.1 hentry
  cases hkey

end Sample

end Document

end FunctionChain
