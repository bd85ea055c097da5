import FunctionChain.Proofs.Json.Written
import FunctionChain.Proofs.Trace.Recording
import Mathlib.Data.List.Nodup

/-!
# Canonical traces

The canonical encoding tells traces apart (`canonicalJson_identifies`): two traces have it in common
just if they are over the same program and have the same events by position, those of one position
in the same order.

There are two halves to this. What is written can be read: an encoded trace spells a JSON tree
(`spellsAlone_encode`), a text spells only one, and all of the trace is in the tree (`tree_inj`).
And sorting leaves no choice: a list of events has just one ordering by position that keeps the
order of events at one position (`IsStableSort.unique`), and that is the one the encoding takes.
-/

namespace FunctionChain

namespace Trace

open Json (escaped)

/-! ## Trees -/

/-- A member that is there unless its text is empty. -/
def optionalMember (name text : Bytes) : List (Bytes × Json) :=
  if text.isEmpty then [] else [(escaped name, .string (escaped text))]

/-- The members of an encoded event. -/
def Event.members (event : Event) : List (Bytes × Json) :=
  [(escaped (bytes "seq"), .number (Decimal.ofInt event.seq)),
    (escaped (bytes "kind"), .string (escaped event.kind))]
  ++ optionalMember (bytes "state") event.state ++ optionalMember (bytes "reason") event.reason

/-- The tree of an encoded trace. -/
def tree (trace : Trace) : Json :=
  .object [(escaped (bytes "sourceHash"), .string (escaped trace.source)),
    (escaped (bytes "events"), .array (trace.events.map fun event => .object event.members))]

/-- An event is spelled as it is encoded. -/
theorem spells_event (event : Event) : Json.Spells (.object event.members) event.toJson := by
  have hoptional (name text : Bytes) : List.Forall₂ Json.Written
      (if text.isEmpty then [] else [(name, Json.ofText text)]) (optionalMember name text) := by
    unfold optionalMember
    split
    · exact .nil
    · exact .cons ⟨rfl, Json.spells_ofText text⟩ .nil
  have hrequired : List.Forall₂ Json.Written
      [(bytes "seq", Decimal.ofInt event.seq), (bytes "kind", Json.ofText event.kind)]
      [(escaped (bytes "seq"), .number (Decimal.ofInt event.seq)),
        (escaped (bytes "kind"), .string (escaped event.kind))] :=
    .cons ⟨rfl, .number (Json.number_ofInt event.seq)⟩
      (.cons ⟨rfl, Json.spells_ofText event.kind⟩ .nil)
  exact Json.spells_compactRecord
    (List.rel_append (List.rel_append hrequired (hoptional _ _)) (hoptional _ _)) (by simp)

/-- An encoded trace is a record of the program and the events. -/
theorem encode_eq (trace : Trace) :
    trace.encode = Json.compactRecord [(bytes "sourceHash", Json.ofText trace.source),
      (bytes "events",
        0x5B :: (Bytes.joined [0x2C] (trace.events.map Event.toJson) ++ [0x5D]))] := by
  have hopen : bytes "\x7b\"sourceHash\":"
      = 0x7B :: (Json.ofText (bytes "sourceHash") ++ [byte ':']) := by decide
  have hevents : bytes ",\"events\":["
      = bytes "," ++ (Json.ofText (bytes "events") ++ [byte ':', 0x5B]) := by decide
  have hcomma : bytes "," = [0x2C] := rfl
  have hclose : bytes "]\x7d" = [0x5D, 0x7D] := rfl
  simp [encode, Json.compactRecord, Bytes.joined, hopen, hevents, hcomma, hclose]

/-- An event is an object of plain members. -/
theorem depth_event (event : Event) : Json.depth (.object event.members) = 1 := by
  unfold Event.members optionalMember
  split <;> split <;> simp [Json.depth, Json.depthOfMembers]

/-- Encoded traces are flat: an event is a record in a list in a record. -/
theorem depth_tree (trace : Trace) : trace.tree.depth ≤ 3 := by
  have hevents : Json.depthOfItems (trace.events.map fun event => .object event.members) < 2 := by
    rw [Json.depthOfItems_lt_iff]
    simp [depth_event]
  simp only [tree, Json.depth, Json.depthOfMembers]
  omega

/-- An encoded trace spells its tree. -/
theorem spellsAlone_encode (trace : Trace) :
    Json.SpellsAlone Json.maxDepth trace.tree trace.encode := by
  have hevents : List.Forall₂ Json.Spells (trace.events.map fun event => .object event.members)
      (trace.events.map Event.toJson) := by
    rw [List.forall₂_map_left_iff, List.forall₂_map_right_iff, List.forall₂_same]
    exact fun event _ => spells_event event
  have hspells : Json.Spells trace.tree trace.encode := by
    rw [encode_eq]
    refine Json.spells_compactRecord (.cons ⟨rfl, Json.spells_ofText _⟩ (.cons ⟨rfl, ?_⟩ .nil))
      (List.cons_ne_nil _ _)
    exact Json.spells_joined hevents
  exact ⟨[], _, [], by simp, .nil, hspells, .nil, Nat.le_trans trace.depth_tree (by decide)⟩

/-! ## Reading a tree -/

/-- All texts of an event are UTF-8. -/
structure Event.IsText (event : Event) : Prop where
  kind : Utf8.isValid event.kind = true
  state : Utf8.isValid event.state = true
  reason : Utf8.isValid event.reason = true

/-- All texts of a trace are UTF-8. -/
structure IsText (trace : Trace) : Prop where
  source : Utf8.isValid trace.source = true
  events : ∀ event ∈ trace.events, event.IsText

/-- The text of a member, or nothing when there is none of that name. -/
def textIn (name : Bytes) (members : List (Bytes × Json)) : Bytes :=
  match members.lookup (escaped name) with
  | some (.string written) => Json.unquoted written
  | _ => []

/-- An optional member does not stand in the way of another. -/
theorem lookup_optionalMember_ne {name other : Bytes} (h : escaped other ≠ escaped name)
    (text : Bytes) : (optionalMember name text).lookup (escaped other) = none := by
  unfold optionalMember
  split
  · rfl
  · simp [List.lookup_cons, beq_false_of_ne h]

/-- A text is read from its optional member when none of that name follows. -/
theorem textIn_optionalMember {name text : Bytes} (h : Utf8.isValid text = true)
    {rest : List (Bytes × Json)} (hrest : rest.lookup (escaped name) = none) :
    textIn name (optionalMember name text ++ rest) = text := by
  cases text with
  | nil => simp [optionalMember, textIn, hrest]
  | cons b text => simp [optionalMember, textIn, Json.unquoted_escaped, Utf8.sanitized_of_isValid h]

/-- All of an event is in its members. -/
theorem Event.members_inj {first second : Event} (hfirst : first.IsText) (hsecond : second.IsText)
    (h : first.members = second.members) : first = second := by
  obtain ⟨seq, kind, state, reason⟩ := first
  obtain ⟨seq', kind', state', reason'⟩ := second
  simp only [members, List.cons_append, List.nil_append, List.cons.injEq, Prod.mk.injEq, true_and,
    Json.number.injEq, Json.string.injEq] at h
  obtain ⟨hseq, hkind, hoptional⟩ := h
  obtain rfl := Decimal.ofInt_inj hseq
  obtain rfl := Json.escaped_inj hfirst.kind hsecond.kind hkind
  have hstate := congrArg (textIn (bytes "state")) hoptional
  rw [textIn_optionalMember hfirst.state (lookup_optionalMember_ne (by decide) _),
    textIn_optionalMember hsecond.state (lookup_optionalMember_ne (by decide) _)] at hstate
  obtain rfl : state = state' := hstate
  have hreason := congrArg (fun members => textIn (bytes "reason") (members ++ []))
    (List.append_cancel_left hoptional)
  rw [textIn_optionalMember hfirst.reason rfl, textIn_optionalMember hsecond.reason rfl] at hreason
  obtain rfl : reason = reason' := hreason
  rfl

/-- Events of texts are told by their members. -/
theorem map_members_inj {first second : List Event} (hfirst : ∀ event ∈ first, event.IsText)
    (hsecond : ∀ event ∈ second, event.IsText)
    (h : (first.map fun event => Json.object event.members)
      = second.map fun event => Json.object event.members) : first = second := by
  induction first generalizing second with
  | nil => exact (List.map_eq_nil_iff.1 h.symm).symm
  | cons event rest ih =>
    cases second with
    | nil => cases h
    | cons other others =>
      rw [List.forall_mem_cons] at hfirst hsecond
      rw [List.map_cons, List.map_cons, List.cons.injEq] at h
      rw [Event.members_inj hfirst.1 hsecond.1 (Json.object.inj h.1), ih hfirst.2 hsecond.2 h.2]

/-- All of a trace is in its tree. -/
theorem tree_inj {first second : Trace} (hfirst : first.IsText) (hsecond : second.IsText)
    (h : first.tree = second.tree) : first = second := by
  simp only [tree, Json.object.injEq, List.cons.injEq, Prod.mk.injEq, true_and, and_true,
    Json.string.injEq, Json.array.injEq] at h
  have hsource := Json.escaped_inj hfirst.source hsecond.source h.1
  have hevents := map_members_inj hfirst.events hsecond.events h.2
  cases first
  cases hsource
  cases hevents
  rfl

/-- Traces that are encoded alike are the same. -/
theorem encode_inj {first second : Trace} (hfirst : first.IsText) (hsecond : second.IsText)
    (h : first.encode = second.encode) : first = second := by
  have hspells := second.spellsAlone_encode
  rw [← h] at hspells
  exact tree_inj hfirst hsecond (first.spellsAlone_encode.unique hspells)

/-! ## The canonical order -/

/-- `IsStableSort events sorted`: the events by position, those of one position in the order in
which they stand. -/
structure IsStableSort (events sorted : List Event) : Prop where
  ordered : sorted.Pairwise fun a b => a.seq ≤ b.seq
  stable : ∀ seq, (sorted.filter fun event => event.seq = seq)
    = events.filter fun event => event.seq = seq

/-- Lists that have the same events at every position, in the same order, have the same events. -/
theorem perm_of_filter_eq {first second : List Event}
    (h : ∀ seq, (first.filter fun event => event.seq = seq)
      = second.filter fun event => event.seq = seq) : first.Perm second := by
  rw [List.perm_iff_count]
  intro event
  have hcount := congrArg (List.count event) (h event.seq)
  rwa [List.count_filter (by simp), List.count_filter (by simp)] at hcount

/-- A list in order is told by the events at each position. -/
theorem eq_of_ordered {first second : List Event}
    (hfirst : first.Pairwise fun a b => a.seq ≤ b.seq)
    (hsecond : second.Pairwise fun a b => a.seq ≤ b.seq)
    (h : ∀ seq, (first.filter fun event => event.seq = seq)
      = second.filter fun event => event.seq = seq) : first = second := by
  have hperm := perm_of_filter_eq h
  induction first generalizing second with
  | nil => exact (List.nil_perm.1 hperm).symm
  | cons event rest ih =>
    cases second with
    | nil => exact List.perm_nil.1 hperm
    | cons other others =>
      rw [List.pairwise_cons] at hfirst hsecond
      -- Neither list can have an event before the first one of the other.
      have hle : event.seq ≤ other.seq := by
        rcases List.mem_cons.1 (hperm.mem_iff.2 List.mem_cons_self) with rfl | hmem
        · exact Int.le_refl _
        · exact hfirst.1 other hmem
      have hge : other.seq ≤ event.seq := by
        rcases List.mem_cons.1 (hperm.mem_iff.1 List.mem_cons_self) with rfl | hmem
        · exact Int.le_refl _
        · exact hsecond.1 event hmem
      have hseq : other.seq = event.seq := Int.le_antisymm hge hle
      have hhead := h event.seq
      simp only [List.filter_cons, hseq, decide_true, if_true, List.cons.injEq] at hhead
      obtain ⟨rfl, -⟩ := hhead
      have htails : ∀ seq, (rest.filter fun event => event.seq = seq)
          = others.filter fun event => event.seq = seq := by
        intro seq
        have hboth := h seq
        simp only [List.filter_cons] at hboth
        split at hboth
        · exact (List.cons.inj hboth).2
        · exact hboth
      rw [ih hfirst.2 hsecond.2 htails (perm_of_filter_eq htails)]

/-- A stable sort gives one result. -/
theorem IsStableSort.unique {events sorted other : List Event} (h : IsStableSort events sorted)
    (hother : IsStableSort events other) : sorted = other :=
  eq_of_ordered h.ordered hother.ordered fun seq => (h.stable seq).trans (hother.stable seq).symm

/-- The canonical order is a stable sort. -/
theorem isStableSort_canonical (trace : Trace) :
    IsStableSort trace.events trace.canonical.events := by
  have htrans (a b c : Event) (hab : decide (a.seq ≤ b.seq) = true)
      (hbc : decide (b.seq ≤ c.seq) = true) : decide (a.seq ≤ c.seq) = true := by
    simp only [decide_eq_true_eq] at *
    omega
  have htotal (a b : Event) : (decide (a.seq ≤ b.seq) || decide (b.seq ≤ a.seq)) = true := by
    simp only [Bool.or_eq_true, decide_eq_true_eq]
    omega
  have hperm : trace.canonical.events.Perm trace.events := List.mergeSort_perm _ _
  refine ⟨?_, fun seq => ?_⟩
  · have hsorted := List.pairwise_mergeSort htrans htotal trace.events
    exact hsorted.imp fun h => of_decide_eq_true h
  · -- The events of one position are in order as they stand, so sorting leaves them a sublist.
    have hpairwise : (trace.events.filter fun event => event.seq = seq).Pairwise
        fun a b => decide (a.seq ≤ b.seq) = true := by
      refine List.pairwise_of_forall_mem_list fun a ha b hb => ?_
      simp only [List.mem_filter, decide_eq_true_eq] at ha hb ⊢
      omega
    have hsublist := (List.sublist_mergeSort htrans htotal hpairwise List.filter_sublist).filter
      fun event => decide (event.seq = seq)
    rw [List.filter_filter] at hsublist
    simp only [Bool.and_self] at hsublist
    exact (hsublist.eq_of_length (hperm.filter _).length_eq.symm).symm

/-! ## The canonical encoding -/

section Canonical

variable {first second : Trace}

/-- The canonical trace has the same events. -/
theorem mem_canonical_iff {trace : Trace} {event : Event} :
    event ∈ trace.canonical.events ↔ event ∈ trace.events :=
  List.mem_mergeSort

/-- A trace of texts is one in its canonical form. -/
theorem IsText.canonical {trace : Trace} (h : trace.IsText) : trace.canonical.IsText :=
  ⟨h.source, fun event hmem => h.events event (mem_canonical_iff.1 hmem)⟩

/-- The order of the events is no problem. -/
theorem problem?_canonical_eq_none_iff {trace : Trace} :
    trace.canonical.problem? = none ↔ trace.problem? = none := by
  rw [problem?_eq_none_iff, problem?_eq_none_iff]
  simp only [mem_canonical_iff]
  rfl

/-- A trace is encoded just if nothing is wrong with it. -/
theorem canonicalJson_eq_ok_iff {trace : Trace} {text : Bytes} :
    trace.canonicalJson = .ok text ↔ trace.problem? = none ∧ trace.canonical.encode = text := by
  rw [← problem?_canonical_eq_none_iff]
  unfold canonicalJson
  cases trace.canonical.problem? <;> simp

/-- Canonical traces with the same source and events are the same. -/
theorem canonical_eq_of_events (hsource : first.source = second.source)
    (hevents : first.canonical.events = second.canonical.events) :
    first.canonical = second.canonical := by
  show Trace.mk first.source first.canonical.events = Trace.mk second.source second.canonical.events
  rw [hsource, hevents]

/-- Traces have their canonical form in common when they have their program and their stably sorted
events in common. -/
theorem canonical_eq_iff :
    first.canonical = second.canonical ↔ first.source = second.source ∧
      ∃ sorted, IsStableSort first.events sorted ∧ IsStableSort second.events sorted := by
  constructor
  · intro h
    have hsource : first.canonical.source = second.canonical.source := by rw [h]
    refine ⟨hsource, first.canonical.events, first.isStableSort_canonical, ?_⟩
    rw [h]
    exact second.isStableSort_canonical
  · rintro ⟨hsource, sorted, hfirst, hsecond⟩
    exact canonical_eq_of_events hsource ((first.isStableSort_canonical.unique hfirst).trans
      (hsecond.unique second.isStableSort_canonical))

/-- Events that all have positions of their own may be reordered. -/
theorem canonical_of_perm (hsource : first.source = second.source)
    (hperm : first.events.Perm second.events) (hnodup : (first.events.map (·.seq)).Nodup) :
    first.canonical = second.canonical := by
  refine canonical_eq_of_events hsource (List.Perm.eq_of_pairwise (fun a b ha hb hab hba => ?_)
    first.isStableSort_canonical.ordered second.isStableSort_canonical.ordered
    ((List.mergeSort_perm _ _).trans (hperm.trans (List.mergeSort_perm _ _).symm)))
  exact List.inj_on_of_nodup_map hnodup (mem_canonical_iff.1 ha)
    (hperm.mem_iff.2 (mem_canonical_iff.1 hb)) (Int.le_antisymm hab hba)

end Canonical

/-- **Canonical bytes.** A trace whose texts are UTF-8 has canonical bytes just if it has no
problem. Two such traces have the same bytes just if they are over the same program and their
events, stably sorted by position, are the same. So the order of events with positions of their own
does not matter, while traces that differ in an event, or in the order of events at one position,
have different bytes. -/
theorem canonicalJson_identifies (first second : Trace) (hfirst : first.IsText)
    (hsecond : second.IsText) :
    ((∃ problem, first.canonicalJson = .error problem) ↔
      ∃ problem, first.problem? = some problem) ∧
    (∀ text other, first.canonicalJson = .ok text → second.canonicalJson = .ok other →
      (text = other ↔ first.source = second.source ∧
        ∃ sorted, IsStableSort first.events sorted ∧ IsStableSort second.events sorted) ∧
      (text = other → first.events.Perm second.events ∧
        ∀ seq, (first.events.filter fun event => event.seq = seq)
          = second.events.filter fun event => event.seq = seq)) ∧
    (first.source = second.source → first.events.Perm second.events →
      (first.events.map (·.seq)).Nodup → first.canonicalJson = second.canonicalJson) := by
  refine ⟨?_, fun text other htext hother => ?_, fun hsource hperm hnodup => ?_⟩
  · cases hcase : first.canonicalJson with
    | error problem =>
      have hproblem : first.problem? ≠ none := fun h => by
        cases hcase.symm.trans (canonicalJson_eq_ok_iff.2 ⟨h, rfl⟩)
      simpa using Option.ne_none_iff_exists'.1 hproblem
    | ok text => simp [(canonicalJson_eq_ok_iff.1 hcase).1]
  · have hiff : text = other ↔ first.canonical = second.canonical := by
      obtain ⟨-, rfl⟩ := canonicalJson_eq_ok_iff.1 htext
      obtain ⟨-, rfl⟩ := canonicalJson_eq_ok_iff.1 hother
      exact ⟨encode_inj hfirst.canonical hsecond.canonical, congrArg encode⟩
    rw [hiff, canonical_eq_iff]
    refine ⟨Iff.rfl, ?_⟩
    rintro ⟨-, sorted, hsorted, hother⟩
    have hfilter (seq : Int) := (hsorted.stable seq).symm.trans (hother.stable seq)
    exact ⟨perm_of_filter_eq hfilter, hfilter⟩
  · rw [canonicalJson, canonicalJson, canonical_of_perm hsource hperm hnodup]

namespace Sample

/-- Two events at one position, one of them with a reason that has to be escaped. -/
def tied : List Event :=
  [⟨1, cacheStored, [], []⟩, ⟨1, stateEntered, bytes "FAILED", bytes "say \"no\"\n"⟩]

def first : Event := ⟨-1, stateEntered, bytes "WRITTEN", []⟩

def inOrder : Trace := ⟨bytes "src", first :: tied⟩

def moved : Trace := ⟨bytes "src", tied ++ [first]⟩

def swapped : Trace := ⟨bytes "src", first :: tied.reverse⟩

/-- Moving an event to another place leaves the bytes as they are; exchanging two events of one
position does not. -/
theorem canonicalJson_tied :
    ∃ text other, inOrder.canonicalJson = .ok text ∧ moved.canonicalJson = .ok text ∧
      swapped.canonicalJson = .ok other ∧ text ≠ other := by
  have hevents : ∀ event ∈ first :: tied, event.IsText := by
    simp only [tied, List.forall_mem_cons]
    exact ⟨⟨by decide, by decide, by decide⟩, ⟨by decide, by decide, by decide⟩,
      ⟨by decide, by decide, by decide⟩, nofun⟩
  have hinOrder : inOrder.IsText := ⟨by decide, hevents⟩
  have hmoved : moved.IsText := ⟨by decide, fun event hmem => hevents event
    (List.perm_append_singleton _ _ |>.mem_iff.1 hmem)⟩
  have hswapped : swapped.IsText := ⟨by decide, fun event hmem => hevents event
    ((List.reverse_perm _).cons _ |>.mem_iff.1 hmem)⟩
  obtain ⟨text, htext⟩ : ∃ text, inOrder.canonicalJson = .ok text :=
    ⟨_, canonicalJson_eq_ok_iff.2 ⟨by decide, rfl⟩⟩
  obtain ⟨other, hother⟩ : ∃ other, swapped.canonicalJson = .ok other :=
    ⟨_, canonicalJson_eq_ok_iff.2 ⟨by decide, rfl⟩⟩
  obtain ⟨again, hagain⟩ : ∃ again, moved.canonicalJson = .ok again :=
    ⟨_, canonicalJson_eq_ok_iff.2 ⟨by decide, rfl⟩⟩
  have hsame : text = again := by
    refine ((canonicalJson_identifies inOrder moved hinOrder hmoved).2.1 text again htext
      hagain).1.2 ⟨rfl, first :: tied, ⟨by decide, fun _ => rfl⟩, ⟨by decide, fun seq => ?_⟩⟩
    by_cases hseq : -1 = seq
    · subst hseq
      decide
    · simp [moved, first, hseq]
  refine ⟨text, other, htext, hsame ▸ hagain, hother, fun h => ?_⟩
  have hfilter := ((canonicalJson_identifies inOrder swapped hinOrder hswapped).2.1 text other htext
    hother).2 h
  exact absurd (hfilter.2 1) (by decide)

end Sample

end Trace

end FunctionChain
