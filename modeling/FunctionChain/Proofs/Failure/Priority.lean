import FunctionChain.Proofs.Failure.Classify
import Mathlib.Data.Nat.Find

/-!
# Priority before depth

An error is classified by the most important class that occurs anywhere in it, and by the first node
of that class, the node itself before what is behind it and joined errors in order. Where that node
stands makes no difference: it may be the cause of a node of a lesser class, and it stays the one
that decides when messages are put before the error, or when it is joined with errors of lesser
classes. Errors in which no node has a class are internal.
-/

namespace FunctionChain

namespace Failure

/-! ## What a node says -/

/-- How important a class is: the lower its rank, the more important. -/
def Class.rank : Class → Nat
  | .parse => 0
  | .resolve => 1
  | .io => 2
  | .compile => 3
  | .runtime => 4
  | .internal => 5

/-- The code of a failure that names none. -/
def Class.defaultCode : Class → Bytes
  | .parse => Code.malformedDocument
  | .resolve => Code.undefinedReference
  | .io => Code.workspaceWrite
  | .compile | .runtime => Code.nonZeroExit
  | .internal => Code.unknown

/-- The kind of the nodes of a class. -/
def Class.kind? : Class → Option ErrorKind
  | .parse => some .parse
  | .resolve => some .resolve
  | .io => some .io
  | .compile => some .compile
  | .runtime => some .runtime
  | .internal => none

/-- What a node of a class says: the class, and the contents as they are given. Only processes leave
an exit code. -/
structure Particulars where
  group : Class
  code : Bytes
  message : Bytes
  diagnostic : Bytes
  exitCode : Option Int

end Failure

namespace Error

open Failure (Particulars Record)

/-- What the node says, if it is of a class. -/
def particulars? : Error → Option Particulars
  | .parse code message _ => some ⟨.parse, code, message, [], none⟩
  | .resolve code _ message => some ⟨.resolve, code, message, [], none⟩
  | .io code message _ => some ⟨.io, code, message, [], none⟩
  | .compile code message diagnostic exitCode _ =>
    some ⟨.compile, code, message, diagnostic, some exitCode⟩
  | .runtime code message diagnostic exitCode _ =>
    some ⟨.runtime, code, message, diagnostic, some exitCode⟩
  | _ => none

/-- Whether some node of the error is of a class. -/
def HasClass (error : Error) : Prop := ∃ node ∈ error.nodes, ∃ said, node.particulars? = some said

/-- No node of the error is of a class that is as important as this one. -/
def RanksBelow (group : Failure.Class) (error : Error) : Prop :=
  ∀ node ∈ error.nodes, ∀ said, node.particulars? = some said → group.rank < said.group.rank

/-- The node that decides how an error is classified: those before it are of lesser classes, and
those behind it of none that is more important. -/
inductive LedBy (error node : Error) (said : Particulars) : Prop where
  | mk (before after : List Error) (split : error.nodes = before ++ node :: after)
      (tells : node.particulars? = some said)
      (first : ∀ other ∈ before, ∀ theirs, other.particulars? = some theirs →
        said.group.rank < theirs.group.rank)
      (highest : ∀ other ∈ after, ∀ theirs, other.particulars? = some theirs →
        said.group.rank ≤ theirs.group.rank)

end Error

namespace Failure

/-- The record repeats what a node says. What the node leaves empty has a default, and the exit code
is there only when a process left it. -/
structure Record.Repeats (record : Record) (node : Error) (said : Particulars) : Prop where
  className : record.className = said.group.name
  code : record.code = if said.code = [] then said.group.defaultCode else said.code
  message : record.message = if said.message = [] then node.text else said.message
  diagnostic : record.diagnostic = said.diagnostic
  exitCode : record.exitCode =
    if said.code = [] ∨ said.code = Code.nonZeroExit then said.exitCode else none

/-- The default stands for an empty text. -/
theorem orDefault_eq_ite (text fallback : Bytes) :
    orDefault text fallback = if text = [] then fallback else text := by
  simp [orDefault]

/-- An exit code is recorded for programs that have ended with one, and where no code is given. -/
theorem recordedExit_eq_ite (code : Bytes) (exitCode : Int) :
    recordedExit code exitCode
      = if code = [] ∨ code = Code.nonZeroExit then some exitCode else none := by
  simp [recordedExit]

/-- A node of a class has the record that repeats it. -/
theorem exists_ofNode? {node : Error} {said : Particulars} (h : node.particulars? = some said) :
    ∃ record, ofNode? node = some record ∧ record.Repeats node said := by
  unfold Error.particulars? at h
  split at h
  · cases h
    exact ⟨_, rfl, rfl, orDefault_eq_ite _ _, orDefault_eq_ite _ _, rfl, by simp⟩
  · cases h
    exact ⟨_, rfl, rfl, orDefault_eq_ite _ _, orDefault_eq_ite _ _, rfl, by simp⟩
  · cases h
    exact ⟨_, rfl, rfl, orDefault_eq_ite _ _, orDefault_eq_ite _ _, rfl, by simp⟩
  · cases h
    exact ⟨_, rfl, rfl, orDefault_eq_ite _ _, orDefault_eq_ite _ _, rfl, recordedExit_eq_ite _ _⟩
  · cases h
    exact ⟨_, rfl, rfl, orDefault_eq_ite _ _, orDefault_eq_ite _ _, rfl, recordedExit_eq_ite _ _⟩
  · cases h

end Failure

namespace Error

open Failure (Particulars Record)

/-! ## The node that decides -/

/-- A node that is not absent answers to the kind of its class, and to no other that decides one. -/
theorem answersTo_iff {node : Error} (h : ∀ kind, node ≠ .absent kind)
    {group : Failure.Class} {kind : ErrorKind} (hkind : group.kind? = some kind) :
    node.answersTo kind = true ↔ ∃ said, node.particulars? = some said ∧ said.group = group := by
  unfold answersTo
  cases node with
  | absent other => exact absurd rfl (h other)
  | _ => cases group <;> cases hkind <;> simp [kind?, particulars?]

variable {error node : Error} {said : Particulars}

/-- The node that leads says something. -/
theorem LedBy.tells (h : error.LedBy node said) : node.particulars? = some said := by
  obtain ⟨-, -, -, htells, -, -⟩ := h
  exact htells

/-- An error that is led by a node has its class. -/
theorem LedBy.hasClass (h : error.LedBy node said) : error.HasClass := by
  obtain ⟨before, after, hsplit, htells, -, -⟩ := h
  exact ⟨node, by simp [hsplit], said, htells⟩

/-- The class of a node is never the internal one. -/
theorem LedBy.exists_kind (h : error.LedBy node said) : ∃ kind, said.group.kind? = some kind := by
  have htells := h.tells
  unfold particulars? at htells
  split at htells <;> cases htells <;> exact ⟨_, rfl⟩

/-- An error some node of which is of a class has a node that decides. -/
theorem HasClass.exists_ledBy (h : error.HasClass) : ∃ node said, error.LedBy node said := by
  classical
  -- Of the ranks that occur the least, and of the nodes with that rank the first.
  have hranks : ∃ rank, ∃ node ∈ error.nodes, ∃ said,
      node.particulars? = some said ∧ said.group.rank = rank := by
    obtain ⟨node, hmem, said, hsaid⟩ := h
    exact ⟨_, node, hmem, said, hsaid, rfl⟩
  let least := Nat.find hranks
  have hleast {other : Error} (hmem : other ∈ error.nodes) {theirs : Particulars}
      (htheirs : other.particulars? = some theirs) : least ≤ theirs.group.rank :=
    Nat.find_le ⟨other, hmem, theirs, htheirs, rfl⟩
  let isLeast (other : Error) : Bool :=
    decide (∃ theirs, other.particulars? = some theirs ∧ theirs.group.rank = least)
  cases hfound : error.nodes.find? isLeast with
  | none =>
    obtain ⟨node, hmem, said, hsaid, hrank⟩ := Nat.find_spec hranks
    exact absurd (decide_eq_true ⟨said, hsaid, hrank⟩) (List.find?_eq_none.1 hfound node hmem)
  | some node =>
    obtain ⟨hnode, before, after, hsplit, hbefore⟩ := List.find?_eq_some_iff_append.1 hfound
    obtain ⟨said, hsaid, hrank⟩ := of_decide_eq_true hnode
    refine ⟨node, said, before, after, hsplit, hsaid, ?_, ?_⟩
    · intro other hother theirs htheirs
      have hmem : other ∈ error.nodes := hsplit ▸ List.mem_append_left _ hother
      have hne : theirs.group.rank ≠ least := by
        intro heq
        have hyes : isLeast other = true := decide_eq_true ⟨theirs, htheirs, heq⟩
        have hnot := hbefore other hother
        rw [hyes] at hnot
        cases hnot
      have hle := hleast hmem htheirs
      omega
    · intro other hother theirs htheirs
      have hmem : other ∈ error.nodes :=
        hsplit ▸ List.mem_append_right _ (List.mem_cons_of_mem _ hother)
      exact hrank ▸ hleast hmem htheirs

/-- A search for a class that is more important than that of the deciding node finds nothing. -/
theorem LedBy.find_eq_nothing (h : error.LedBy node said) (hwhole : error.IsWhole)
    {group : Failure.Class} {kind : ErrorKind} (hkind : group.kind? = some kind)
    (hrank : group.rank < said.group.rank) : error.find kind = .nothing := by
  obtain ⟨before, after, hsplit, htells, hfirst, hhighest⟩ := h
  have hnone : error.nodes.find? (answersTo kind) = none := by
    rw [List.find?_eq_none]
    intro other hmem hanswers
    obtain ⟨theirs, htheirs, rfl⟩ := (answersTo_iff (hwhole.ne_absent_of_mem hmem) hkind).1 hanswers
    rw [hsplit, List.mem_append, List.mem_cons] at hmem
    rcases hmem with hmem | rfl | hmem
    · exact Nat.lt_asymm hrank (hfirst other hmem theirs htheirs)
    · cases htells.symm.trans htheirs
      exact Nat.lt_irrefl _ hrank
    · exact Nat.not_lt.2 (hhighest other hmem theirs htheirs) hrank
  rw [hwhole.find_eq kind, hnone]
  rfl

/-- A search for the class of the deciding node comes to this node. -/
theorem LedBy.find_eq_node (h : error.LedBy node said) (hwhole : error.IsWhole) {kind : ErrorKind}
    (hkind : said.group.kind? = some kind) : error.find kind = .node node := by
  obtain ⟨before, after, hsplit, htells, hfirst, -⟩ := h
  have hmem {other : Error} (hother : other ∈ before ++ node :: after) : other ∈ error.nodes :=
    hsplit ▸ hother
  have hanswers : node.answersTo kind = true :=
    (answersTo_iff (hwhole.ne_absent_of_mem (hmem (by simp))) hkind).2 ⟨said, htells, rfl⟩
  have hfound : error.nodes.find? (answersTo kind) = some node := by
    rw [List.find?_eq_some_iff_append]
    refine ⟨hanswers, before, after, hsplit, fun other hother => ?_⟩
    rw [Bool.not_eq_true', Bool.eq_false_iff]
    intro hanswered
    have hnode := hwhole.ne_absent_of_mem (hmem (List.mem_append_left _ hother))
    obtain ⟨theirs, htheirs, hgroup⟩ := (answersTo_iff hnode hkind).1 hanswered
    exact Nat.lt_irrefl _ (hgroup ▸ hfirst other hother theirs htheirs)
  rw [hwhole.find_eq kind, hfound]
  rfl

/-- The node that decides goes on to decide when nodes of lesser classes, or of none, stand before
and behind the error. -/
theorem LedBy.surround (h : error.LedBy node said) {outer : Error} (before after : List Error)
    (hsplit : outer.nodes = before ++ (error.nodes ++ after))
    (hother : ∀ other ∈ before ++ after, ∀ theirs, other.particulars? = some theirs →
      said.group.rank < theirs.group.rank) : outer.LedBy node said := by
  obtain ⟨left, right, hnodes, htells, hfirst, hhighest⟩ := h
  refine ⟨before ++ left, right ++ after, by simp [hsplit, hnodes], htells, ?_, ?_⟩
  · intro other hmem
    rcases List.mem_append.1 hmem with hmem | hmem
    · exact hother other (List.mem_append_left _ hmem)
    · exact hfirst other hmem
  · intro other hmem theirs htheirs
    rcases List.mem_append.1 hmem with hmem | hmem
    · exact hhighest other hmem theirs htheirs
    · exact Nat.le_of_lt (hother other (List.mem_append_right _ hmem) theirs htheirs)

/-- The deciding node stays the same behind a node of no class. -/
theorem LedBy.behind (h : error.LedBy node said) {outer : Error}
    (hnodes : outer.nodes = outer :: error.nodes) (htells : outer.particulars? = none) :
    outer.LedBy node said := by
  refine h.surround [outer] [] ?_ ?_
  · simp [hnodes]
  · simp [htells]

/-- The deciding node stays the same among errors of lesser classes. -/
theorem LedBy.among (h : error.LedBy node said) {before after : List Error}
    (hbelow : ∀ other ∈ before ++ after, other.RanksBelow said.group) {outer : Error}
    (hnodes : outer.nodes = outer :: nodesOfAll (before ++ error :: after))
    (htells : outer.particulars? = none) : outer.LedBy node said := by
  refine h.surround (outer :: nodesOfAll before) (nodesOfAll after) ?_ ?_
  · simp [hnodes, nodesOfAll_eq_flatMap]
  · intro other hmem theirs htheirs
    rw [List.cons_append, List.mem_cons, nodesOfAll_eq_flatMap, nodesOfAll_eq_flatMap,
      ← List.flatMap_append, List.mem_flatMap] at hmem
    rcases hmem with rfl | ⟨neighbour, hneighbour, hmem⟩
    · rw [htells] at htheirs
      cases htheirs
    · exact hbelow neighbour hneighbour other hmem theirs htheirs

end Error

namespace Failure

open Error (LedBy)

variable {error node : Error} {said : Particulars}

/-- A kind of which there is no node is passed over. -/
theorem classifyBy_of_nothing {kind : ErrorKind} {rest : List ErrorKind}
    (h : error.find kind = .nothing) :
    classifyBy error (kind :: rest) = classifyBy error rest := by
  rw [classifyBy, h]

/-- The first kind of which there is a node decides. -/
theorem classifyBy_of_node {kind : ErrorKind} {rest : List ErrorKind} {record : Record}
    (h : error.find kind = .node node) (hrecord : ofNode? node = some record) :
    classifyBy error (kind :: rest) = some record := by
  rw [classifyBy, h]
  simp only [hrecord]

/-- An error has the record of the node that decides. -/
theorem classify_of_ledBy (hwhole : error.IsWhole) (h : error.LedBy node said) {record : Record}
    (hrecord : ofNode? node = some record) : classify error = some record := by
  have hskip (group : Failure.Class) {kind : ErrorKind} (hkind : group.kind? = some kind)
      (hrank : group.rank < said.group.rank) (rest : List ErrorKind) :
      classifyBy error (kind :: rest) = classifyBy error rest :=
    classifyBy_of_nothing (h.find_eq_nothing hwhole hkind hrank)
  have htake {kind : ErrorKind} (hkind : said.group.kind? = some kind) (rest : List ErrorKind) :
      classifyBy error (kind :: rest) = some record :=
    classifyBy_of_node (h.find_eq_node hwhole hkind) hrecord
  obtain ⟨kind, hkind⟩ := h.exists_kind
  unfold classify priority
  generalize said.group = group at *
  cases group with
  | parse => exact htake rfl _
  | resolve =>
    rw [hskip .parse rfl (by decide)]
    exact htake rfl _
  | io =>
    rw [hskip .parse rfl (by decide), hskip .resolve rfl (by decide)]
    exact htake rfl _
  | compile =>
    rw [hskip .parse rfl (by decide), hskip .resolve rfl (by decide), hskip .io rfl (by decide)]
    exact htake rfl _
  | runtime =>
    rw [hskip .parse rfl (by decide), hskip .resolve rfl (by decide), hskip .io rfl (by decide),
      hskip .compile rfl (by decide)]
    exact htake rfl _
  | internal => cases hkind

/-- An error no node of which is of a class is internal. -/
theorem classify_of_not_hasClass (hwhole : error.IsWhole) (h : ¬ error.HasClass) :
    classify error = some (internalRecord error) := by
  have hnothing (group : Failure.Class) {kind : ErrorKind} (hkind : group.kind? = some kind) :
      error.find kind = .nothing := by
    have hnone : error.nodes.find? (Error.answersTo kind) = none := by
      rw [List.find?_eq_none]
      intro node hmem hanswers
      obtain ⟨said, hsaid, -⟩ :=
        (Error.answersTo_iff (hwhole.ne_absent_of_mem hmem) hkind).1 hanswers
      exact h ⟨node, hmem, said, hsaid⟩
    rw [hwhole.find_eq kind, hnone]
    rfl
  unfold classify priority
  rw [classifyBy_of_nothing (hnothing .parse rfl), classifyBy_of_nothing (hnothing .resolve rfl),
    classifyBy_of_nothing (hnothing .io rfl), classifyBy_of_nothing (hnothing .compile rfl),
    classifyBy_of_nothing (hnothing .runtime rfl)]
  rfl

/-- **Priority before depth.** A whole error is classified by the first node of the most important
class that occurs anywhere in it, whose contents its record repeats, and as internal exactly when
no node is of a class. Its record stays the same behind a message or a refused admission, and among
other errors that are joined to it as long as these are of lesser classes. -/
theorem classify_by_priority (h : error.IsWhole) :
    ∃ record, classify error = some record ∧
      (error.HasClass ↔ ∃ node said, error.LedBy node said) ∧
      (record.className = Class.name .internal ↔ ¬ error.HasClass) ∧
      (¬ error.HasClass →
        record = ⟨Class.name .internal, Code.unknown, error.text, [], none⟩) ∧
      ∀ node said, error.LedBy node said →
        record.Repeats node said ∧
        (∀ message, classify (.wrap message error) = some record) ∧
        classify (.admission (some error)) = some record ∧
        ∀ before after : List Error,
          (∀ other ∈ before ++ after, other.IsWhole ∧ other.RanksBelow said.group) →
          classify (.joined (before ++ error :: after)) = some record ∧
            classify (.combined (before ++ error :: after)) = some record := by
  have hled : error.HasClass ↔ ∃ node said, error.LedBy node said :=
    ⟨fun hclass => hclass.exists_ledBy, fun ⟨_, _, hled⟩ => hled.hasClass⟩
  by_cases hclass : error.HasClass
  · obtain ⟨node, said, hnode⟩ := hclass.exists_ledBy
    obtain ⟨record, hrecord, hrepeats⟩ := exists_ofNode? hnode.tells
    have hclassify := classify_of_ledBy h hnode hrecord
    refine ⟨record, hclassify, hled, ?_, fun hnot => absurd hclass hnot, ?_⟩
    · refine iff_of_false (fun hinternal => ?_) (not_not_intro hclass)
      obtain ⟨kind, hkind⟩ := hnode.exists_kind
      rw [hrepeats.className, Class.name_inj] at hinternal
      rw [hinternal] at hkind
      cases hkind
    · intro other theirs hother
      -- Two nodes that lead the error give its one record, and lead whatever is put around it.
      obtain ⟨otherRecord, hotherRecord, hotherRepeats⟩ := exists_ofNode? hother.tells
      have hsame := classify_of_ledBy h hother hotherRecord
      obtain rfl : otherRecord = record := Option.some.inj (hsame.symm.trans hclassify)
      refine ⟨hotherRepeats, fun message => ?_, ?_, fun before after hothers => ?_⟩
      · have hwhole : (Error.wrap message error).IsWhole := h
        exact classify_of_ledBy hwhole (hother.behind rfl rfl) hotherRecord
      · have hwhole : (Error.admission (some error)).IsWhole := h
        exact classify_of_ledBy hwhole (hother.behind rfl rfl) hotherRecord
      · have hwhole : Error.AreWhole (before ++ error :: after) := by
          rw [Error.areWhole_iff]
          intro neighbour hmem
          rw [List.mem_append, List.mem_cons] at hmem
          rcases hmem with hmem | rfl | hmem
          · exact (hothers neighbour (List.mem_append_left _ hmem)).1
          · exact h
          · exact (hothers neighbour (List.mem_append_right _ hmem)).1
        have hbelow (neighbour : Error) (hmem : neighbour ∈ before ++ after) :=
          (hothers neighbour hmem).2
        have hjoined : (Error.joined (before ++ error :: after)).IsWhole := hwhole
        have hcombined : (Error.combined (before ++ error :: after)).IsWhole := hwhole
        refine ⟨?_, ?_⟩
        · exact classify_of_ledBy hjoined (hother.among hbelow rfl rfl) hotherRecord
        · exact classify_of_ledBy hcombined (hother.among hbelow rfl rfl) hotherRecord
  · refine ⟨_, classify_of_not_hasClass h hclass, hled, ?_, fun _ => rfl, ?_⟩
    · exact iff_of_true rfl hclass
    · intro node said hnode
      exact absurd hnode.hasClass hclass

namespace Sample

/-- A failed run whose cause hides a failed write, and a failed compilation joined to it. -/
def hidden : Error :=
  .joined [.plain (bytes "first"),
    .wrap (bytes "job") (.runtime [] (bytes "run") (bytes "trap") 3
      (some (.admission (some (.io [] [] none))))),
    .compile Code.timeout (bytes "slow") [] 0 none]

/-- The failed write decides, wherever it stands, and a failed run joined before it changes
nothing. -/
theorem classify_hidden :
    hidden.IsWhole ∧
      classify hidden
        = some ⟨Class.name .io, Code.workspaceWrite, bytes "io error: ", [], none⟩ ∧
      classify (.joined [.runtime [] [] [] 1 none, hidden])
        = some ⟨Class.name .io, Code.workspaceWrite, bytes "io error: ", [], none⟩ := by
  have hwhole : hidden.IsWhole := ⟨trivial, trivial, trivial, trivial⟩
  obtain ⟨record, hclassify, -, -, -, hled⟩ := classify_by_priority hwhole
  have hnode : hidden.LedBy (.io [] [] none) ⟨.io, [], [], [], none⟩ := by
    refine ⟨hidden.nodes.take 5, hidden.nodes.drop 6, rfl, rfl, ?_, ?_⟩
    · simp [hidden, Error.nodes, Error.nodesOfAll, Error.nodesOfCause, Error.particulars?,
        Class.rank]
    · simp [hidden, Error.nodes, Error.nodesOfAll, Error.nodesOfCause, Error.particulars?,
        Class.rank]
  have hbelow : (Error.runtime [] [] [] 1 none).IsWhole ∧
      (Error.runtime [] [] [] 1 none).RanksBelow .io := by
    refine ⟨trivial, ?_⟩
    simp [Error.RanksBelow, Error.nodes, Error.nodesOfCause, Error.particulars?, Class.rank]
  obtain ⟨hrepeats, -, -, hjoined⟩ := hled _ _ hnode
  obtain ⟨hjoined, -⟩ := hjoined [.runtime [] [] [] 1 none] [] (by simpa using hbelow)
  have hrecord : record = ⟨Class.name .io, Code.workspaceWrite, bytes "io error: ", [], none⟩ := by
    obtain ⟨className, code, message, diagnostic, exitCode⟩ := record
    rw [Record.mk.injEq]
    exact ⟨hrepeats.className, hrepeats.code, hrepeats.message, hrepeats.diagnostic,
      hrepeats.exitCode⟩
  exact ⟨hwhole, hrecord ▸ hclassify, hrecord ▸ hjoined⟩

end Sample

end Failure

end FunctionChain
