import FunctionChain.Association
import FunctionChain.Files.Tree
import FunctionChain.Proofs.Files.Path

/-!
# Looking up locations and following paths

What stands at a location of a changed tree, and where a path leads in it. A path is followed
through directories and links alone, so it leads to the same location in every tree that has the
same links and at least the same directories (`Keeps`); what files there are does not matter. In a
tree that is *proper* everything stands in a directory, and so does whatever a path leads to.
-/

namespace FunctionChain

namespace Files

namespace Tree

/-! ## Locations -/

/-- There is always a root directory. -/
theorem get?_nil (tree : Tree) : tree.get? [] = some (.directory 0o755) := rfl

/-- Below the root there is what is listed. -/
theorem get?_of_ne_nil {location : Location} (h : location ≠ []) (tree : Tree) :
    tree.get? location = tree.nodes.lookup location := by
  simp [get?, h]

section Change

variable (tree : Tree) {location : Location} (other : Location)

/-- Erasing a place leaves nothing there, and all else. -/
theorem get?_erase (h : location ≠ []) :
    (tree.erase location).get? other = if other = location then none else tree.get? other := by
  by_cases hroot : other = []
  · subst hroot
    rw [if_neg h.symm, get?_nil, get?_nil]
  · rw [get?_of_ne_nil hroot, get?_of_ne_nil hroot, erase, without]
    refine (Association.lookup_filter tree.nodes (· == location) other).trans ?_
    simp

/-- Erasing a place leaves no link there, and all others. -/
theorem link?_erase :
    (tree.erase location).link? other = if other = location then none else tree.link? other := by
  refine (Association.lookup_filter tree.links (· == location) other).trans ?_
  simp [link?]

/-- Something that is put at a location stands there, and nothing else changes. -/
theorem get?_put (h : location ≠ []) (node : Node) :
    (tree.put location node).get? other
      = if other = location then some node else tree.get? other := by
  by_cases hroot : other = []
  · subst hroot
    rw [if_neg h.symm, get?_nil, get?_nil]
  · have herase := get?_erase tree other h
    rw [get?_of_ne_nil hroot] at herase ⊢
    by_cases hother : other = location
    · subst hother
      simp [put]
    · have hne : (other == location) = false := beq_eq_false_iff_ne.2 hother
      simp only [put, List.lookup_cons, hne, herase, if_neg hother]

/-- Putting a node leaves no link in its place, and all others. -/
theorem link?_put (node : Node) :
    (tree.put location node).link? other
      = if other = location then none else tree.link? other :=
  link?_erase tree other

end Change

/-- A place is free just if there is neither a node nor a link. -/
theorem isTaken_eq_false_iff {tree : Tree} {location : Location} :
    tree.isTaken location = false ↔ tree.get? location = none ∧ tree.link? location = none := by
  simp [isTaken]

/-- Nothing but the root stands at the root. -/
theorem ne_nil_of_not_taken {tree : Tree} {location : Location}
    (h : tree.isTaken location = false) :
    location ≠ [] := by
  rintro rfl
  cases h

/-- There is a directory at a location. -/
def HasDirectory (tree : Tree) (location : Location) : Prop :=
  ∃ mode, tree.get? location = some (.directory mode)

/-- The root is a directory. -/
theorem hasDirectory_nil (tree : Tree) : tree.HasDirectory [] := ⟨_, rfl⟩

/-- The place of a directory is taken. -/
theorem HasDirectory.isTaken {tree : Tree} {location : Location} (h : tree.HasDirectory location) :
    tree.isTaken location = true := by
  obtain ⟨mode, hmode⟩ := h
  simp [Tree.isTaken, hmode]

/-! ## Following names -/

/-- A name that is none of the two with a meaning of their own, and not too long. -/
structure IsName (name : Bytes) : Prop where
  notSame : name ≠ Path.same
  notUp : name ≠ Path.up
  short : name.length ≤ longestName

/-- `Walks tree follows location names found`: the names lead from the location to what is found, a
location or a link on the way. -/
inductive Walks (tree : Tree) (follows : Bool) :
    Location → List Bytes → Location ⊕ Detour → Prop where
  | done (location : Location) : Walks tree follows location [] (.inl location)
  | same {location : Location} {rest : List Bytes} {found : Location ⊕ Detour} :
      tree.HasDirectory location → Walks tree follows location rest found →
      Walks tree follows location (Path.same :: rest) found
  | up {location : Location} {rest : List Bytes} {found : Location ⊕ Detour} :
      tree.HasDirectory location → Walks tree follows location.dropLast rest found →
      Walks tree follows location (Path.up :: rest) found
  | name {location : Location} {name : Bytes} {rest : List Bytes} {found : Location ⊕ Detour} :
      tree.HasDirectory location → IsName name → tree.link? (location ++ [name]) = none →
      Walks tree follows (location ++ [name]) rest found →
      Walks tree follows location (name :: rest) found
  | link {location : Location} {name target : Bytes} {rest : List Bytes} :
      tree.HasDirectory location → IsName name → tree.link? (location ++ [name]) = some target →
      rest ≠ [] ∨ follows = true →
      Walks tree follows location (name :: rest) (.inr ⟨location, target, rest⟩)
  /-- A link at the end is found itself when it is not to be followed. -/
  | linkAtEnd {location : Location} {name target : Bytes} :
      tree.HasDirectory location → IsName name → tree.link? (location ++ [name]) = some target →
      follows = false → Walks tree follows location [name] (.inl (location ++ [name]))

/-- A walk to the first link is one by the rules. -/
theorem walks_of_walkToLink {tree : Tree} {follows : Bool} {location : Location}
    {names : List Bytes} {found : Location ⊕ Detour}
    (h : tree.walkToLink follows location names = .ok found) :
    Walks tree follows location names found := by
  induction names generalizing location with
  | nil =>
    cases h
    exact .done location
  | cons name rest ih =>
    rw [walkToLink] at h
    split at h
    · cases h
    · cases h
    next mode hmode =>
    split at h
    · cases h
    next hlength =>
    simp only [beq_iff_eq] at h
    split at h
    · next hsame =>
      subst hsame
      exact .same ⟨mode, hmode⟩ (ih h)
    next hsame =>
    split at h
    · next hup =>
      subst hup
      exact .up ⟨mode, hmode⟩ (ih h)
    next hup =>
    have hname : IsName name := ⟨hsame, hup, Nat.not_lt.1 hlength⟩
    split at h
    · next target hlink =>
      split at h
      · next hend =>
        cases h
        simp only [Bool.and_eq_true, List.isEmpty_iff, Bool.not_eq_true'] at hend
        obtain ⟨rfl, hfollows⟩ := hend
        exact .linkAtEnd ⟨mode, hmode⟩ hname hlink hfollows
      · next hend =>
        cases h
        refine .link ⟨mode, hmode⟩ hname hlink ?_
        cases follows with
        | true => exact .inr rfl
        | false => exact .inl (by simpa using hend)
    · next hlink => exact .name ⟨mode, hmode⟩ hname hlink (ih h)

/-- A walk by the rules is the one to the first link. -/
theorem Walks.walkToLink {tree : Tree} {follows : Bool} {location : Location}
    {names : List Bytes} {found : Location ⊕ Detour} (h : Walks tree follows location names found) :
    tree.walkToLink follows location names = .ok found := by
  have hsameShort : ¬ Path.same.length > longestName := by decide
  have hupShort : ¬ Path.up.length > longestName := by decide
  have hup : ¬ Path.up = Path.same := by decide
  induction h with
  | done location => rfl
  | same hdir _ ih =>
    obtain ⟨mode, hmode⟩ := hdir
    simpa [Tree.walkToLink, hmode, hsameShort] using ih
  | up hdir _ ih =>
    obtain ⟨mode, hmode⟩ := hdir
    simpa [Tree.walkToLink, hmode, hupShort, hup] using ih
  | name hdir hname hlink _ ih =>
    obtain ⟨mode, hmode⟩ := hdir
    simpa [Tree.walkToLink, hmode, hname.notSame, hname.notUp, Nat.not_lt.2 hname.short, hlink]
      using ih
  | link hdir hname hlink hrest =>
    obtain ⟨mode, hmode⟩ := hdir
    simp only [Tree.walkToLink, hmode, Nat.not_lt.2 hname.short, hlink]
    rcases hrest with hrest | rfl <;> simp [*, hname.notSame, hname.notUp]
  | linkAtEnd hdir hname hlink hfollows =>
    obtain ⟨mode, hmode⟩ := hdir
    simp [Tree.walkToLink, hmode, hname.notSame, hname.notUp, Nat.not_lt.2 hname.short, hlink,
      hfollows]

/-- The walk to the first link is told by the rules. -/
theorem walkToLink_eq_ok_iff {tree : Tree} {follows : Bool} {location : Location}
    {names : List Bytes} {found : Location ⊕ Detour} :
    tree.walkToLink follows location names = .ok found ↔ Walks tree follows location names found :=
  ⟨walks_of_walkToLink, Walks.walkToLink⟩

/-- Following names through links: there is none on the way, or the first one is followed. -/
theorem walk_succ_eq_ok_iff {tree : Tree} {follows : Bool} {links : Nat} {location found : Location}
    {names : List Bytes} :
    tree.walk follows (links + 1) location names = .ok found ↔
      Walks tree follows location names (.inl found) ∨
      ∃ detour, Walks tree follows location names (.inr detour) ∧
        tree.walk follows links (if Path.isRooted detour.target then [] else detour.location)
          (steps detour.target ++ detour.rest) = .ok found := by
  simp only [← walkToLink_eq_ok_iff]
  rw [walk]
  cases tree.walkToLink follows location names with
  | error reason => simp
  | ok result => cases result <;> simp

/-- A path can be looked at: it is not empty, not too long and holds no zero byte. -/
structure IsPath (path : Bytes) : Prop where
  noZero : (0 : UInt8) ∉ path
  notEmpty : path ≠ []
  short : path.length ≤ longestPath

/-- The location from which a path is followed. -/
def startOf (tree : Tree) (path : Bytes) : Location :=
  if Path.isRooted path then [] else tree.here

/-- A path is located by a walk along its steps. -/
theorem locateBy_eq_ok_iff {tree : Tree} {follows : Bool} {path : Bytes} {location : Location} :
    tree.locateBy follows path = .ok location ↔ IsPath path ∧
      tree.walk follows (linkLimit + 1) (tree.startOf path) (steps path) = .ok location := by
  unfold locateBy
  simp only [List.contains_eq_mem, decide_eq_true_eq, List.isEmpty_iff]
  constructor
  · intro h
    split at h
    · cases h
    split at h
    · cases h
    split at h
    · cases h
    next hzero hempty hlong =>
    exact ⟨⟨hzero, hempty, Nat.not_lt.1 hlong⟩, h⟩
  · rintro ⟨⟨hzero, hempty, hlong⟩, h⟩
    rw [if_neg hzero, if_neg hempty, if_neg (Nat.not_lt.2 hlong)]
    exact h

/-! ## The names along a path -/

/-- A name is one step. -/
theorem steps_of_no_slash {name : Bytes} (hne : name ≠ []) (hslash : Path.slash ∉ name) :
    steps name = [name] := by
  have hlast : ¬ name.getLast? = some Path.slash := fun h => hslash (List.mem_of_getLast? h)
  simp [steps, Path.names_of_no_slash hslash, hne, hlast]

/-- The steps before a slash come before those after it. -/
theorem steps_append (s : Bytes) {t : Bytes} (ht : t ≠ []) :
    steps (s ++ Path.slash :: t) = (Path.names s).filter (!·.isEmpty) ++ steps t := by
  have hlast : (s ++ Path.slash :: t).getLast? = t.getLast? := by
    rw [List.getLast?_append_cons, List.getLast?_cons, List.getLast?_eq_some_getLast ht]
    rfl
  rw [steps, steps, hlast, Path.names_append, List.filter_append, List.append_assoc]

/-- There is at least one name on the way along a path. -/
theorem steps_ne_nil {path : Bytes} (h : path ≠ []) : steps path ≠ [] := by
  induction path using Bytes.splitInduction Path.slash with
  | last name hslash =>
    rw [steps_of_no_slash h hslash]
    exact List.cons_ne_nil _ _
  | cons s t _ ih =>
    by_cases ht : t = []
    · simp [steps, ht]
    · rw [steps_append s ht]
      exact List.append_ne_nil_of_right_ne_nil _ (ih ht)

/-- The names along a path that was put together from names. -/
theorem steps_joined {list : List Bytes} (hne : list ≠ [])
    (h : ∀ name ∈ list, name ≠ [] ∧ Path.slash ∉ name) :
    steps (Bytes.joined [Path.slash] list) = list := by
  induction list with
  | nil => exact absurd rfl hne
  | cons first rest ih =>
    rw [List.forall_mem_cons] at h
    cases rest with
    | nil => simpa [Bytes.joined] using steps_of_no_slash h.1.1 h.1.2
    | cons second rest =>
      have hsecond := h.2 second (List.mem_cons_self ..)
      rw [Bytes.joined_cons (List.cons_ne_nil _ _), List.singleton_append,
        steps_append _ (by simp [Bytes.joined, hsecond.1]),
        ih (List.cons_ne_nil _ _) h.2, Path.names_of_no_slash h.1.2]
      simp [h.1.1]

/-- The names along a cleaned path that has any are its names. -/
theorem steps_ofNames {rooted : Bool} {list : List Bytes} (h : Path.AreNames rooted list)
    (hne : list ≠ []) : steps (Path.ofNames rooted list) = list := by
  have hlist : ∀ name ∈ list, name ≠ [] ∧ Path.slash ∉ name := fun name hmem =>
    ⟨h.clean.ne_nil hmem, h.noSlash name hmem⟩
  have hjoined := steps_joined hne hlist
  have hnonempty : Bytes.joined [Path.slash] list ≠ [] := by
    cases list with
    | nil => exact absurd rfl hne
    | cons first rest => simp [Bytes.joined, (hlist first (List.mem_cons_self ..)).1]
  cases rooted with
  | true => exact (steps_append [] hnonempty).trans hjoined
  | false => simpa [Path.ofNames, hne] using hjoined

/-! ## Trees in which paths lead the same way -/

/-- `Keeps before after`: the later tree has the links of the earlier one and all its directories,
so that a path that leads somewhere leads there still. -/
structure Keeps (before after : Tree) : Prop where
  here : after.here = before.here
  links : ∀ location, after.link? location = before.link? location
  directories : ∀ location, before.HasDirectory location → after.HasDirectory location

namespace Keeps

/-- A tree keeps itself. -/
theorem refl (tree : Tree) : Keeps tree tree := ⟨rfl, fun _ => rfl, fun _ h => h⟩

/-- What is kept twice is kept. -/
theorem trans {a b c : Tree} (h : Keeps a b) (h' : Keeps b c) : Keeps a c where
  here := h'.here.trans h.here
  links location := (h'.links location).trans (h.links location)
  directories location hd := h'.directories location (h.directories location hd)

/-- Something that is put where there was nothing changes nothing for paths. -/
theorem put {tree : Tree} {location : Location} (hfree : tree.isTaken location = false)
    (node : Node) : Keeps tree (tree.put location node) where
  here := rfl
  links other := by
    rw [link?_put]
    split
    · next heq => rw [heq, (isTaken_eq_false_iff.1 hfree).2]
    · rfl
  directories other hdir := by
    have hne : other ≠ location := by
      rintro rfl
      exact Bool.noConfusion (hfree.symm.trans hdir.isTaken)
    obtain ⟨mode, hmode⟩ := hdir
    exact ⟨mode, by rw [get?_put _ _ (ne_nil_of_not_taken hfree), if_neg hne, hmode]⟩

variable {before after : Tree} (h : Keeps before after)
include h

/-- A walk is kept. -/
theorem walks {follows : Bool} {location : Location} {names : List Bytes}
    {found : Location ⊕ Detour} (hwalks : Walks before follows location names found) :
    Walks after follows location names found := by
  induction hwalks with
  | done location => exact .done location
  | same hdir _ ih => exact .same (h.directories _ hdir) ih
  | up hdir _ ih => exact .up (h.directories _ hdir) ih
  | name hdir hname hlink _ ih =>
    exact .name (h.directories _ hdir) hname ((h.links _).trans hlink) ih
  | link hdir hname hlink hrest =>
    exact .link (h.directories _ hdir) hname ((h.links _).trans hlink) hrest
  | linkAtEnd hdir hname hlink hfollows =>
    exact .linkAtEnd (h.directories _ hdir) hname ((h.links _).trans hlink) hfollows

/-- A walk that follows links is kept. -/
theorem walk {follows : Bool} {links : Nat} {location found : Location} {names : List Bytes}
    (hwalk : before.walk follows links location names = .ok found) :
    after.walk follows links location names = .ok found := by
  induction links generalizing location names with
  | zero => cases hwalk
  | succ links ih =>
    rw [walk_succ_eq_ok_iff] at hwalk ⊢
    rcases hwalk with hwalks | ⟨detour, hwalks, hrest⟩
    · exact .inl (h.walks hwalks)
    · exact .inr ⟨detour, h.walks hwalks, ih hrest⟩

/-- A path that leads somewhere leads there still. -/
theorem locateBy {follows : Bool} {path : Bytes} {location : Location}
    (hpath : before.locateBy follows path = .ok location) :
    after.locateBy follows path = .ok location := by
  rw [locateBy_eq_ok_iff] at hpath ⊢
  refine ⟨hpath.1, ?_⟩
  rw [startOf, h.here]
  exact h.walk hpath.2

end Keeps

/-! ## Links at the end of a path -/

/-- Whether links are followed makes no difference to names that do not lead to one. -/
theorem Walks.follow {tree : Tree} {location : Location} {names : List Bytes}
    {found : Location ⊕ Detour} (h : Walks tree false location names found)
    (hlink : ∀ end_, found = .inl end_ → tree.link? end_ = none) :
    Walks tree true location names found := by
  induction h with
  | done location => exact .done location
  | same hdir _ ih => exact .same hdir (ih hlink)
  | up hdir _ ih => exact .up hdir (ih hlink)
  | name hdir hname hnone _ ih => exact .name hdir hname hnone (ih hlink)
  | link hdir hname hsome _ => exact .link hdir hname hsome (.inr rfl)
  | linkAtEnd hdir hname hsome _ => cases (hlink _ rfl).symm.trans hsome

/-- Where there is no link it does not matter whether a last one is followed. -/
theorem walk_follow {tree : Tree} {links : Nat} {location found : Location} {names : List Bytes}
    (h : tree.walk false links location names = .ok found) (hlink : tree.link? found = none) :
    tree.walk true links location names = .ok found := by
  induction links generalizing location names with
  | zero => cases h
  | succ links ih =>
    rw [walk_succ_eq_ok_iff] at h ⊢
    rcases h with hwalks | ⟨detour, hwalks, hrest⟩
    · exact .inl (hwalks.follow fun _ hend => by cases hend; exact hlink)
    · exact .inr ⟨detour, hwalks.follow nofun, ih hrest⟩

/-- A path that names a location at which there is no link leads there. -/
theorem locate_of_locateName {tree : Tree} {path : Bytes} {location : Location}
    (h : tree.locateName path = .ok location) (hlink : tree.link? location = none) :
    tree.locate path = .ok location := by
  obtain ⟨hpath, hwalk⟩ := locateBy_eq_ok_iff.1 h
  exact locateBy_eq_ok_iff.2 ⟨hpath, walk_follow hwalk hlink⟩

/-! ## One more name -/

/-- What names lead to, with one more name behind them. -/
def Detour.concat (detour : Detour) (name : Bytes) : Detour :=
  { detour with rest := detour.rest ++ [name] }

/-- A walk that has arrived goes on with one more name. -/
theorem Walks.concat_location {tree : Tree} {location place : Location} {names : List Bytes}
    (h : Walks tree true location names (.inl place)) {follows : Bool} {name : Bytes}
    {found : Location ⊕ Detour} (hlast : Walks tree follows place [name] found) :
    Walks tree follows location (names ++ [name]) found := by
  generalize hend : (Sum.inl place : Location ⊕ Detour) = end_ at h
  induction h with
  | done location =>
    cases hend
    exact hlast
  | same hdir _ ih => exact .same hdir (ih hend)
  | up hdir _ ih => exact .up hdir (ih hend)
  | name hdir hname hnone _ ih => exact .name hdir hname hnone (ih hend)
  | link => cases hend
  | linkAtEnd _ _ _ hfollows => cases hfollows

/-- A walk that has come to a link has one more name to go. -/
theorem Walks.concat_detour {tree : Tree} {location : Location} {names : List Bytes}
    {detour : Detour} (h : Walks tree true location names (.inr detour)) (follows : Bool)
    (name : Bytes) : Walks tree follows location (names ++ [name]) (.inr (detour.concat name)) := by
  generalize hend : (Sum.inr detour : Location ⊕ Detour) = end_ at h
  induction h with
  | done location => cases hend
  | same hdir _ ih => exact .same hdir (ih hend)
  | up hdir _ ih => exact .up hdir (ih hend)
  | name hdir hname hnone _ ih => exact .name hdir hname hnone (ih hend)
  | link hdir hname hsome _ =>
    cases hend
    exact .link hdir hname hsome (.inl (by simp))
  | linkAtEnd => cases hend

/-- Names that lead to a directory and one more name lead to what has that name there. -/
theorem walk_concat {tree : Tree} {links : Nat} {location place : Location} {names : List Bytes}
    (h : tree.walk true links location names = .ok place) (hdir : tree.HasDirectory place)
    {name : Bytes} (hname : IsName name) {follows : Bool}
    (hlink : follows = true → tree.link? (place ++ [name]) = none) :
    tree.walk follows links location (names ++ [name]) = .ok (place ++ [name]) := by
  have hlast : Walks tree follows place [name] (.inl (place ++ [name])) := by
    cases hcase : tree.link? (place ++ [name]) with
    | none => exact .name hdir hname hcase (.done _)
    | some target =>
      cases follows with
      | false => exact .linkAtEnd hdir hname hcase rfl
      | true => cases (hlink rfl).symm.trans hcase
  induction links generalizing location names with
  | zero => cases h
  | succ links ih =>
    rw [walk_succ_eq_ok_iff] at h ⊢
    rcases h with hwalks | ⟨detour, hwalks, hrest⟩
    · exact .inl (hwalks.concat_location hlast)
    · refine .inr ⟨detour.concat name, hwalks.concat_detour follows name, ?_⟩
      have hnames : steps (detour.concat name).target ++ (detour.concat name).rest
          = steps detour.target ++ detour.rest ++ [name] := by simp [Detour.concat]
      rw [hnames]
      exact ih hrest

/-- One more name behind a cleaned path that leads to a directory. -/
theorem locateBy_ofNames_concat {tree : Tree} {rooted : Bool} {list : List Bytes} {name : Bytes}
    {place : Location} {follows : Bool} (hlist : Path.AreNames rooted list) (hne : list ≠ [])
    (hplain : Path.IsPlain name) (hslash : Path.slash ∉ name) (hshort : name.length ≤ longestName)
    (hplace : tree.locate (Path.ofNames rooted list) = .ok place) (hdir : tree.HasDirectory place)
    (hpath : IsPath (Path.ofNames rooted (list ++ [name])))
    (hlink : follows = true → tree.link? (place ++ [name]) = none) :
    tree.locateBy follows (Path.ofNames rooted (list ++ [name])) = .ok (place ++ [name]) := by
  have hmore := hlist.concat hplain hslash
  obtain ⟨-, hwalk⟩ := locateBy_eq_ok_iff.1 hplace
  rw [startOf, Path.isRooted_ofNames hlist, steps_ofNames hlist hne] at hwalk
  refine locateBy_eq_ok_iff.2 ⟨hpath, ?_⟩
  rw [startOf, Path.isRooted_ofNames hmore, steps_ofNames hmore (by simp)]
  exact walk_concat hwalk hdir ⟨hplain.notSame, hplain.notUp, hshort⟩ hlink

/-! ## Paths that end in one link -/

/-- The path of a directory ends in the link that another path names: with the link gone, it leads
to where the link was. -/
def EndsInLink (tree : Tree) (directory path : Bytes) : Prop :=
  ∃ location, tree.locateName path = .ok location ∧ tree.link? location ≠ none ∧
    (tree.erase location).locate directory = .ok location

/-- A path without a link in its place does not end in one. -/
theorem not_endsInLink_of_linkAt?_eq_none {tree : Tree} {path : Bytes}
    (h : tree.linkAt? path = none) (directory : Bytes) : ¬ tree.EndsInLink directory path := by
  rintro ⟨location, hlocation, hlink, -⟩
  rw [linkAt?, hlocation] at h
  exact hlink h

/-! ## Proper trees -/

/-- Whatever has a name stands in a directory. -/
def IsProper (tree : Tree) : Prop :=
  ∀ location name, tree.isTaken (location ++ [name]) = true → tree.HasDirectory location

/-- The locations at which something is listed. -/
def listed (tree : Tree) : List Location := tree.nodes.map (·.1) ++ tree.links.map (·.1)

/-- A place below the root is taken just if it is listed. -/
theorem isTaken_iff_mem_listed {tree : Tree} {location : Location} (h : location ≠ []) :
    tree.isTaken location = true ↔ location ∈ tree.listed := by
  simp only [isTaken, get?_of_ne_nil h, link?, Bool.or_eq_true, List.lookup_isSome_iff, beq_iff_eq,
    listed, List.mem_append, List.mem_map, eq_comm (a := location)]

/-- Properness is a matter of the listing. -/
theorem isProper_iff {tree : Tree} :
    tree.IsProper ↔ ∀ location ∈ tree.listed,
      (tree.get? location.dropLast).any Node.isDirectory = true := by
  have hdirectory (location : Location) :
      tree.HasDirectory location ↔ (tree.get? location).any Node.isDirectory = true := by
    unfold HasDirectory
    cases tree.get? location with
    | none => simp
    | some node => cases node <;> simp [Node.isDirectory]
  simp only [← hdirectory]
  constructor
  · intro h location hmem
    rcases List.eq_nil_or_concat location with rfl | ⟨above, name, rfl⟩
    · exact hasDirectory_nil tree
    · rw [List.concat_eq_append, List.dropLast_concat] at *
      exact h above name ((isTaken_iff_mem_listed (by simp)).2 hmem)
  · intro h location name htaken
    have := h _ ((isTaken_iff_mem_listed (by simp)).1 htaken)
    rwa [List.dropLast_concat] at this

instance (tree : Tree) : Decidable tree.IsProper := decidable_of_iff _ isProper_iff.symm

/-- A location at which something may stand: the root, or one in a directory. -/
def Stands (tree : Tree) (location : Location) : Prop :=
  ∀ above name, location = above ++ [name] → tree.HasDirectory above

/-- The same of what names lead to: a link is found in a directory. -/
def StandsFound (tree : Tree) : Location ⊕ Detour → Prop
  | .inl location => tree.Stands location
  | .inr detour => tree.HasDirectory detour.location

/-- Something may stand in a directory. -/
theorem HasDirectory.stands {tree : Tree} {location : Location} (h : tree.HasDirectory location)
    (name : Bytes) : tree.Stands (location ++ [name]) := by
  intro above last heq
  obtain ⟨rfl, -⟩ := List.append_inj' heq rfl
  exact h

namespace IsProper

variable {tree : Tree} (h : tree.IsProper)
include h

/-- A directory stands. -/
theorem stands {location : Location} (hdir : tree.HasDirectory location) :
    tree.Stands location := by
  rintro above name rfl
  exact h above name hdir.isTaken

/-- So does the directory around it. -/
theorem stands_dropLast {location : Location} (hdir : tree.HasDirectory location) :
    tree.Stands location.dropLast := by
  rcases List.eq_nil_or_concat location with rfl | ⟨above, name, rfl⟩
  · exact h.stands (hasDirectory_nil tree)
  · rw [List.concat_eq_append, List.dropLast_concat]
    exact h.stands (h.stands hdir above name List.concat_eq_append)

/-- Names lead to a location in a directory, and to links from directories. -/
theorem walks_stands {follows : Bool} {location : Location} {names : List Bytes}
    {found : Location ⊕ Detour} (hwalks : Walks tree follows location names found)
    (hstart : names ≠ [] ∨ tree.Stands location) : tree.StandsFound found := by
  induction hwalks with
  | done location => exact hstart.resolve_left (absurd rfl)
  | same hdir _ ih => exact ih (.inr (h.stands hdir))
  | up hdir _ ih => exact ih (.inr (h.stands_dropLast hdir))
  | name hdir _ _ _ ih => exact ih (.inr (hdir.stands _))
  | link hdir => exact hdir
  | linkAtEnd hdir => exact hdir.stands _

/-- A walk ends where something may stand. -/
theorem walk_stands {follows : Bool} {links : Nat} {location found : Location} {names : List Bytes}
    (hwalk : tree.walk follows links location names = .ok found)
    (hstart : names ≠ [] ∨ tree.Stands location) : tree.Stands found := by
  induction links generalizing location names with
  | zero => cases hwalk
  | succ links ih =>
    rw [walk_succ_eq_ok_iff] at hwalk
    rcases hwalk with hwalks | ⟨detour, hwalks, hrest⟩
    · exact h.walks_stands hwalks hstart
    · refine ih hrest (.inr ?_)
      split
      · exact h.stands (hasDirectory_nil tree)
      · exact h.stands (h.walks_stands hwalks hstart)

/-- A path leads to a location in a directory. -/
theorem locateBy_stands {follows : Bool} {path : Bytes} {location : Location}
    (hpath : tree.locateBy follows path = .ok location) : tree.Stands location := by
  obtain ⟨hpath, hwalk⟩ := locateBy_eq_ok_iff.1 hpath
  exact h.walk_stands hwalk (.inl (steps_ne_nil hpath.notEmpty))

/-- Where no directory is, nothing stands below. -/
theorem not_taken {location : Location} (hdir : ¬ tree.HasDirectory location) (name : Bytes) :
    tree.isTaken (location ++ [name]) = false := by
  rw [Bool.eq_false_iff]
  exact fun htaken => hdir (h location name htaken)

/-- Something more that is put into a directory leaves a tree proper. -/
theorem put {location : Location} (hfree : tree.isTaken location = false)
    (hstands : tree.Stands location) (node : Node) : (tree.put location node).IsProper := by
  have hkeeps := Keeps.put hfree node
  have hne := ne_nil_of_not_taken hfree
  intro above name htaken
  by_cases hhere : above ++ [name] = location
  · exact hkeeps.directories above (hstands above name hhere.symm)
  · refine hkeeps.directories above (h above name ?_)
    rwa [isTaken, get?_put _ _ hne, link?_put, if_neg hhere, if_neg hhere] at htaken

end IsProper

end Tree

end Files

end FunctionChain
