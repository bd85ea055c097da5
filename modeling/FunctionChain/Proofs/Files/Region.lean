import FunctionChain.Proofs.Files.Shelf
import FunctionChain.Proofs.Text.Decimal

/-!
# Changes in a region

What is done to a tree may change only what stands at locations of a class (`ChangesOnly`). Making a
directory with those that lead to it is an example: only directories are added, at the locations at
which the way breaks off (`IsOnWay`, `makeDirectories_makesWay`). Elsewhere files may come and go: as
long as directories stay directories and links stay links, names that have led to a directory lead
there still (`KeepsWays`).
-/

namespace FunctionChain

namespace Files

open Files.Action Files.Tree

/-! ## Classes of locations -/

/-- All that has changed stands at locations of a class. -/
structure ChangesOnly (isOne : Location → Prop) (before after : Tree) : Prop where
  here : after.here = before.here
  nodes : ∀ location, ¬ isOne location → after.get? location = before.get? location
  links : ∀ location, ¬ isOne location → after.link? location = before.link? location

section ChangesOnly

variable {isOne isOther : Location → Prop} {before middle after : Tree}

namespace ChangesOnly

/-- A tree does not change by itself. -/
theorem refl (tree : Tree) : ChangesOnly isOne tree tree := ⟨rfl, fun _ _ => rfl, fun _ _ => rfl⟩

/-- Changes one after the other stay in the places of both. -/
theorem trans (h : ChangesOnly isOne before middle) (h' : ChangesOnly isOne middle after) :
    ChangesOnly isOne before after where
  here := h'.here.trans h.here
  nodes location hnot := (h'.nodes location hnot).trans (h.nodes location hnot)
  links location hnot := (h'.links location hnot).trans (h.links location hnot)

/-- Changes stay in more places too. -/
theorem mono (h : ChangesOnly isOne before after) (himp : ∀ location, isOne location →
    isOther location) : ChangesOnly isOther before after where
  here := h.here
  nodes location hnot := h.nodes location (mt (himp location) hnot)
  links location hnot := h.links location (mt (himp location) hnot)

end ChangesOnly

/-- Trees that are alike differ nowhere. -/
theorem Tree.Alike.changesOnly (h : Alike before after) : ChangesOnly isOne before after :=
  ⟨h.here, fun location _ => h.nodes location, fun location _ => h.links location⟩

/-- Writing a node changes its place only. -/
theorem IsWritten.changesOnly {location : Location} {node : Node}
    (h : IsWritten before location node after) : ChangesOnly (· = location) before after where
  here := h.here
  nodes other hother := by rw [h.nodes, if_neg hother]
  links other hother := by rw [h.links, if_neg hother]

end ChangesOnly

/-! ## Taking a directory away -/

namespace Tree

variable {tree : Tree} {location : Location}

/-- Nothing is left at a place that was taken away, nor below it. -/
theorem get?_eraseAll (h : location ≠ []) (other : Location) :
    (tree.eraseAll location).get? other
      = if location <+: other then none else tree.get? other := by
  by_cases hroot : other = []
  · subst hroot
    rw [if_neg (by simpa using h), get?_nil, get?_nil]
  · rw [get?_of_ne_nil hroot, get?_of_ne_nil hroot, eraseAll, without]
    refine (Association.lookup_filter tree.nodes location.isPrefixOf other).trans ?_
    simp

/-- No link is left there either. -/
theorem link?_eraseAll (other : Location) :
    (tree.eraseAll location).link? other
      = if location <+: other then none else tree.link? other := by
  refine (Association.lookup_filter tree.links location.isPrefixOf other).trans ?_
  simp [link?]

/-- Where nothing stands, nothing stands below. -/
theorem IsProper.not_taken_below (hproper : tree.IsProper) (hfree : tree.isTaken location = false)
    (more : List Bytes) : tree.isTaken (location ++ more) = false := by
  induction more generalizing location with
  | nil => rwa [List.append_nil]
  | cons name rest ih =>
    rw [List.append_cons]
    refine ih (hproper.not_taken ?_ name)
    rintro ⟨mode, hmode⟩
    cases (isTaken_eq_false_iff.1 hfree).1.symm.trans hmode

/-- Nothing but directories is passed. -/
theorem Walks.false_of_not_taken {follows : Bool} {place : Location} {first : Bytes}
    {rest : List Bytes} {found : Location ⊕ Detour}
    (h : Walks tree follows place (first :: rest) found)
    (hfree : tree.isTaken (place ++ [first]) = false) (hplain : Path.IsPlain first)
    (hend : ∀ last, found = .inl last → tree.HasDirectory last) : False := by
  obtain ⟨hnode, hlink⟩ := isTaken_eq_false_iff.1 hfree
  have hnodir : ¬ tree.HasDirectory (place ++ [first]) := by
    rintro ⟨mode, hmode⟩
    cases hnode.symm.trans hmode
  cases h with
  | same => exact hplain.notSame rfl
  | up => exact hplain.notUp rfl
  | name _ _ _ hrest =>
    cases hrest with
    | done => exact hnodir (hend _ rfl)
    | same hnext | up hnext | name hnext | link hnext | linkAtEnd hnext => exact hnodir hnext
  | link _ _ hsome | linkAtEnd _ _ hsome => cases hlink.symm.trans hsome

/-- If no link stands on the way, there is none. -/
theorem isLinkFree_of_begun {place : Location} {names : List Bytes}
    (h : ∀ init, init ≠ [] → init <+: names → tree.link? (place ++ init) = none) :
    tree.IsLinkFree place names := by
  induction names generalizing place with
  | nil => trivial
  | cons name rest ih =>
    refine ⟨h [name] (List.cons_ne_nil name []) (by simp), ih fun init _ hinit => ?_⟩
    rw [List.append_assoc]
    exact h (name :: init) (List.cons_ne_nil name init) (List.cons_prefix_cons.2 ⟨rfl, hinit⟩)

end Tree

/-- Removing a path takes away its place and everything below. -/
theorem removeAll_ok {path : Bytes} {location : Location} {tree : Tree}
    (h : tree.locateName path = .ok location) :
    (removeAll path).on tree = (.ok (), tree.eraseAll location) := by
  unfold removeAll
  rw [on_get_bind, h]
  rfl

/-- What is new in a directory goes when the directory does. -/
theorem ChangesOnly.eraseAll {isOther : Location → Prop} {before tree : Tree} {location : Location}
    (h : ChangesOnly (fun other => location <+: other ∨ isOther other) before tree)
    (hproper : before.IsProper) (hfree : before.isTaken location = false) :
    ChangesOnly isOther before (tree.eraseAll location) where
  here := h.here
  nodes other hother := by
    rw [get?_eraseAll (ne_nil_of_not_taken hfree)]
    split
    · next hbelow =>
      obtain ⟨more, rfl⟩ := hbelow
      exact (isTaken_eq_false_iff.1 (hproper.not_taken_below hfree more)).1.symm
    · next hbelow => exact h.nodes other (not_or.2 ⟨hbelow, hother⟩)
  links other hother := by
    rw [link?_eraseAll]
    split
    · next hbelow =>
      obtain ⟨more, rfl⟩ := hbelow
      exact (isTaken_eq_false_iff.1 (hproper.not_taken_below hfree more)).2.symm
    · next hbelow => exact h.links other (not_or.2 ⟨hbelow, hother⟩)

/-! ## Ways that are kept -/

/-- Directories stay directories and links stay links, and no link takes the place of a directory. -/
structure KeepsWays (before after : Tree) : Prop where
  here : after.here = before.here
  directories : ∀ location, before.HasDirectory location → after.HasDirectory location
  links : ∀ location target, before.link? location = some target →
    after.link? location = some target
  unlinked : ∀ location, before.HasDirectory location → before.link? location = none →
    after.link? location = none

namespace KeepsWays

variable {before middle after : Tree}

/-- The ways of a tree are kept if it does not change. -/
theorem refl (tree : Tree) : KeepsWays tree tree :=
  ⟨rfl, fun _ h => h, fun _ _ h => h, fun _ _ h => h⟩

/-- Ways that are kept twice are kept. -/
theorem trans (h : KeepsWays before middle) (h' : KeepsWays middle after) :
    KeepsWays before after where
  here := h'.here.trans h.here
  directories location hdir := h'.directories location (h.directories location hdir)
  links location target hlink := h'.links location target (h.links location target hlink)
  unlinked location hdir hlink :=
    h'.unlinked location (h.directories location hdir) (h.unlinked location hdir hlink)

/-- Changes at places that were empty in the beginning are on no way. -/
theorem changes {isOne : Location → Prop} (h : KeepsWays before middle)
    (hchanges : ChangesOnly isOne middle after)
    (hone : ∀ location, isOne location → before.isTaken location = false) :
    KeepsWays before after := by
  have hdirectory (location : Location) (hdir : before.HasDirectory location) : ¬ isOne location :=
    fun hlocation => Bool.noConfusion ((hone location hlocation).symm.trans hdir.isTaken)
  refine ⟨hchanges.here.trans h.here, fun location hdir => ?_, fun location target hlink => ?_,
    fun location hdir hlink => ?_⟩
  · obtain ⟨mode, hmode⟩ := h.directories location hdir
    exact ⟨mode, (hchanges.nodes location (hdirectory location hdir)).trans hmode⟩
  · refine (hchanges.links location fun hlocation => ?_).trans (h.links location target hlink)
    cases (isTaken_eq_false_iff.1 (hone location hlocation)).2.symm.trans hlink
  · have hkept := h.unlinked location hdir hlink
    exact (hchanges.links location (hdirectory location hdir)).trans hkept

variable (h : KeepsWays before after)
include h

/-- A walk between directories is the same after a change that keeps the ways. -/
theorem walks {follows : Bool} {start : Location} {names : List Bytes} {found : Location ⊕ Detour}
    (hwalks : Walks before follows start names found)
    (hend : ∀ place, found = .inl place → before.HasDirectory place) :
    Walks after follows start names found := by
  induction hwalks with
  | done start => exact .done start
  | same hdir _ ih => exact .same (h.directories _ hdir) (ih hend)
  | up hdir _ ih => exact .up (h.directories _ hdir) (ih hend)
  | @name start name rest found hdir hname hlink hrest ih =>
    -- The names go on behind a directory, or end at one.
    have hnext : before.HasDirectory (start ++ [name]) := by
      cases hrest with
      | done => exact hend _ rfl
      | same hnext | up hnext | name hnext | link hnext | linkAtEnd hnext => exact hnext
    exact .name (h.directories _ hdir) hname (h.unlinked _ hnext hlink) (ih hend)
  | link hdir hname hlink hrest =>
    exact .link (h.directories _ hdir) hname (h.links _ _ hlink) hrest
  | linkAtEnd hdir hname hlink hfollows =>
    exact .linkAtEnd (h.directories _ hdir) hname (h.links _ _ hlink) hfollows

/-- A walk that follows links and ends in a directory is the same too. -/
theorem walk {follows : Bool} {links : Nat} {start place : Location} {names : List Bytes}
    (hwalk : before.walk follows links start names = .ok place)
    (hdir : before.HasDirectory place) : after.walk follows links start names = .ok place := by
  induction links generalizing start names with
  | zero => cases hwalk
  | succ links ih =>
    rw [walk_succ_eq_ok_iff] at hwalk ⊢
    rcases hwalk with hwalks | ⟨detour, hwalks, hrest⟩
    · exact .inl (h.walks hwalks fun _ heq => by cases heq; exact hdir)
    · exact .inr ⟨detour, h.walks hwalks nofun, ih hrest⟩

/-- Names that have led to a directory lead there still. -/
theorem reach {rooted : Bool} {names : List Bytes} {place : Location}
    (hplace : before.reach rooted names = .ok place) (hdir : before.HasDirectory place) :
    after.reach rooted names = .ok place := by
  rw [Tree.reach, h.here]
  exact h.walk hplace hdir

end KeepsWays

/-- A plain name behind names that lead to a directory. -/
theorem locateBy_of_reach {tree : Tree} {follows : Bool} {names : List Bytes} {name : Bytes}
    {place : Location} (hnames : Path.AreNames true (names ++ [name]))
    (hpath : IsPath (Path.ofNames true (names ++ [name]))) (hplain : Path.IsPlain name)
    (hshort : name.length ≤ longestName) (hplace : tree.reach true names = .ok place)
    (hdir : tree.HasDirectory place)
    (hlink : follows = true → tree.link? (place ++ [name]) = none) :
    tree.locateBy follows (Path.ofNames true (names ++ [name])) = .ok (place ++ [name]) := by
  rw [locateBy_ofNames hnames (by simp) hpath]
  exact walk_concat hplace hdir ⟨hplain.notSame, hplain.notUp, hshort⟩ hlink

/-- A cleaned path leads where its names lead. -/
theorem reach_of_locate {tree : Tree} {rooted : Bool} {names : List Bytes} {location : Location}
    (hnames : Path.AreNames rooted names)
    (h : tree.locate (Path.ofNames rooted names) = .ok location) :
    tree.reach rooted names = .ok location := by
  have hpath := (locateBy_eq_ok_iff.1 h).1
  by_cases hne : names = []
  · subst hne
    -- The path of no names is that of the directory itself.
    have hsteps : steps (Path.ofNames rooted []) = [Path.same] := by
      cases rooted <;> decide
    rw [locate, locateBy_of_isPath hpath, startOf, Path.isRooted_ofNames hnames, hsteps,
      walk_succ_eq_ok_iff] at h
    rcases h with hwalks | ⟨detour, hwalks, -⟩
    · cases hwalks with
      | same _ hrest =>
        cases hrest
        rfl
      | name _ hname | linkAtEnd _ hname => exact absurd rfl hname.notSame
    · cases hwalks with
      | same _ hrest => cases hrest
      | name _ hname | link _ hname => exact absurd rfl hname.notSame
  · rwa [locate, locateBy_ofNames hnames hne hpath] at h

/-- A name that is no link leads one step further. -/
theorem reach_concat {tree : Tree} {names : List Bytes} {name : Bytes} {place : Location}
    (hplain : Path.IsPlain name) (hshort : name.length ≤ longestName)
    (hplace : tree.reach true names = .ok place) (hdir : tree.HasDirectory place)
    (hlink : tree.link? (place ++ [name]) = none) :
    tree.reach true (names ++ [name]) = .ok (place ++ [name]) :=
  walk_concat hplace hdir ⟨hplain.notSame, hplain.notUp, hshort⟩ fun _ => hlink

/-! ## Making the way to a directory -/

section MakesWay

variable {rooted : Bool}

/-- The names lead to a directory and go on behind it, where nothing stands, to a location. -/
def LeadsBeyond (rooted : Bool) (tree : Tree) (names : List Bytes) (location : Location) : Prop :=
  ∃ front first more place, names = front ++ first :: more ∧ tree.reach rooted front = .ok place ∧
    tree.HasDirectory place ∧ tree.isTaken (place ++ [first]) = false ∧ Path.IsPlain first ∧
    location = place ++ first :: more

/-- What leads beyond the tree does so with one more name. -/
theorem LeadsBeyond.concat {tree : Tree} {names : List Bytes} {location : Location}
    (h : LeadsBeyond rooted tree names location) (name : Bytes) :
    LeadsBeyond rooted tree (names ++ [name]) (location ++ [name]) := by
  obtain ⟨front, first, more, place, rfl, hplace, hdir, hfree, hplain, rfl⟩ := h
  exact ⟨front, first, more ++ [name], place, by simp, hplace, hdir, hfree, hplain, by simp⟩

/-- A location at which there is no directory yet although the names lead through it. -/
def IsOnWay (rooted : Bool) (tree : Tree) (names : List Bytes) (location : Location) : Prop :=
  ∃ begun, begun <+: names ∧ LeadsBeyond rooted tree begun location

/-- The way along names is made, or a part of it: there are new directories on it, and nothing else
has changed. -/
structure MakesWay (rooted : Bool) (names : List Bytes) (before after : Tree) : Prop where
  adds : AddsDirectories before after
  only : ChangesOnly (IsOnWay rooted before names) before after
  proper : before.IsProper → after.IsProper

namespace MakesWay

variable {names : List Bytes} {before after : Tree}

/-- Nothing has to be made of a way in a tree that stays as it is. -/
theorem refl (tree : Tree) : MakesWay rooted names tree tree :=
  ⟨.refl tree, .refl tree, id⟩

/-- A way is made in a tree that is like one in which it is made. -/
theorem of_alike {middle : Tree} (h : MakesWay rooted names before middle)
    (hlike : Alike middle after) : MakesWay rooted names before after where
  adds := h.adds.trans
    ⟨hlike.here, hlike.links, fun location => .inl (hlike.nodes location)⟩
  only := h.only.trans hlike.changesOnly
  proper hproper := hlike.proper (h.proper hproper)

/-- Making the beginning of a way is making way for all of it. -/
theorem longer {more : List Bytes} (h : MakesWay rooted names before after)
    (hmore : names <+: more) : MakesWay rooted more before after :=
  ⟨h.adds, h.only.mono fun _ ⟨begun, hbegun, hleads⟩ => ⟨begun, hbegun.trans hmore, hleads⟩,
    h.proper⟩

/-- One more directory on the way. -/
theorem put {location : Location} (h : MakesWay rooted names before after)
    (hfree : after.isTaken location = false) (hstands : after.Stands location)
    (hway : IsOnWay rooted before names location) (mode : Nat) :
    MakesWay rooted names before (after.put location (.directory mode)) where
  adds := h.adds.trans (.put hfree mode)
  only := h.only.trans
    ((isWritten_put after (ne_nil_of_not_taken hfree) _).changesOnly.mono fun _ heq => heq ▸ hway)
  proper hproper := (h.proper hproper).put hfree hstands _

end MakesWay

/-- As far as names lead in a tree, or beyond the last directory on their way, there is one now. -/
def IsMade (rooted : Bool) (names : List Bytes) (before after : Tree) : Prop :=
  after = before ∨ ∃ location, LeadsBeyond rooted before names location ∧
    after.reach rooted names = .ok location

/-- One directory, when those that lead to it are there. -/
theorem makeDirectory_makesWay {names : List Bytes} {name : Bytes} {mode : Nat}
    {before middle after : Tree} {result : Except Error Unit}
    (hnames : Path.AreNames rooted (names ++ [name])) (hproper : middle.IsProper)
    (hway : MakesWay rooted names before middle) (hmade : IsMade rooted names before middle)
    (h : (makeDirectory (Path.ofNames rooted (names ++ [name])) mode).on middle = (result, after)) :
    MakesWay rooted (names ++ [name]) before after ∧
      (result = .ok () → IsMade rooted (names ++ [name]) before after) := by
  have hlonger := hway.longer (List.prefix_append names [name])
  cases result with
  | error error =>
    obtain rfl := makeDirectory_error h
    exact ⟨hlonger, nofun⟩
  | ok _ =>
    obtain ⟨location, hlocation, hfree, rfl⟩ := makeDirectory_ok h
    obtain ⟨place, hplace, hdir, hplain, -, rfl⟩ :=
      reach_of_locateName hproper hnames hlocation hfree
    have hleads : LeadsBeyond rooted before (names ++ [name]) (place ++ [name]) := by
      rcases hmade with rfl | ⟨last, hlast, hreach⟩
      · exact ⟨names, name, [], place, rfl, hplace, hdir, hfree, hplain, rfl⟩
      · cases hreach.symm.trans hplace
        exact hlast.concat name
    refine ⟨hlonger.put hfree (hdir.stands name) ⟨_, List.prefix_refl _, hleads⟩ mode,
      fun _ => .inr ⟨_, hleads, ?_⟩⟩
    have hkeeps := Keeps.put hfree (.directory mode)
    have hlink := (hkeeps.links (place ++ [name])).trans (isTaken_eq_false_iff.1 hfree).2
    have hlocate := locate_of_locateName (hkeeps.locateBy hlocation) hlink
    rwa [locate, locateBy_ofNames hnames (by simp) (locateBy_eq_ok_iff.1 hlocate).1] at hlocate

/-- Making directories makes way, and makes all of it unless it fails. -/
theorem makeDirectoriesWithin_makesWay {mode depth : Nat} {names : List Bytes} {tree after : Tree}
    {result : Except Error Unit} (hnames : Path.AreNames rooted names) (hne : names ≠ [])
    (hproper : tree.IsProper)
    (h : (makeDirectoriesWithin mode depth (Path.ofNames rooted names)).on tree = (result, after)) :
    MakesWay rooted names tree after ∧ (result = .ok () → IsMade rooted names tree after) := by
  induction depth generalizing names result after with
  | zero =>
    cases h
    exact ⟨.refl tree, fun hok => by cases hok⟩
  | succ depth ih =>
    unfold makeDirectoriesWithin at h
    rw [on_get_bind] at h
    obtain ⟨init, name, rfl⟩ := (List.eq_nil_or_concat' names).resolve_left hne
    split at h
    · cases h
      exact ⟨.refl tree, fun _ => .inl rfl⟩
    · cases h
      exact ⟨.refl tree, fun hok => by cases hok⟩
    · split at h
      · next parent hparent =>
        obtain ⟨hinit, rfl⟩ := eq_of_above?_eq_some hnames hparent
        rw [on_bind] at h
        split at h
        · next _ middle hmiddle =>
          obtain ⟨hway, hmade⟩ := ih hnames.of_append hinit hmiddle
          obtain ⟨_, hdone⟩ := makeDirectoriesWithin_ok hproper hmiddle
          exact makeDirectory_makesWay hnames hdone.proper hway (hmade rfl) h
        · next error middle hmiddle =>
          cases h
          obtain ⟨hway, -⟩ := ih hnames.of_append hinit hmiddle
          exact ⟨hway.longer (List.prefix_append init [name]), fun hok => by cases hok⟩
      · next habove =>
        -- A single name has nothing above it but the root.
        have hinit : init = [] := by
          by_contra hinit
          have hlast : name ∈ init ++ [name] := by simp
          rw [Path.ofNames_concat hinit, above?_append (Path.ofNames_ne_nil hnames.of_append)
            (hnames.clean.ne_nil hlast) (hnames.noSlash name hlast)] at habove
          cases habove
        subst hinit
        exact makeDirectory_makesWay hnames hproper (.refl tree) (.inl rfl) h

/-- **Ways.** Making a directory with those that lead to it adds directories where its way breaks off,
whether it is made or not. -/
theorem makeDirectories_makesWay {mode : Nat} {names : List Bytes} {tree after : Tree}
    {result : Except Error Unit} (hnames : Path.AreNames true names) (hproper : tree.IsProper)
    (h : (makeDirectories (Path.ofNames true names) mode).on tree = (result, after)) :
    MakesWay true names tree after := by
  by_cases hne : names = []
  · subst hne
    cases h
    exact .refl tree
  · exact (makeDirectoriesWithin_makesWay hnames hne hproper h).1

end MakesWay

/-! ## Files that come and go -/

/-- What stands at locations of a class has changed, but directories stay directories, and the links
are the same. -/
structure WorksAmong (isOne : Location → Prop) (before after : Tree) : Prop where
  only : ChangesOnly isOne before after
  directories : ∀ location, before.HasDirectory location → after.HasDirectory location
  links : ∀ location, after.link? location = before.link? location

section WorksAmong

variable {isOne : Location → Prop} {before middle after : Tree}

namespace WorksAmong

/-- Work on some places is work on them when it goes on. -/
theorem trans (h : WorksAmong isOne before middle) (h' : WorksAmong isOne middle after) :
    WorksAmong isOne before after where
  only := h.only.trans h'.only
  directories location hdir := h'.directories location (h.directories location hdir)
  links location := (h'.links location).trans (h.links location)

/-- Work on places that are neither directories nor links keeps the ways. -/
theorem keepsWays (h : WorksAmong isOne before after) : KeepsWays before after where
  here := h.only.here
  directories := h.directories
  links location _ hlink := (h.links location).trans hlink
  unlinked location _ hlink := (h.links location).trans hlink

end WorksAmong

/-- Trees that are alike have no work between them. -/
theorem Tree.Alike.worksAmong (h : Alike before after) : WorksAmong isOne before after where
  only := h.changesOnly
  directories _ hdir := h.hasDirectory_iff.2 hdir
  links := h.links

/-- Directories stay when directories are added. -/
theorem AddsDirectories.directories (h : AddsDirectories before after) (location : Location)
    (hdir : before.HasDirectory location) : after.HasDirectory location := by
  rcases h.nodes location with hsame | ⟨-, hnew⟩
  · obtain ⟨mode, hmode⟩ := hdir
    exact ⟨mode, hsame.trans hmode⟩
  · exact hnew

/-- Where nothing stands afterwards, nothing stood before. -/
theorem AddsDirectories.not_taken (h : AddsDirectories before after) {location : Location}
    (hfree : after.isTaken location = false) : before.isTaken location = false := by
  obtain ⟨hnode, hlink⟩ := isTaken_eq_false_iff.1 hfree
  rcases h.nodes location with hsame | ⟨hfree, -⟩
  · exact isTaken_eq_false_iff.2 ⟨hsame.symm.trans hnode, (h.links location).symm.trans hlink⟩
  · exact hfree

/-- Adding directories keeps the ways. -/
theorem AddsDirectories.keepsWays (h : AddsDirectories before after) : KeepsWays before after where
  here := h.here
  directories := h.directories
  links location _ hlink := (h.links location).trans hlink
  unlinked location _ hlink := (h.links location).trans hlink

/-- Making way is work on the places of the way. -/
theorem MakesWay.worksAmong {rooted : Bool} {names : List Bytes}
    (h : MakesWay rooted names before after)
    (himp : ∀ location, IsOnWay rooted before names location → isOne location) :
    WorksAmong isOne before after :=
  ⟨h.only.mono himp, h.adds.directories, h.adds.links⟩

/-- Writing a file where there is no directory and no link is work on its place. -/
theorem IsWritten.worksAmong {location : Location} {node : Node}
    (h : IsWritten before location node after) (hone : isOne location)
    (hdir : ¬ before.HasDirectory location) (hlink : before.link? location = none) :
    WorksAmong isOne before after where
  only := h.changesOnly.mono fun _ heq => heq ▸ hone
  directories _ hother := h.directories hother fun heq => hdir (heq ▸ hother)
  links := h.links_eq hlink

end WorksAmong

/-! ## Ways without links -/

/-- The first of the names lead to a root directory, from which the others go on. On their way and
behind its end there are no links, and all locations are of a class. -/
structure HoldsWay (isOne : Location → Prop) (rooted : Bool) (front more : List Bytes)
    (root : Location) (tree : Tree) : Prop where
  names : Path.AreNames rooted (front ++ more)
  reach : tree.reach rooted front = .ok root
  directory : tree.HasDirectory root
  plain : ∀ name ∈ more, Path.IsPlain name
  ones : ∀ rest, rest ≠ [] → rest <+: more ∨ more <+: rest →
    isOne (root ++ rest) ∧ tree.link? (root ++ rest) = none

namespace HoldsWay

variable {isOne : Location → Prop} {rooted : Bool} {front more last : List Bytes} {root : Location}
  {tree after : Tree}

/-- A way is held after a change that keeps the ways and the links along it. -/
theorem keeps (h : HoldsWay isOne rooted front more root tree) (hways : KeepsWays tree after)
    (hlinks : ∀ rest, rest <+: more ∨ more <+: rest →
      after.link? (root ++ rest) = tree.link? (root ++ rest)) :
    HoldsWay isOne rooted front more root after where
  names := h.names
  reach := hways.reach h.reach h.directory
  directory := hways.directories root h.directory
  plain := h.plain
  ones rest hne hrest := by
    obtain ⟨hone, hlink⟩ := h.ones rest hne hrest
    exact ⟨hone, (hlinks rest hrest).trans hlink⟩

variable (h : HoldsWay isOne rooted front more root tree)
include h

/-- All that the way goes through, with further names behind it. -/
theorem begun {init : List Bytes} (hne : init ≠ []) (hinit : init <+: more ++ last) :
    isOne (root ++ init) ∧ tree.link? (root ++ init) = none := by
  have hrest := List.prefix_or_prefix_of_prefix hinit (List.prefix_append more last)
  exact h.ones init hne hrest

/-- What stands at the end of the way and is no directory. -/
theorem of_locate {location : Location}
    (hlocate : tree.locate (Path.ofNames rooted (front ++ more)) = .ok location)
    (hdir : ¬ tree.HasDirectory location) : isOne location ∧ tree.link? location = none := by
  have hfree : tree.IsLinkFree root more := isLinkFree_of_begun fun init hne hbegun =>
    (h.ones init hne (.inl hbegun)).2
  obtain rfl := reach_append h.reach h.plain hfree (reach_of_locate h.names hlocate)
  refine h.ones more ?_ (.inl (List.prefix_refl more))
  rintro rfl
  rw [List.append_nil] at hdir
  exact hdir h.directory

/-- A place that is none of the class, and not above the root directory, is not on the way. -/
theorem not_above {place : Location} {rest : List Bytes} (hplace : ¬ isOne place)
    (hroot : ¬ place <+: root) (hrest : rest <+: more ∨ more <+: rest) :
    ¬ place <+: root ++ rest := by
  intro hbelow
  have heither := List.prefix_or_prefix_of_prefix hbelow (List.prefix_append root rest)
  obtain ⟨begun, rfl⟩ := heither.resolve_left hroot
  have hbegun := (List.prefix_append_right_inj root).1 hbelow
  refine hplace (h.ones begun ?_ ?_).1
  · rintro rfl
    rw [List.append_nil] at hroot
    exact hroot (List.prefix_refl root)
  · rcases hrest with hrest | hrest
    · exact .inl (hbegun.trans hrest)
    · exact List.prefix_or_prefix_of_prefix hbegun hrest

variable (hlast : ∀ name ∈ last, Path.IsPlain name)
include hlast

/-- The names of a way are plain. -/
theorem plain_append {name : Bytes} (hname : name ∈ more ++ last) : Path.IsPlain name :=
  (List.mem_append.1 hname).elim (h.plain name) (hlast name)

/-- Where the names lead to, with further ones behind them. -/
theorem eq_of_locateBy (hne : more ++ last ≠ [])
    (hnames : Path.AreNames rooted (front ++ (more ++ last))) {follows : Bool} {location : Location}
    (hlocate : tree.locateBy follows (Path.ofNames rooted (front ++ (more ++ last)))
      = .ok location) : location = root ++ (more ++ last) := by
  have hpath := (locateBy_eq_ok_iff.1 hlocate).1
  rw [locateBy_ofNames hnames (List.append_ne_nil_of_right_ne_nil _ hne) hpath] at hlocate
  obtain ⟨left, hleft⟩ := walk_append h.reach hne
  have hfree : tree.IsLinkFree root (more ++ last) :=
    isLinkFree_of_begun fun init hne hbegun => (h.begun hne hbegun).2
  rw [hleft, walk_eq_locationAlong (fun name hname => h.plain_append hlast hname) hfree] at hlocate
  exact eq_of_locationAlong hlocate

/-- The way breaks off behind the root directory. -/
theorem isOne_of_isOnWay {location : Location}
    (hway : IsOnWay rooted tree (front ++ (more ++ last)) location) : isOne location := by
  obtain ⟨_, ⟨tail, htail⟩, init, first, rest, place, rfl, hplace, hdir, hfree, hplain, rfl⟩ := hway
  have hbehind (between : List Bytes) (hinit : init = front ++ between)
      (heq : more ++ last = between ++ (first :: rest ++ tail)) :
      isOne (place ++ first :: rest) := by
    have hbetween : between <+: more ++ last := ⟨_, heq.symm⟩
    rw [hinit] at hplace
    rw [reach_append h.reach (fun name hname => h.plain_append hlast (hbetween.subset hname))
      (isLinkFree_of_begun fun begun hne hbegun => (h.begun hne (hbegun.trans hbetween)).2) hplace,
      List.append_assoc]
    exact (h.begun (by simp) ⟨tail, by rw [heq, List.append_assoc]⟩).1
  rw [List.append_assoc] at htail
  rcases List.append_eq_append_iff.1 htail with
    ⟨_ | ⟨next, others⟩, hfront, heq⟩ | ⟨between, hinit, heq⟩
  · rw [List.append_nil] at hfront
    exact hbehind [] (by rw [hfront, List.append_nil]) heq.symm
  · -- The first of the names would lead through where nothing stands.
    obtain ⟨rfl, -⟩ := List.cons.inj heq
    obtain ⟨left, hleft⟩ := walk_append hplace (List.cons_ne_nil first others)
    have hreach := h.reach
    rw [hfront, Tree.reach, hleft, walk_succ_eq_ok_iff] at hreach
    rcases hreach with hwalks | ⟨detour, hwalks, -⟩
    · refine (hwalks.false_of_not_taken hfree hplain fun _ heq => ?_).elim
      cases heq
      exact h.directory
    · refine (hwalks.false_of_not_taken hfree hplain fun _ heq => ?_).elim
      cases heq
  · exact hbehind between hinit heq

end HoldsWay

/-! ## Contents of files -/

namespace Tree

/-- The content of the file at a location. -/
def content? (tree : Tree) (location : Location) : Option Bytes :=
  match tree.get? location with
  | some (.file _ content) => some content
  | _ => none

variable {tree before after : Tree} {location : Location}

/-- The content of a place depends on what is there. -/
theorem content?_congr (h : after.get? location = before.get? location) :
    after.content? location = before.content? location := by
  rw [content?, content?, h]

/-- The content of a file. -/
theorem content?_of_file {mode : Nat} {content : Bytes}
    (h : tree.get? location = some (.file mode content)) : tree.content? location = some content := by
  rw [content?, h]

/-- A place has a content just if there is a file with it. -/
theorem content?_eq_some_iff {content : Bytes} :
    tree.content? location = some content ↔ ∃ mode, tree.get? location = some (.file mode content) := by
  refine ⟨fun h => ?_, fun ⟨mode, hmode⟩ => content?_of_file hmode⟩
  unfold content? at h
  split at h
  · next mode _ heq =>
    cases h
    exact ⟨mode, heq⟩
  · cases h

/-- Directories have no content. -/
theorem content?_of_hasDirectory (h : tree.HasDirectory location) :
    tree.content? location = none := by
  obtain ⟨mode, hmode⟩ := h
  rw [content?, hmode]

/-- Places where nothing is have no content. -/
theorem content?_of_free (h : tree.isTaken location = false) : tree.content? location = none := by
  rw [content?, (isTaken_eq_false_iff.1 h).1]

/-- What stands anywhere stands below directories. -/
theorem IsProper.directory_above (hproper : tree.IsProper) {place : Location} {more : List Bytes}
    (hne : more ≠ []) (htaken : tree.isTaken (place ++ more) = true) : tree.HasDirectory place := by
  by_contra hdir
  obtain ⟨name, rest, rfl⟩ := List.exists_cons_of_ne_nil hne
  have hfree := hproper.not_taken_below (hproper.not_taken hdir name) rest
  rw [List.append_assoc, List.singleton_append] at hfree
  exact Bool.noConfusion (htaken.symm.trans hfree)

/-- Where names do not lead to anything, there is nothing. -/
theorem get?_of_nodeAlong_notFound (hproper : tree.IsProper) {place : Location} {names : List Bytes}
    (h : tree.nodeAlong place names = .error .notFound) : tree.get? (place ++ names) = none := by
  induction names generalizing place with
  | nil =>
    rw [nodeAlong_nil, nodeAt] at h
    rw [List.append_nil]
    cases hnode : tree.get? place with
    | none => rfl
    | some node =>
      rw [hnode] at h
      cases h
  | cons name rest ih =>
    by_contra hnode
    obtain ⟨node, hnode⟩ := Option.ne_none_iff_exists'.1 hnode
    have htaken : tree.isTaken (place ++ name :: rest) = true := by
      rw [isTaken, hnode]
      rfl
    have hdir := hproper.directory_above (List.cons_ne_nil name rest) htaken
    by_cases hshort : name.length ≤ longestName
    · rw [nodeAlong_cons hdir hshort] at h
      have hnone := ih h
      rw [List.append_assoc, List.singleton_append] at hnone
      cases hnode.symm.trans hnone
    · obtain ⟨mode, hmode⟩ := hdir
      rw [nodeAlong, locationAlong, hmode] at h
      dsimp only at h
      rw [if_pos (Nat.not_le.1 hshort)] at h
      cases h

/-- What is not there can be looked for. -/
theorem isPath_of_notFound {path : Bytes} (hne : path ≠ [])
    (h : tree.stat path = .error .notFound) : IsPath path := by
  by_contra hpath
  have hlocate : tree.locate path = .error .notFound := by
    rw [stat_eq_bind] at h
    obtain ⟨reason, hreason⟩ := exists_locateBy_eq_error hpath
    rw [locate, hreason] at h ⊢
    cases h
    rfl
  simp only [locate, locateBy, List.contains_eq_mem, decide_eq_true_eq, List.isEmpty_iff] at hlocate
  split at hlocate
  · cases hlocate
  · next hzero =>
    split at hlocate
    · cases hlocate
    · next hshort => exact hpath ⟨hzero, hne, Nat.not_lt.1 hshort⟩

/-- A tree stays proper when a part of it is taken away. -/
theorem IsProper.eraseAll (hproper : tree.IsProper) {place : Location} (hne : place ≠ []) :
    (tree.eraseAll place).IsProper := by
  intro above name htaken
  rw [isTaken, get?_eraseAll hne, link?_eraseAll] at htaken
  have hnot : ¬ place <+: above ++ [name] := by
    intro hbelow
    rw [if_pos hbelow, if_pos hbelow] at htaken
    cases htaken
  rw [if_neg hnot, if_neg hnot] at htaken
  obtain ⟨mode, hmode⟩ := hproper above name htaken
  refine ⟨mode, ?_⟩
  rw [get?_eraseAll hne, if_neg fun habove => hnot (habove.trans (List.prefix_append above [name])),
    hmode]

end Tree

/-- The contents elsewhere stay as they are. -/
theorem ChangesOnly.content? {isOne : Location → Prop} {before after : Tree} {location : Location}
    (h : ChangesOnly isOne before after) (hnot : ¬ isOne location) :
    after.content? location = before.content? location :=
  content?_congr (h.nodes location hnot)

/-- Adding directories changes no content. -/
theorem AddsDirectories.content? {before after : Tree} (h : AddsDirectories before after)
    (location : Location) : after.content? location = before.content? location := by
  rcases h.nodes location with hsame | ⟨hfree, hdir⟩
  · exact content?_congr hsame
  · rw [content?_of_free hfree, content?_of_hasDirectory hdir]

/-- Writing a node changes no content elsewhere. -/
theorem IsWritten.content? {before after : Tree} {location : Location} {node : Node}
    (h : IsWritten before location node after) {other : Location} (hne : other ≠ location) :
    after.content? other = before.content? other :=
  content?_congr (by rw [h.nodes, if_neg hne])

/-- Where a way goes on without links, what is not found is not there. -/
theorem HoldsWay.content?_of_notFound {isOne : Location → Prop} {rooted : Bool}
    {front more last : List Bytes} {root : Location} {tree : Tree}
    (h : HoldsWay isOne rooted front more root tree) (hproper : tree.IsProper)
    (hlast : ∀ name ∈ last, Path.IsPlain name) (hne : more ++ last ≠ [])
    (hnames : Path.AreNames rooted (front ++ (more ++ last)))
    (hstat : tree.stat (Path.ofNames rooted (front ++ (more ++ last))) = .error .notFound) :
    tree.content? (root ++ (more ++ last)) = none := by
  have hfree : tree.IsLinkFree root (more ++ last) :=
    isLinkFree_of_begun fun init hne hbegun => (h.begun hne hbegun).2
  have hpath := isPath_of_notFound (Path.ofNames_ne_nil hnames) hstat
  rw [stat_ofNames_append hnames hne hpath h.reach
    (fun name hname => h.plain_append hlast hname) hfree] at hstat
  rw [Tree.content?, get?_of_nodeAlong_notFound hproper hstat]

/-- A way without links remains one, as long as ways are kept and no links come to its places. -/
theorem HoldsWay.remains {isOne : Location → Prop} {rooted : Bool} {front more : List Bytes}
    {root : Location} {tree after : Tree} (h : HoldsWay isOne rooted front more root tree)
    (hways : KeepsWays tree after)
    (hlinks : ∀ location, isOne location → after.link? location = tree.link? location) :
    HoldsWay isOne rooted front more root after := by
  refine h.keeps hways fun rest hrest => ?_
  by_cases hne : rest = []
  · subst hne
    rw [List.append_nil]
    cases hlink : tree.link? root with
    | none => exact hways.unlinked root h.directory hlink
    | some target => exact hways.links root target hlink
  · exact hlinks _ (h.ones rest hne hrest).1

/-! ## Writing in place -/

/-- A file that is written in place stands where its path leads; if it cannot be written, nothing has
changed. -/
theorem writeFile_cases {path content : Bytes} {mode : Nat} {tree after : Tree}
    {result : Except Error Unit} (h : (writeFile path content mode).on tree = (result, after)) :
    (∃ error, result = .error error) ∧ after = tree ∨
    result = .ok () ∧ ∃ location bits, tree.locate path = .ok location ∧
      ¬ tree.HasDirectory location ∧ IsWritten tree location (.file bits content) after := by
  unfold writeFile at h
  rw [on_get_bind] at h
  split at h
  · cases h
    exact .inl ⟨⟨_, rfl⟩, rfl⟩
  · next location hlocation =>
    have hput (bits : Nat) (hdir : ¬ tree.HasDirectory location) :
        ∃ location' bits', tree.locate path = .ok location' ∧ ¬ tree.HasDirectory location' ∧
          IsWritten tree location' (.file bits' content)
            (tree.put location (.file bits content)) := by
      refine ⟨location, bits, hlocation, hdir, isWritten_put tree ?_ _⟩
      rintro rfl
      exact hdir (hasDirectory_nil tree)
    split at h
    · cases h
      exact .inl ⟨⟨_, rfl⟩, rfl⟩
    · next hfile =>
      cases h
      refine .inr ⟨rfl, hput _ ?_⟩
      rintro ⟨_, hdir⟩
      cases hfile.symm.trans hdir
    · next hnone =>
      cases h
      refine .inr ⟨rfl, hput _ ?_⟩
      rintro ⟨_, hdir⟩
      cases hnone.symm.trans hdir

/-! ## Temporary directories -/

/-- A name with a number in it, and without a slash, is plain. -/
theorem isPlain_of_number {start ending : Bytes} (number : Nat) (hstart : Path.slash ∉ start)
    (hending : Path.slash ∉ ending) :
    Path.IsPlain (start ++ Decimal.ofNat number ++ ending) ∧
      Path.slash ∉ start ++ Decimal.ofNat number ++ ending := by
  have hdigits {text : Bytes} (htext : text.any Bytes.isDigit = false) :
      start ++ Decimal.ofNat number ++ ending ≠ text := by
    rintro rfl
    obtain ⟨digit, hdigit⟩ := List.exists_mem_of_ne_nil _ (Decimal.ofNat_ne_nil number)
    exact List.any_eq_false.1 htext digit (by simp [hdigit]) (Decimal.isDigit_of_mem_ofNat hdigit)
  refine ⟨⟨hdigits rfl, hdigits (by decide), hdigits (by decide)⟩, ?_⟩
  have hnumber : Path.slash ∉ Decimal.ofNat number := fun hmem =>
    absurd (Decimal.isDigit_of_mem_ofNat hmem) (by decide)
  simp [hstart, hending, hnumber]

/-- A name in the directory of a cleaned path. -/
theorem inside_ofNames {names : List Bytes} (hnames : Path.AreNames true names) (name : Bytes) :
    inside (Path.ofNames true names) name = Path.ofNames true (names ++ [name]) := by
  rcases List.eq_nil_or_concat' names with rfl | ⟨init, last, rfl⟩
  · simp [inside, Path.ofNames, Bytes.joined]
  · have hlast : last ∈ init ++ [last] := by simp
    have hend : (Path.ofNames true (init ++ [last])).getLast? ≠ some Path.slash := by
      have hjoined : ∃ front, Path.ofNames true (init ++ [last]) = front ++ Path.slash :: last := by
        by_cases hinit : init = []
        · subst hinit
          exact ⟨[], by simp [Path.ofNames, Bytes.joined]⟩
        · exact ⟨_, Path.ofNames_concat hinit true last⟩
      obtain ⟨front, hfront⟩ := hjoined
      rw [hfront, List.getLast?_append_cons, List.getLast?_cons,
        List.getLast?_eq_some_getLast (hnames.clean.ne_nil hlast)]
      exact fun heq => hnames.noSlash last hlast (Option.some.inj heq ▸ List.getLast_mem _)
    have hne : init ++ [last] ≠ [] := List.append_ne_nil_of_right_ne_nil init (by simp)
    rw [inside, if_neg (by simpa using hend), Path.ofNames_concat hne]

/-- What begins a text and does not have a byte begins what stands before the last such byte. -/
theorem prefix_before_last {mark text : Bytes} {byte : UInt8} (hmark : byte ∉ mark)
    (hbyte : byte ∈ text) (h : mark <+: text) :
    mark <+: (text.reverse.dropWhile (· != byte)).reverse.dropLast := by
  obtain ⟨rest, hrest⟩ : ∃ rest, text.reverse.dropWhile (· != byte) = byte :: rest := by
    cases hdrop : text.reverse.dropWhile (· != byte) with
    | nil =>
      have hall := List.dropWhile_eq_nil_iff.1 hdrop byte (List.mem_reverse.2 hbyte)
      simp at hall
    | cons first rest =>
      have hfirst := List.head?_dropWhile_not (· != byte) text.reverse
      rw [hdrop] at hfirst
      obtain rfl : first = byte := by simpa using hfirst
      exact ⟨rest, rfl⟩
  have htext : text = rest.reverse ++ byte :: (text.reverse.takeWhile (· != byte)).reverse := by
    have hsplit := @List.takeWhile_append_dropWhile _ (· != byte) text.reverse
    rw [hrest] at hsplit
    simpa using (congrArg List.reverse hsplit).symm
  rw [hrest, List.reverse_cons, List.dropLast_concat]
  rw [htext] at h
  rcases List.prefix_or_prefix_of_prefix h (List.prefix_append _ _) with hfront | ⟨more, rfl⟩
  · exact hfront
  · rcases more with _ | ⟨first, more⟩
    · simp
    · obtain ⟨rfl, -⟩ := List.cons_prefix_cons.1 ((List.prefix_append_right_inj _).1 h)
      exact (hmark (by simp)).elim

/-- A temporary directory is a new one of a name with a number, which begins as the pattern does. -/
theorem exists_makeTemporaryDirectory_eq (directory : Bytes) {pattern : Bytes}
    (hpattern : Path.slash ∉ pattern) :
    ∃ start ending, Path.slash ∉ start ∧ Path.slash ∉ ending ∧
      (∀ mark, byte '*' ∉ mark → mark <+: pattern → mark <+: start) ∧
      makeTemporaryDirectory directory pattern = do
        let path ← freshPath directory start ending
        makeDirectory path 0o700
        return path := by
  have hstart : Path.slash ∉ (pattern.reverse.dropWhile (· != byte '*')).reverse.dropLast :=
    fun hmem => hpattern (List.mem_reverse.1 ((List.dropWhile_sublist _).subset
      (List.mem_reverse.1 (List.dropLast_subset _ hmem))))
  have hending : Path.slash ∉ (pattern.reverse.takeWhile (· != byte '*')).reverse :=
    fun hmem => hpattern (List.mem_reverse.1 ((List.takeWhile_sublist _).subset
      (List.mem_reverse.1 hmem)))
  rw [makeTemporaryDirectory, if_neg (by simpa using hpattern)]
  dsimp only
  by_cases hstar : pattern.contains (byte '*')
  · exact ⟨_, _, hstart, hending,
      fun mark hmark => prefix_before_last hmark (by simpa using hstar), by rw [if_pos hstar]⟩
  · exact ⟨_, _, hpattern, List.not_mem_nil, fun mark _ h => h, by rw [if_neg hstar]⟩

/-- **Temporary directories.** One that is made is new, has a plain name that begins as the pattern
does, and is all that has changed; if none is made, nothing has. -/
theorem makeTemporaryDirectory_cases {directory pattern : Bytes} {tree after : Tree}
    {result : Except Error Bytes}
    (h : (makeTemporaryDirectory directory pattern).on tree = (result, after)) :
    (∃ error, result = .error error) ∧ Alike tree after ∨
    ∃ name, result = .ok (inside directory name) ∧ Path.IsPlain name ∧ Path.slash ∉ name ∧
      (∀ mark, byte '*' ∉ mark → mark <+: pattern → mark <+: name) ∧
      ∃ location, tree.locateName (inside directory name) = .ok location ∧
        tree.isTaken location = false ∧ IsWritten tree location (.directory 0o700) after := by
  by_cases hpattern : Path.slash ∈ pattern
  · rw [makeTemporaryDirectory, if_pos (by simpa using hpattern)] at h
    cases h
    exact .inl ⟨⟨_, rfl⟩, .refl tree⟩
  · obtain ⟨start, ending, hstart, hending, hmark, heq⟩ :=
      exists_makeTemporaryDirectory_eq directory hpattern
    obtain ⟨number, hfresh⟩ : ∃ number, (freshPath directory start ending).on tree
        = (.ok (inside directory (start ++ Decimal.ofNat number ++ ending)),
          { tree with fresh := number + 1 }) := ⟨_, rfl⟩
    obtain ⟨hplain, hslash⟩ := isPlain_of_number number hstart hending
    rw [heq, on_bind, hfresh] at h
    dsimp only at h
    rw [on_bind] at h
    split at h
    · next middle hmake =>
      cases h
      obtain ⟨location, hlocation, hfree, rfl⟩ := makeDirectory_ok hmake
      obtain ⟨hhere, hnodes, hlinks⟩ := isWritten_put { tree with fresh := number + 1 }
        (ne_nil_of_not_taken hfree) (.directory 0o700)
      have hbegins (mark : Bytes) (hstar : byte '*' ∉ mark) (hbegin : mark <+: pattern) :
          mark <+: start ++ Decimal.ofNat number ++ ending := by
        rw [List.append_assoc]
        exact (hmark mark hstar hbegin).trans (List.prefix_append start _)
      exact .inr ⟨_, rfl, hplain, hslash, hbegins, location, (keeps_fresh tree _).2.locateBy hlocation,
        hfree, hhere, hnodes, hlinks⟩
    · next error middle hmake =>
      cases h
      obtain rfl := makeDirectory_error hmake
      exact .inl ⟨⟨_, rfl⟩, .fresh tree _⟩

end Files

end FunctionChain
