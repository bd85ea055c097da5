import FunctionChain.Proofs.Files.Writing
import Mathlib.Data.List.Nodup

/-!
# What a directory holds

A directory is read by going through the listing of the tree, and what it says is what stands at the
locations below it if every such location is listed once (`ListsOnce`). Nothing that is done to a
tree lists a location twice.

A path with one more name leads somewhere only if the path without it leads to a directory, so a
directory that is made by its path stands directly in the one above (`makeDirectories_ok`).
-/

namespace FunctionChain

namespace Files

open Files.Action Files.Tree

namespace Tree

/-! ## One name less -/

/-- Names with one more behind them: all but the last lead to a location from which the last one
goes on, or to a link on the way. -/
theorem Walks.of_concat {tree : Tree} {follows : Bool} {location : Location} {names : List Bytes}
    {name : Bytes} {found : Location ⊕ Detour}
    (h : Walks tree follows location (names ++ [name]) found) :
    (∃ place, Walks tree true location names (.inl place) ∧ Walks tree follows place [name] found) ∨
    ∃ detour, Walks tree true location names (.inr detour) ∧ found = .inr (detour.concat name) := by
  induction names generalizing location with
  | nil => exact .inl ⟨location, .done location, h⟩
  | cons first rest ih =>
    generalize hnames : first :: rest ++ [name] = all at h
    cases h with
    | done => cases hnames
    | same hdir hrest =>
      cases hnames
      exact (ih hrest).imp (fun ⟨place, hplace, hlast⟩ => ⟨place, .same hdir hplace, hlast⟩)
        fun ⟨detour, hdetour, hfound⟩ => ⟨detour, .same hdir hdetour, hfound⟩
    | up hdir hrest =>
      cases hnames
      exact (ih hrest).imp (fun ⟨place, hplace, hlast⟩ => ⟨place, .up hdir hplace, hlast⟩)
        fun ⟨detour, hdetour, hfound⟩ => ⟨detour, .up hdir hdetour, hfound⟩
    | name hdir hname hnone hrest =>
      cases hnames
      exact (ih hrest).imp
        (fun ⟨place, hplace, hlast⟩ => ⟨place, .name hdir hname hnone hplace, hlast⟩)
        fun ⟨detour, hdetour, hfound⟩ => ⟨detour, .name hdir hname hnone hdetour, hfound⟩
    | @link _ _ target _ hdir hname hsome =>
      cases hnames
      exact .inr ⟨⟨location, target, rest⟩, .link hdir hname hsome (.inr rfl), rfl⟩
    | linkAtEnd => simp at hnames

/-- A single name is followed from a directory, and is not too long. -/
theorem Walks.single {tree : Tree} {follows : Bool} {location : Location} {name : Bytes}
    {found : Location ⊕ Detour} (h : Walks tree follows location [name] found) :
    tree.HasDirectory location ∧ name.length ≤ longestName := by
  cases h with
  | same hdir => exact ⟨hdir, by decide⟩
  | up hdir => exact ⟨hdir, by decide⟩
  | name hdir hname | link hdir hname | linkAtEnd hdir hname => exact ⟨hdir, hname.short⟩

/-- Names with one more behind them lead somewhere only if they lead to a directory. -/
theorem walk_of_concat {tree : Tree} {follows : Bool} {links : Nat} {location found : Location}
    {names : List Bytes} {name : Bytes}
    (h : tree.walk follows links location (names ++ [name]) = .ok found) :
    ∃ place, tree.walk true links location names = .ok place ∧ tree.HasDirectory place ∧
      name.length ≤ longestName := by
  induction links generalizing location names with
  | zero => cases h
  | succ links ih =>
    rw [walk_succ_eq_ok_iff] at h
    rcases h with hwalks | ⟨detour, hwalks, hrest⟩
    · obtain ⟨place, hplace, hlast⟩ := hwalks.of_concat.resolve_right
        fun ⟨_, _, hfound⟩ => by cases hfound
      exact ⟨place, walk_succ_eq_ok_iff.2 (.inl hplace), hlast.single⟩
    · rcases hwalks.of_concat with ⟨place, hplace, hlast⟩ | ⟨earlier, hearlier, hfound⟩
      · exact ⟨place, walk_succ_eq_ok_iff.2 (.inl hplace), hlast.single⟩
      · cases hfound
        have hnames : steps (earlier.concat name).target ++ (earlier.concat name).rest
            = steps earlier.target ++ earlier.rest ++ [name] := by simp [Detour.concat]
        rw [hnames] at hrest
        obtain ⟨place, hplace, hdir⟩ := ih hrest
        exact ⟨place, walk_succ_eq_ok_iff.2 (.inr ⟨earlier, hearlier, hplace⟩), hdir⟩

section Concat

variable {tree : Tree} {rooted : Bool} {list : List Bytes} {name : Bytes} {follows : Bool}
  {found : Location} (hlist : Path.AreNames rooted list) (hne : list ≠ [])
  (hplain : Path.IsPlain name) (hslash : Path.slash ∉ name)
  (h : tree.locateBy follows (Path.ofNames rooted (list ++ [name])) = .ok found)
include hlist hne hplain hslash h

/-- A cleaned path with one more name leads somewhere only if it leads to a directory itself. -/
theorem locate_of_locateBy_concat :
    ∃ place, tree.locate (Path.ofNames rooted list) = .ok place ∧ tree.HasDirectory place ∧
      name.length ≤ longestName := by
  have hmore := hlist.concat hplain hslash
  obtain ⟨hpath, hwalk⟩ := locateBy_eq_ok_iff.1 h
  rw [startOf, Path.isRooted_ofNames hmore, steps_ofNames hmore (by simp)] at hwalk
  obtain ⟨place, hplace, hdir⟩ := walk_of_concat hwalk
  refine ⟨place, locateBy_eq_ok_iff.2 ⟨?_, ?_⟩, hdir⟩
  · obtain ⟨hzero, -, hshort⟩ := hpath
    rw [Path.ofNames_concat hne] at hzero hshort
    refine ⟨fun hmem => hzero (List.mem_append_left _ hmem), Path.ofNames_ne_nil hlist, ?_⟩
    rw [List.length_append] at hshort
    exact Nat.le_trans (Nat.le_add_right _ _) hshort
  · rwa [startOf, Path.isRooted_ofNames hlist, steps_ofNames hlist hne]

/-- Unless it is a link, what it leads to stands in that directory. -/
theorem eq_of_locateBy_concat {place : Location}
    (hplace : tree.locate (Path.ofNames rooted list) = .ok place)
    (hlink : tree.link? (place ++ [name]) = none) : found = place ++ [name] := by
  obtain ⟨other, hother, hdir, hshort⟩ := locate_of_locateBy_concat hlist hne hplain hslash h
  cases hplace.symm.trans hother
  have hpath := (locateBy_eq_ok_iff.1 h).1
  have hlocate : tree.locateBy follows (Path.ofNames rooted (list ++ [name]))
      = .ok (place ++ [name]) :=
    locateBy_ofNames_concat hlist hne hplain hslash hshort hplace hdir hpath fun _ => hlink
  cases h.symm.trans hlocate
  rfl

end Concat

/-! ## Listings -/

/-- Every location directly below the given one is listed once at most. -/
def ListsOnce (tree : Tree) (root : Location) : Prop :=
  ∀ name, (tree.nodes.map (·.1)).count (root ++ [name]) ≤ 1

namespace ListsOnce

variable {tree : Tree} {root : Location}

/-- Nothing is listed where nothing stands. -/
theorem of_not_taken (h : ∀ name, tree.isTaken (root ++ [name]) = false) :
    tree.ListsOnce root := by
  intro name
  have hgone : (root ++ [name]) ∉ tree.nodes.map (·.1) := by
    intro hmem
    have htaken := (isTaken_iff_mem_listed (by simp)).2 (List.mem_append_left _ hmem)
    exact Bool.noConfusion ((h name).symm.trans htaken)
  exact Nat.le_trans (Nat.le_of_eq (List.count_eq_zero_of_not_mem hgone)) (Nat.zero_le 1)

/-- What is listed once is listed once when something is taken away. -/
theorem erase (h : tree.ListsOnce root) (location : Location) :
    (tree.erase location).ListsOnce root := by
  intro name
  have hsub : ((tree.erase location).nodes.map (·.1)).Sublist (tree.nodes.map (·.1)) :=
    List.filter_sublist.map _
  exact Nat.le_trans (hsub.count_le _) (h name)

/-- What is put somewhere takes the place of what was listed there. -/
theorem put (h : tree.ListsOnce root) (location : Location) (node : Node) :
    (tree.put location node).ListsOnce root := by
  intro name
  have hput : (tree.put location node).nodes.map (·.1)
      = location :: (tree.erase location).nodes.map (·.1) := rfl
  rw [hput, List.count_cons]
  split
  · next heq =>
    rw [beq_iff_eq] at heq
    subst heq
    have hgone : (root ++ [name]) ∉ (tree.erase (root ++ [name])).nodes.map (·.1) := by
      simp [Tree.erase, without]
    exact Nat.le_of_eq (congrArg (· + 1) (List.count_eq_zero_of_not_mem hgone))
  · exact h.erase location name

/-- So it is when a link is put. -/
theorem putLink (h : tree.ListsOnce root) (location : Location) (target : Bytes) :
    (tree.putLink location target).ListsOnce root := h.erase location

end ListsOnce

/-- The name and the node of an entry of a listing, if it is for a location directly below. -/
def childOf (root : Location) (entry : Location × Node) : Option (Bytes × Node) :=
  match entry.1.reverse with
  | name :: above => if above.reverse == root then some (name, entry.2) else none
  | [] => none

/-- A child is one name further. -/
theorem childOf_eq_some_iff {root other : Location} {name : Bytes} {node node' : Node} :
    childOf root (other, node') = some (name, node) ↔ other = root ++ [name] ∧ node' = node := by
  rcases List.eq_nil_or_concat other with rfl | ⟨above, last, rfl⟩
  · simp [childOf]
  · simp [childOf, and_assoc]

/-- A directory is read off the listing. -/
theorem children_perm (tree : Tree) (root : Location) :
    (tree.children root).Perm (tree.nodes.filterMap (childOf root)) :=
  List.mergeSort_perm _ _

/-- A name stands among the children as often as its place does in the tree. -/
theorem count_filterMap_childOf (nodes : List (Location × Node)) (root : Location) (name : Bytes) :
    ((nodes.filterMap (childOf root)).map (·.1)).count name
      = (nodes.map (·.1)).count (root ++ [name]) := by
  induction nodes with
  | nil => rfl
  | cons entry rest ih =>
    obtain ⟨other, node⟩ := entry
    rw [List.map_cons, List.count_cons, ← ih]
    cases hchild : childOf root (other, node) with
    | none =>
      have hne : other ≠ root ++ [name] := fun heq => by
        rw [childOf_eq_some_iff.2 ⟨heq, rfl⟩] at hchild
        cases hchild
      simp [hchild, hne]
    | some child =>
      obtain ⟨name', node'⟩ := child
      obtain ⟨rfl, rfl⟩ := childOf_eq_some_iff.1 hchild
      simp [hchild, List.count_cons]

/-- What stands once is found. -/
theorem lookup_eq_some_of_count {α : Type} {entries : List (Location × α)} {location : Location}
    {value : α} (h : (entries.map (·.1)).count location ≤ 1) (hmem : (location, value) ∈ entries) :
    entries.lookup location = some value := by
  induction entries with
  | nil => cases hmem
  | cons entry rest ih =>
    obtain ⟨other, value'⟩ := entry
    rw [List.map_cons, List.count_cons] at h
    rw [List.lookup_cons]
    split
    · next heq =>
      rw [beq_iff_eq] at heq
      subst heq
      have hgone : location ∉ rest.map (·.1) := by
        rw [← List.count_eq_zero]
        simpa using h
      rcases List.mem_cons.1 hmem with heq | hmem
      · rw [Prod.mk.injEq] at heq
        rw [heq.2]
      · exact absurd (List.mem_map_of_mem hmem) hgone
    · next hne =>
      have hne' : location ≠ other := beq_eq_false_iff_ne.1 hne
      have hrest : (location, value) ∈ rest := by simpa [hne'] using hmem
      exact ih (Nat.le_trans (Nat.le_add_right _ _) h) hrest

/-- What is found stands there. -/
theorem mem_of_lookup_eq_some {α : Type} {entries : List (Location × α)} {location : Location}
    {value : α} (h : entries.lookup location = some value) : (location, value) ∈ entries := by
  obtain ⟨before, after, rfl, -⟩ := List.lookup_eq_some_iff.1 h
  simp

/-- **Reading a directory.** It is read as what stands below it. -/
theorem ListsOnce.mem_children_iff {tree : Tree} {root : Location} (h : tree.ListsOnce root)
    {name : Bytes} {node : Node} :
    (name, node) ∈ tree.children root ↔ tree.get? (root ++ [name]) = some node := by
  rw [(children_perm tree root).mem_iff, List.mem_filterMap, get?_of_ne_nil (by simp)]
  constructor
  · rintro ⟨⟨other, node'⟩, hmem, hchild⟩
    obtain ⟨rfl, rfl⟩ := childOf_eq_some_iff.1 hchild
    exact lookup_eq_some_of_count (h name) hmem
  · intro hlookup
    exact ⟨_, mem_of_lookup_eq_some hlookup, childOf_eq_some_iff.2 ⟨rfl, rfl⟩⟩

/-- No name is read twice. -/
theorem ListsOnce.nodup_children {tree : Tree} {root : Location} (h : tree.ListsOnce root) :
    ((tree.children root).map (·.1)).Nodup := by
  rw [((children_perm tree root).map _).nodup_iff, List.nodup_iff_count_le_one]
  intro name
  rw [count_filterMap_childOf]
  exact h name

end Tree

/-! ## Making a directory in another -/

/-- The path above one with a name behind it. -/
theorem above?_append {path name : Bytes} (hpath : path ≠ []) (hne : name ≠ [])
    (hslash : Path.slash ∉ name) : above? (path ++ Path.slash :: name) = some path := by
  have hlong : (path ++ [Path.slash]).length > 1 := by
    simpa using List.length_pos_iff.2 hpath
  rw [above?, Path.dropEndWhile_append hne hslash, Path.throughLastSlash_append hslash]
  simp only [if_pos hlong, List.dropLast_concat]

/-- A directory is there already, or it is made once the one above it has been. -/
theorem makeDirectories_ok {path parent : Bytes} {mode : Nat} {tree after : Tree}
    (hproper : tree.IsProper) (habove : above? path = some parent)
    (h : (makeDirectories path mode).on tree = (.ok (), after)) :
    (after = tree ∧ ∃ mode, tree.stat path = .ok (.directory mode)) ∨
      ∃ middle place, HasMade tree middle parent place ∧
        (makeDirectory path mode).on middle = (.ok (), after) := by
  unfold makeDirectories makeDirectoriesWithin at h
  rw [on_get_bind] at h
  split at h
  · next mode hstat =>
    cases h
    exact .inl ⟨rfl, mode, hstat⟩
  · exact absurd h fail_ne_ok
  · rw [habove] at h
    obtain ⟨_, middle, hparent, hlast⟩ := bind_eq_ok h
    obtain ⟨place, hmade⟩ := makeDirectoriesWithin_ok hproper hparent
    exact .inr ⟨middle, place, hmade, hlast⟩

/-! ## Writing a file lists nothing twice -/

/-- Creating a temporary file repeats no names. -/
theorem createTemporary_listsOnce {directory start path : Bytes} {tree after : Tree}
    {root : Location} (hlists : tree.ListsOnce root)
    (h : (createTemporary directory start).on tree = (.ok path, after)) : after.ListsOnce root := by
  unfold createTemporary at h
  obtain ⟨_, middle, hfresh, h⟩ := bind_eq_ok h
  cases hfresh
  rw [on_get_bind] at h
  split at h
  · exact absurd h fail_ne_ok
  · split at h
    · exact absurd h fail_ne_ok
    · cases h
      exact ListsOnce.put hlists _ _

/-- Renaming a file repeats no names. -/
theorem renameFile_listsOnce {source target : Bytes} {tree after : Tree} {root : Location}
    (hlists : tree.ListsOnce root) (h : (renameFile source target).on tree = (.ok (), after)) :
    after.ListsOnce root := by
  unfold renameFile at h
  rw [on_get_bind] at h
  split at h
  · exact absurd h fail_ne_ok
  · exact absurd h fail_ne_ok
  · split at h
    · exact absurd h fail_ne_ok
    · exact absurd h fail_ne_ok
    · cases h
      exact (hlists.erase _).put _ _
    · cases h
      exact (hlists.erase _).putLink _ _

/-- Replacing a file repeats no names. -/
theorem replaceFile_listsOnce {path content : Bytes} {mode : Nat} {tree after : Tree}
    {root : Location} (hlists : tree.ListsOnce root)
    (h : (replaceFile path content mode).on tree = (.ok (), after)) : after.ListsOnce root := by
  unfold replaceFile at h
  obtain ⟨temporary, second, hcreate, h⟩ := bind_eq_ok h
  have hsecond := createTemporary_listsOnce hlists hcreate
  rw [on_get_bind] at h
  split at h
  · exact absurd h fail_ne_ok
  · rw [on_set_bind, on_tryCatch] at h
    split at h
    · next hrename =>
      cases h
      exact renameFile_listsOnce (hsecond.put _ _) hrename
    · obtain ⟨_, _, _, hthrow⟩ := bind_eq_ok h
      cases hthrow

end Files

end FunctionChain
