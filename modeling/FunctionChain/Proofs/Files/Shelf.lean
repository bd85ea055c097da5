import FunctionChain.Proofs.Files.Changes
import FunctionChain.Proofs.Files.Onward
import Mathlib.Data.List.TakeWhile

/-!
# Shelves

A *shelf* is a directory with directories in it that hold files, each known by its path. What is done
to one of these directories or files spares the others (`Spares`): they are found as before. What has
not been found is still not found, and for the same reason unless a name on the way is too long: that
is noticed only once the directory in which it would stand has been made.

The path of the shelf may lead through links. In the shelf there must be none, or one directory could
be another.
-/

namespace FunctionChain

namespace Files

open Files.Action Files.Tree

namespace Tree

/-! ## Places at which there is nothing -/

/-- A way is free of links if its parts are. -/
theorem isLinkFree_append {tree : Tree} {place : Location} {names rest : List Bytes} :
    tree.IsLinkFree place (names ++ rest) ↔
      tree.IsLinkFree place names ∧ tree.IsLinkFree (place ++ names) rest := by
  induction names generalizing place with
  | nil => simp [IsLinkFree]
  | cons name names ih =>
    rw [List.cons_append, IsLinkFree, IsLinkFree, ih, and_assoc, List.append_assoc,
      List.singleton_append]

/-- Whether a way is free of links depends on the links. -/
theorem isLinkFree_congr {before after : Tree}
    (h : ∀ location, after.link? location = before.link? location) {place : Location}
    {names : List Bytes} : after.IsLinkFree place names ↔ before.IsLinkFree place names := by
  induction names generalizing place with
  | nil => exact Iff.rfl
  | cons name names ih => rw [IsLinkFree, IsLinkFree, h, ih]

/-- Where nothing stands there are no links, and none below. -/
theorem IsProper.isLinkFree_of_not_taken {tree : Tree} (hproper : tree.IsProper) {place : Location}
    {name : Bytes} (hfree : tree.isTaken (place ++ [name]) = false) (rest : List Bytes) :
    tree.IsLinkFree place (name :: rest) := by
  obtain ⟨hnode, hlink⟩ := isTaken_eq_false_iff.1 hfree
  refine ⟨hlink, hproper.isLinkFree ?_ rest⟩
  rintro ⟨mode, hmode⟩
  cases hnode.symm.trans hmode

/-- In a directory that holds nothing, nothing is found. -/
theorem nodeAlong_of_isEmpty {tree : Tree} {place : Location} (hdir : tree.HasDirectory place)
    (hempty : ∀ name, tree.isTaken (place ++ [name]) = false) {names : List Bytes}
    (hne : names ≠ []) :
    (∀ node, tree.nodeAlong place names ≠ .ok node) ∧
      ((∀ name ∈ names, name.length ≤ longestName) →
        tree.nodeAlong place names = .error .notFound) := by
  cases names with
  | nil => exact absurd rfl hne
  | cons name rest =>
    have hmissing := nodeAlong_of_missing (isTaken_eq_false_iff.1 (hempty name)).1 rest
    by_cases hshort : name.length ≤ longestName
    · rw [nodeAlong_cons hdir hshort, hmissing]
      exact ⟨nofun, fun _ => rfl⟩
    · exact ⟨nodeAlong_cons_ne_ok (Nat.lt_of_not_le hshort) rest,
        fun h => absurd (h name List.mem_cons_self) hshort⟩

end Tree

/-- There is nothing above a single name. -/
theorem throughLastSlash_dropEndWhile {name : Bytes} (hslash : Path.slash ∉ name) :
    Path.throughLastSlash (Bytes.dropEndWhile name (· == Path.slash)) = [] := by
  rw [Path.throughLastSlash, Bytes.dropEndWhile, List.reverse_reverse, List.reverse_eq_nil_iff,
    List.dropWhile_eq_nil_iff]
  intro b hb
  refine bne_iff_ne.2 fun heq => hslash ?_
  exact heq ▸ List.mem_reverse.1 ((List.dropWhile_suffix _).subset hb)

/-- The path above a cleaned one has its names but the last. -/
theorem eq_of_above?_eq_some {rooted : Bool} {init : List Bytes} {name parent : Bytes}
    (h : Path.AreNames rooted (init ++ [name]))
    (habove : above? (Path.ofNames rooted (init ++ [name])) = some parent) :
    init ≠ [] ∧ parent = Path.ofNames rooted init := by
  have hmem : name ∈ init ++ [name] := List.mem_append_right _ (List.mem_singleton_self name)
  have hne := h.clean.ne_nil hmem
  have hslash := h.noSlash name hmem
  by_cases hinit : init = []
  · subst hinit
    rw [above?] at habove
    cases rooted with
    | true =>
      have hpath : Path.ofNames true ([] ++ [name]) = [] ++ Path.slash :: name := by
        simp [Path.ofNames, Bytes.joined]
      rw [hpath, Path.dropEndWhile_append hne hslash, Path.throughLastSlash_append hslash] at habove
      cases habove
    | false =>
      have hpath : Path.ofNames false ([] ++ [name]) = name := by
        simp [Path.ofNames, Bytes.joined]
      rw [hpath, throughLastSlash_dropEndWhile hslash] at habove
      cases habove
  · rw [Path.ofNames_concat hinit, above?_append (Path.ofNames_ne_nil h.of_append) hne hslash]
      at habove
    exact ⟨hinit, (Option.some.inj habove).symm⟩

/-! ## What is found before and after -/

/-- The same is found, if anything. If all names are short, it is missed for the same reason. -/
structure TellsSame (isShort : Prop) (before after : Except Reason Node) : Prop where
  found : ∀ node, after = .ok node ↔ before = .ok node
  missed : isShort → after = before

namespace TellsSame

variable {isShort : Prop} {a b c : Except Reason Node}

/-- What is equal tells the same. -/
theorem of_eq (h : b = a) : TellsSame isShort a b := ⟨fun _ => by rw [h], fun _ => h⟩

/-- What tells the same if names are short does so if they are shorter. -/
theorem imp (h : TellsSame isShort a b) {isShort' : Prop} (himp : isShort' → isShort) :
    TellsSame isShort' a b := ⟨h.found, fun hshort => h.missed (himp hshort)⟩

/-- What tells the same twice tells the same. -/
theorem trans (h : TellsSame isShort a b) (h' : TellsSame isShort b c) : TellsSame isShort a c :=
  ⟨fun node => (h'.found node).trans (h.found node), fun hshort =>
    (h'.missed hshort).trans (h.missed hshort)⟩

end TellsSame

/-- There are no links among the directories to which the names lead, and none among the files of
these names in them. -/
structure IsShelf (isFile : Bytes → Prop) (rooted : Bool) (names : List Bytes) (tree : Tree) :
    Prop where
  proper : tree.IsProper
  links : ∀ root, tree.reach rooted names = .ok root → ∀ sub file, isFile file →
    tree.IsLinkFree root [sub, file]

/-- If there is a shelf before, there is one after, and the files that are spared, by the name of
their directory and their own, tell the same. -/
def Spares (isFile : Bytes → Prop) (rooted : Bool) (names : List Bytes)
    (isSpared : Bytes → Bytes → Prop) (before after : Tree) : Prop :=
  IsShelf isFile rooted names before → IsShelf isFile rooted names after ∧
    ∀ sub file, isSpared sub file →
      TellsSame (∀ name ∈ names ++ [sub, file], name.length ≤ longestName)
        (before.stat (Path.ofNames rooted (names ++ [sub, file])))
        (after.stat (Path.ofNames rooted (names ++ [sub, file])))

/-- What is put neither at a file nor on the way to it. -/
theorem append_ne_of_begun {place : Location} {begun names more : List Bytes}
    (hother : ¬ more <+: names) (h : begun <+: names) : place ++ begun ≠ place ++ more :=
  fun heq => hother (List.append_cancel_left heq ▸ h)

section Shelf

variable {isFile : Bytes → Prop} {rooted : Bool} {names : List Bytes}
  {isSpared : Bytes → Bytes → Prop}

instance : Std.Refl (Spares isFile rooted names isSpared) :=
  ⟨fun _ hshelf => ⟨hshelf, fun _ _ _ => .of_eq rfl⟩⟩

instance : IsTrans Tree (Spares isFile rooted names isSpared) :=
  ⟨fun _ _ _ h h' hshelf =>
    have ⟨hmiddle, hfirst⟩ := h hshelf
    have ⟨hafter, hsecond⟩ := h' hmiddle
    ⟨hafter, fun sub file hfile => (hfirst sub file hfile).trans (hsecond sub file hfile)⟩⟩

/-- Trees that are alike spare everything. -/
theorem Tree.Alike.spares {before after : Tree} (h : Alike before after) :
    Spares isFile rooted names isSpared before after := by
  refine fun hshelf => ⟨⟨h.proper hshelf.proper, fun root hroot sub file hfile => ?_⟩,
    fun _ _ _ => .of_eq (h.stat _)⟩
  rw [h.reach] at hroot
  exact (isLinkFree_congr h.links).2 (hshelf.links root hroot sub file hfile)

variable (hnames : Path.AreNames rooted names)
  (hfiles : ∀ file, isFile file → Path.IsPlain file ∧ Path.slash ∉ file)

section File
include hfiles

variable {sub : Bytes} (hsub : Path.IsPlain sub) (hsubSlash : Path.slash ∉ sub) {file : Bytes}
  (hfile : isFile file)
include hsub hfile

/-- The names of a file on a shelf are plain. -/
theorem forall_isPlain_file : ∀ name ∈ [sub, file], Path.IsPlain name := by
  simpa using And.intro hsub (hfiles file hfile).1

include hnames hsubSlash

/-- The path of a file on a shelf is made of names. -/
theorem areNames_file : Path.AreNames rooted (names ++ [sub, file]) := by
  obtain ⟨hplain, hslash⟩ := hfiles file hfile
  have h := (hnames.concat hsub hsubSlash).concat hplain hslash
  rwa [List.append_assoc] at h

/-- What names a file in a directory on a shelf leads there. -/
theorem reach_of_locateBy_file {tree : Tree} (hshelf : IsShelf isFile rooted names tree)
    {follows : Bool} {location : Location}
    (h : tree.locateBy follows (Path.ofNames rooted (names ++ [sub, file])) = .ok location) :
    ∃ root, tree.reach rooted names = .ok root ∧ location = root ++ [sub, file] := by
  have hall := areNames_file hnames hfiles hsub hsubSlash hfile
  have hpath := (locateBy_eq_ok_iff.1 h).1
  rw [locateBy_ofNames hall (by simp) hpath] at h
  obtain ⟨above, habove, -⟩ : ∃ above, tree.reach rooted (names ++ [sub]) = .ok above ∧ _ := by
    rw [List.append_cons] at h
    exact walk_of_concat h
  obtain ⟨root, hroot, -⟩ := walk_of_concat habove
  refine ⟨root, hroot, ?_⟩
  have hplain := forall_isPlain_file hfiles hsub hfile
  obtain ⟨left, hleft⟩ := walk_append hroot (List.cons_ne_nil sub [file])
  rw [hleft, walk_eq_locationAlong hplain (hshelf.links root hroot sub file hfile)] at h
  exact eq_of_locationAlong h

end File

variable (hspared : ∀ sub file, isSpared sub file →
    Path.IsPlain sub ∧ Path.slash ∉ sub ∧ isFile file)
include hnames hfiles hspared

/-- What is put on a shelf that is there already spares what is not put there. -/
theorem spares_of_elsewhere {before after : Tree} {root : Location}
    (hroot : before.reach rooted names = .ok root) (hkeeps : Keeps before after)
    (hproper : after.IsProper)
    (hsame : ∀ sub file init, isSpared sub file → init <+: [sub, file] →
      after.get? (root ++ init) = before.get? (root ++ init)) :
    Spares isFile rooted names isSpared before after := by
  intro hshelf
  have hrootAfter := hkeeps.reach hroot
  have hlinks (sub file : Bytes) (hfile : isFile file) : after.IsLinkFree root [sub, file] :=
    (isLinkFree_congr hkeeps.links).2 (hshelf.links root hroot sub file hfile)
  refine ⟨⟨hproper, fun other hother sub file hfile => ?_⟩, fun sub file hfile => .of_eq ?_⟩
  · cases hrootAfter.symm.trans hother
    exact hlinks sub file hfile
  · obtain ⟨hsub, hsubSlash, hisFile⟩ := hspared sub file hfile
    by_cases hpath : IsPath (Path.ofNames rooted (names ++ [sub, file]))
    · have hall := areNames_file hnames hfiles hsub hsubSlash hisFile
      have hplain := forall_isPlain_file hfiles hsub hisFile
      rw [stat_ofNames_append hall (by simp) hpath hrootAfter hplain (hlinks sub file hisFile),
        stat_ofNames_append hall (by simp) hpath hroot hplain
          (hshelf.links root hroot sub file hisFile)]
      exact nodeAlong_congr fun init => hsame sub file init hfile
    · obtain ⟨reason, hreason⟩ := exists_stat_eq_error hpath
      rw [hreason, hreason]

/-! ## Making directories -/

/-- A directory that is made on the way to a shelf is empty, so nothing is on the shelf. -/
theorem put_spares_of_way {tree : Tree} {place : Location} {init rest : List Bytes} {name : Bytes}
    (heq : names = init ++ name :: rest) (hname : Path.IsPlain name)
    (hshort : name.length ≤ longestName) (hplace : tree.reach rooted init = .ok place)
    (hdir : tree.HasDirectory place) (hfree : tree.isTaken (place ++ [name]) = false) (mode : Nat) :
    Spares isFile rooted names isSpared tree (tree.put (place ++ [name]) (.directory mode)) := by
  intro hshelf
  have hproper := hshelf.proper
  have hkeeps := Keeps.put hfree (.directory mode)
  have hplaceAfter := hkeeps.reach hplace
  have hlinkFree (more : List Bytes) : tree.IsLinkFree place (name :: more) :=
    hproper.isLinkFree_of_not_taken hfree more
  have hlinkFreeAfter (more : List Bytes) :
      (tree.put (place ++ [name]) (.directory mode)).IsLinkFree place (name :: more) :=
    (isLinkFree_congr hkeeps.links).2 (hlinkFree more)
  have hplain (more : List Bytes) (hmore : Path.AreNames rooted (init ++ name :: more)) :
      ∀ other ∈ name :: more, Path.IsPlain other :=
    List.forall_mem_cons.2 ⟨hname, hmore.clean.forall_isPlain hname⟩
  refine ⟨⟨hproper.put hfree (hdir.stands name) _, fun root hroot sub file _ => ?_⟩,
    fun sub file hfile => ?_⟩
  · rw [heq] at hroot hnames
    rw [reach_append hplaceAfter (hplain rest hnames) (hlinkFreeAfter rest) hroot]
    exact (isLinkFree_append.1 (hlinkFreeAfter (rest ++ [sub, file]))).2
  by_cases hpath : IsPath (Path.ofNames rooted (names ++ [sub, file]))
  swap
  · obtain ⟨reason, hreason⟩ := exists_stat_eq_error hpath
    exact .of_eq ((hreason _).trans (hreason _).symm)
  obtain ⟨hsub, hsubSlash, hisFile⟩ := hspared sub file hfile
  have hall := areNames_file hnames hfiles hsub hsubSlash hisFile
  have hsplit : names ++ [sub, file] = init ++ name :: (rest ++ [sub, file]) := by
    rw [heq, List.append_assoc, List.cons_append]
  rw [hsplit] at hall hpath ⊢
  rw [stat_ofNames_append hall (by simp) hpath hplace (hplain _ hall) (hlinkFree _),
    stat_ofNames_append hall (by simp) hpath hplaceAfter (hplain _ hall) (hlinkFreeAfter _),
    nodeAlong_cons hdir hshort, nodeAlong_of_missing (isTaken_eq_false_iff.1 hfree).1,
    nodeAlong_cons (hkeeps.directories place hdir) hshort]
  have hmade : (tree.put (place ++ [name]) (.directory mode)).HasDirectory (place ++ [name]) :=
    ⟨mode, by rw [get?_put _ _ (by simp), if_pos rfl]⟩
  obtain ⟨hnothing, hmissing⟩ := nodeAlong_of_isEmpty hmade (not_taken_put hproper hfree _)
    (List.append_ne_nil_of_right_ne_nil rest (List.cons_ne_nil sub [file]))
  refine ⟨fun node => iff_of_false (hnothing node) nofun, fun hall => hmissing fun other hmem => ?_⟩
  exact hall other (List.mem_append_right _ (List.mem_cons_of_mem _ hmem))

section Directory

variable {top : Bytes} (htop : Path.IsPlain top) (htopSlash : Path.slash ∉ top)
  (hother : ∀ sub file, isSpared sub file → ¬ [top] <+: [sub, file])
include htop htopSlash hother

/-- A directory on the way to a shelf, or another one on it. -/
theorem makeDirectory_spares {list : List Bytes} (hlist : list <+: names ++ [top]) (hne : list ≠ [])
    (mode : Nat) :
    Relates (Spares isFile rooted names isSpared)
      (makeDirectory (Path.ofNames rooted list) mode) := by
  intro tree hshelf
  rcases hmake : (makeDirectory (Path.ofNames rooted list) mode).on tree with ⟨result, after⟩
  cases result with
  | error error =>
    obtain rfl := makeDirectory_error hmake
    exact ⟨hshelf, fun _ _ _ => .of_eq rfl⟩
  | ok _ =>
    obtain ⟨location, hlocation, hfree, rfl⟩ := makeDirectory_ok hmake
    obtain ⟨init, name, rfl⟩ := (List.eq_nil_or_concat' list).resolve_left hne
    have hways := (hnames.concat htop htopSlash).of_begun hlist
    obtain ⟨place, hplace, hdir, hname, hshort, rfl⟩ :=
      reach_of_locateName hshelf.proper hways hlocation hfree
    rcases List.prefix_concat_iff.1 hlist with heq | ⟨rest, hrest⟩
    · obtain ⟨rfl, hlast⟩ := List.append_inj' heq rfl
      obtain rfl := List.singleton_inj.1 hlast
      refine spares_of_elsewhere hnames hfiles hspared hplace (Keeps.put hfree _)
        (hshelf.proper.put hfree (hdir.stands _) _) (fun sub file begun hfile hbegun => ?_) hshelf
      rw [get?_put _ _ (by simp), if_neg (append_ne_of_begun (hother sub file hfile) hbegun)]
    · rw [List.append_assoc, List.singleton_append] at hrest
      exact put_spares_of_way hnames hfiles hspared hrest.symm hname hshort hplace hdir hfree mode
        hshelf

/-- Whatever becomes of another directory and of those that lead to it. -/
theorem makeDirectoriesWithin_spares (mode depth : Nat) {list : List Bytes}
    (hlist : list <+: names ++ [top]) (hne : list ≠ []) :
    Relates (Spares isFile rooted names isSpared)
      (makeDirectoriesWithin mode depth (Path.ofNames rooted list)) := by
  have hmake {list : List Bytes} (hlist : list <+: names ++ [top]) (hne : list ≠ []) :=
    makeDirectory_spares hnames hfiles hspared htop htopSlash hother hlist hne mode
  induction depth generalizing list with
  | zero => exact relates_fail _ _ _
  | succ depth ih =>
    unfold makeDirectoriesWithin
    refine relates_get.bind fun tree => ?_
    split
    · exact relates_pure _
    · exact relates_fail _ _ _
    · split
      · next parent hparent =>
        obtain ⟨init, name, rfl⟩ := (List.eq_nil_or_concat' list).resolve_left hne
        have hways := (hnames.concat htop htopSlash).of_begun hlist
        obtain ⟨hinit, rfl⟩ := eq_of_above?_eq_some hways hparent
        exact (ih ((List.prefix_append init [name]).trans hlist) hinit).bind fun _ => hmake hlist hne
      · exact hmake hlist hne

end Directory

/-! ## Writing files -/

/-- Whatever becomes of another file. -/
theorem replaceFile_spares {top : Bytes} (htop : Path.IsPlain top) (htopSlash : Path.slash ∉ top)
    {name : Bytes} (hname : isFile name)
    (hother : ∀ sub file, isSpared sub file → ¬ [top, name] <+: [sub, file]) (content : Bytes)
    (mode : Nat) :
    Relates (Spares isFile rooted names isSpared)
      (replaceFile (Path.ofNames rooted (names ++ [top, name])) content mode) := by
  intro tree
  rcases hreplace : (replaceFile (Path.ofNames rooted (names ++ [top, name])) content mode).on tree
    with ⟨result, after⟩
  cases result with
  | error error => exact (replaceFile_error hreplace).spares
  | ok _ =>
    intro hshelf
    obtain ⟨-, location, hlocation, hdir, hwritten⟩ := replaceFile_ok hreplace
    obtain ⟨root, hroot, rfl⟩ := reach_of_locateBy_file hnames hfiles htop htopSlash hname hshelf
      hlocation
    have hlink : tree.link? (root ++ [top, name]) = none := by
      simpa using (hshelf.links root hroot top name hname).2.1
    refine spares_of_elsewhere hnames hfiles hspared hroot (hwritten.keeps hdir hlink)
      (hwritten.proper hshelf.proper hdir (hshelf.proper.locateBy_stands hlocation))
      (fun sub file begun hfile hbegun => ?_) hshelf
    rw [hwritten.nodes, if_neg (append_ne_of_begun (hother sub file hfile) hbegun)]

end Shelf

end Files

end FunctionChain
