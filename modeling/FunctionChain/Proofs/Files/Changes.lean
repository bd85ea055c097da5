import FunctionChain.Proofs.Files.Writing
import Mathlib.Order.Defs.Unbundled

/-!
# What actions change

Some things are true of the trees before and after an action whatever comes of it, a result or an
error (`Relates`). If a relation is reflexive and transitive, an action stands in it as soon as its
steps do. Making directories is an example: it may fail after some have been made, but all that it
changes is that there are directories where there was nothing (`AddsDirectories`). Other actions
change nothing and give what depends on a single path (`LooksAt`).
-/

namespace FunctionChain

namespace Files

namespace Action

variable {α β : Type} {relation : Tree → Tree → Prop}

/-- The trees before and after the action stand in the relation, whatever comes of it. -/
def Relates (relation : Tree → Tree → Prop) (action : Action α) : Prop :=
  ∀ tree, relation tree (action.on tree).2

section Refl

variable [Std.Refl relation]

/-- An action that leaves the tree alone. -/
theorem relates_of_eq {action : Action α} (h : ∀ tree, (action.on tree).2 = tree) :
    Relates relation action := by
  intro tree
  rw [h]
  exact Std.Refl.refl tree

/-- A result leaves the tree as it was. -/
theorem relates_pure (result : α) : Relates relation (pure result : Action α) :=
  relates_of_eq fun _ => rfl

/-- Looking at the tree leaves it as it was. -/
theorem relates_get : Relates relation (get : Action Tree) := relates_of_eq fun _ => rfl

/-- An error leaves the tree as it was. -/
theorem relates_throw (error : Error) : Relates relation (throw error : Action α) :=
  relates_of_eq fun _ => rfl

/-- A call that fails leaves the tree as it was. -/
theorem relates_fail (call : Bytes) (paths : List Bytes) (reason : Reason) :
    Relates relation (fail call paths reason : Action α) := relates_throw _

end Refl

/-- What each of two steps keeps they keep together. -/
theorem Relates.bind [IsTrans Tree relation] {action : Action α} {next : α → Action β}
    (h : Relates relation action) (hnext : ∀ result, Relates relation (next result)) :
    Relates relation (action >>= next) := by
  intro tree
  have hfirst := h tree
  rw [on_bind]
  generalize action.on tree = outcome at hfirst ⊢
  obtain ⟨result, middle⟩ := outcome
  cases result with
  | error error => exact hfirst
  | ok result => exact IsTrans.trans _ _ _ hfirst (hnext result middle)

/-- Words before an error change nothing else. -/
theorem on_labelled (action : Action α) (message : Bytes) (tree : Tree) :
    (action.labelled message).on tree = match action.on tree with
      | (.error error, tree) => (.error (.wrap message error), tree)
      | (.ok result, tree) => (.ok result, tree) := rfl

/-- So they leave the tree as it would be without them. -/
theorem Relates.labelled {action : Action α} (h : Relates relation action) (message : Bytes) :
    Relates relation (action.labelled message) := by
  intro tree
  have hfirst := h tree
  rw [on_labelled]
  split
  · next heq => rwa [heq] at hfirst
  · next heq => rwa [heq] at hfirst

/-! ## Actions that only look -/

/-- The action changes nothing, and gives the same wherever the same stands at the path. -/
structure LooksAt (path : Bytes) (action : Action α) : Prop where
  keeps : Relates Eq action
  congr : ∀ {before after : Tree}, after.stat path = before.stat path →
    (action.on after).1 = (action.on before).1

/-- A result looks at nothing. -/
theorem looksAt_pure (path : Bytes) (result : α) : LooksAt path (pure result : Action α) where
  keeps := relates_pure result
  congr _ := rfl

/-- An error looks at nothing. -/
theorem looksAt_throw (path : Bytes) (error : Error) : LooksAt path (throw error : Action α) where
  keeps := relates_throw error
  congr _ := rfl

/-- A call that fails looks at nothing. -/
theorem looksAt_fail (path call : Bytes) (paths : List Bytes) (reason : Reason) :
    LooksAt path (fail call paths reason : Action α) := looksAt_throw path _

/-- The action goes on in a way that depends on what stands at the path. -/
theorem looksAt_get_bind {path : Bytes} {next : Tree → Action α}
    (hsame : ∀ {before after : Tree}, after.stat path = before.stat path → next after = next before)
    (h : ∀ tree, LooksAt path (next tree)) : LooksAt path (get >>= next : Action α) where
  keeps tree := (h tree).keeps tree
  congr {before after} hstat := by
    rw [on_get_bind, on_get_bind, hsame hstat]
    exact (h before).congr hstat

/-- One look after another is a look. -/
theorem LooksAt.bind {path : Bytes} {action : Action α} {next : α → Action β}
    (h : LooksAt path action) (hnext : ∀ result, LooksAt path (next result)) :
    LooksAt path (action >>= next) where
  keeps := h.keeps.bind fun result => (hnext result).keeps
  congr {before after} hstat := by
    have hfirst := h.congr hstat
    have hbefore := h.keeps before
    have hafter := h.keeps after
    rw [on_bind, on_bind]
    generalize action.on before = outcome at hfirst hbefore ⊢
    generalize action.on after = other at hfirst hafter ⊢
    obtain ⟨_, _⟩ := outcome
    obtain ⟨result, _⟩ := other
    subst hfirst hbefore hafter
    cases result with
    | error error => rfl
    | ok result => exact (hnext result).congr hstat

end Action

open Files.Action Files.Tree

/-- Reading a file looks at its path. -/
theorem contents_looksAt (path : Bytes) : LooksAt path (contents path) := by
  refine looksAt_get_bind (fun hstat => by rw [hstat]) fun tree => ?_
  split
  · exact looksAt_fail _ _ _ _
  · exact looksAt_fail _ _ _ _
  · exact looksAt_pure _ _

/-- Bringing a directory to the disk changes nothing. -/
theorem syncDirectory_relates {relation : Tree → Tree → Prop} [Std.Refl relation] (path : Bytes) :
    Relates relation (syncDirectory path) := by
  refine relates_of_eq fun tree => ?_
  unfold syncDirectory
  rw [on_get_bind]
  split <;> rfl

/-! ## Trees that look the same -/

namespace Tree

/-- The same stands at every location. -/
structure Alike (before after : Tree) : Prop where
  here : after.here = before.here
  nodes : ∀ location, after.get? location = before.get? location
  links : ∀ location, after.link? location = before.link? location

namespace Alike

/-- A tree is like itself. -/
theorem refl (tree : Tree) : Alike tree tree := ⟨rfl, fun _ => rfl, fun _ => rfl⟩

/-- The next number for names is not looked at. -/
theorem fresh (tree : Tree) (number : Nat) : Alike tree { tree with fresh := number } :=
  ⟨rfl, fun _ => rfl, fun _ => rfl⟩

variable {before after : Tree} (h : Alike before after)
include h

/-- Trees that are alike have the same directories. -/
theorem hasDirectory_iff {location : Location} :
    after.HasDirectory location ↔ before.HasDirectory location := by
  rw [HasDirectory, HasDirectory, h.nodes]

/-- A tree that is like a proper one is proper. -/
theorem proper (hproper : before.IsProper) : after.IsProper := by
  intro location name htaken
  rw [isTaken, h.nodes, h.links] at htaken
  exact h.hasDirectory_iff.2 (hproper location name htaken)

/-- Trees that are alike have the same walks to links. -/
theorem walkToLink (follows : Bool) (location : Location) (names : List Bytes) :
    after.walkToLink follows location names = before.walkToLink follows location names := by
  induction names generalizing location with
  | nil => rfl
  | cons name rest ih => simp only [Tree.walkToLink, h.nodes, h.links, ih]

/-- They have the same walks through links. -/
theorem walk (follows : Bool) (links : Nat) (location : Location) (names : List Bytes) :
    after.walk follows links location names = before.walk follows links location names := by
  induction links generalizing location names with
  | zero => rfl
  | succ links ih => simp only [Tree.walk, h.walkToLink, ih]

/-- The same is found at every path, or missed for the same reason. -/
theorem stat (path : Bytes) : after.stat path = before.stat path := by
  have hlocate : after.locate path = before.locate path := by
    simp only [locate, locateBy, h.here, h.walk]
  simp only [Tree.stat, hlocate, h.nodes]

end Alike

end Tree

/-- What is put where there was nothing can be taken away again. -/
theorem IsWritten.alike_erase {before after : Tree} {location : Location} {node : Node}
    (h : IsWritten before location node after) (hfree : before.isTaken location = false) :
    Alike before (after.erase location) := by
  obtain ⟨hnode, hlink⟩ := isTaken_eq_false_iff.1 hfree
  refine ⟨h.here, fun other => ?_, fun other => ?_⟩
  · rw [get?_erase _ _ (ne_nil_of_not_taken hfree), h.nodes]
    split
    · next heq => rw [heq, hnode]
    · rfl
  · rw [link?_erase, h.links]
    split
    · next heq => rw [heq, hlink]
    · rfl

/-! ## Files that cannot be written -/

/-- A temporary file that cannot be created leaves the tree alike. -/
theorem createTemporary_error {directory start : Bytes} {error : Error} {tree after : Tree}
    (h : (createTemporary directory start).on tree = (.error error, after)) : Alike tree after := by
  unfold createTemporary at h
  have hfresh : (freshPath directory start []).on tree
      = (.ok (inside directory (start ++ Decimal.ofNat (freshNumber tree directory start []) ++ [])),
        { tree with fresh := freshNumber tree directory start [] + 1 }) := rfl
  rw [on_bind, hfresh] at h
  dsimp only at h
  rw [on_get_bind] at h
  split at h
  · cases h
    exact .fresh tree _
  · split at h
    · cases h
      exact .fresh tree _
    · cases h

/-- A file that cannot be renamed stays where it was. -/
theorem renameFile_error {source target : Bytes} {error : Error} {tree after : Tree}
    (h : (renameFile source target).on tree = (.error error, after)) : after = tree := by
  unfold renameFile at h
  rw [on_get_bind] at h
  split at h
  · cases h
    rfl
  · cases h
    rfl
  · split at h <;> cases h <;> rfl

/-- **Files that cannot be written.** Nothing has changed, and no temporary file has stayed. -/
theorem replaceFile_error {path content : Bytes} {mode : Nat} {error : Error} {tree after : Tree}
    (h : (replaceFile path content mode).on tree = (.error error, after)) : Alike tree after := by
  rcases hcreate : (createTemporary (Path.parent path) (Path.base path ++ bytes ".tmp.")).on tree
    with ⟨created, second⟩
  cases created with
  | error problem =>
    unfold replaceFile at h
    rw [on_bind, hcreate] at h
    cases h
    exact createTemporary_error hcreate
  | ok temporary =>
    obtain ⟨place, third, hplace, hfree, hthird, hreplace⟩ :=
      @replaceFile_of_created path content temporary mode tree second hcreate
    obtain ⟨hnode, hlink⟩ := isTaken_eq_false_iff.1 hfree
    have hnodir : ¬ tree.HasDirectory place := by
      rintro ⟨mode, hmode⟩
      cases hnode.symm.trans hmode
    rw [hreplace, on_tryCatch] at h
    rcases hrename : (renameFile temporary path).on third with ⟨renamed, last⟩
    rw [hrename] at h
    cases renamed with
    | ok _ => cases h
    | error problem =>
      -- The name could not be given, so the temporary file is the only thing that is new.
      obtain rfl := renameFile_error hrename
      have hlast : last.locateName temporary = .ok place :=
        (hthird.keeps hnodir hlink).locateBy hplace
      have hdiscard : (discard temporary).on last = (.ok (), last.erase place) := by
        unfold discard
        rw [on_get_bind, hlast]
        rfl
      dsimp only at h
      rw [on_bind, hdiscard] at h
      cases h
      exact hthird.alike_erase hfree

/-! ## Directories -/

/-- All that has changed is that there are directories where there was nothing. -/
structure AddsDirectories (before after : Tree) : Prop where
  here : after.here = before.here
  links : ∀ location, after.link? location = before.link? location
  nodes : ∀ location, after.get? location = before.get? location ∨
    before.isTaken location = false ∧ after.HasDirectory location

namespace AddsDirectories

/-- Nothing is added by doing nothing. -/
theorem refl (tree : Tree) : AddsDirectories tree tree := ⟨rfl, fun _ => rfl, fun _ => .inl rfl⟩

/-- Directories may be added twice. -/
theorem trans {a b c : Tree} (h : AddsDirectories a b) (h' : AddsDirectories b c) :
    AddsDirectories a c where
  here := h'.here.trans h.here
  links location := (h'.links location).trans (h.links location)
  nodes location := by
    rcases h.nodes location with hsame | ⟨hfree, mode, hdir⟩
    · rw [isTaken, ← hsame, ← h.links location]
      exact h'.nodes location
    · rcases h'.nodes location with hsame | ⟨hfree', -⟩
      · exact .inr ⟨hfree, mode, hsame.trans hdir⟩
      · cases (isTaken_eq_false_iff.1 hfree').1.symm.trans hdir

/-- A directory is added in a free place. -/
theorem put {tree : Tree} {location : Location} (hfree : tree.isTaken location = false)
    (mode : Nat) : AddsDirectories tree (tree.put location (.directory mode)) where
  here := rfl
  links := (Keeps.put hfree _).links
  nodes other := by
    rw [get?_put _ _ (ne_nil_of_not_taken hfree)]
    split
    · next heq =>
      subst heq
      exact .inr ⟨hfree, mode, by rw [get?_put _ _ (ne_nil_of_not_taken hfree), if_pos rfl]⟩
    · exact .inl rfl

/-- The files are the same. -/
theorem files {before after : Tree} (h : AddsDirectories before after) (location : Location)
    (mode : Nat) (content : Bytes) :
    after.get? location = some (.file mode content) ↔
      before.get? location = some (.file mode content) := by
  rcases h.nodes location with hsame | ⟨hfree, other, hdir⟩
  · rw [hsame]
  · rw [hdir, (isTaken_eq_false_iff.1 hfree).1]
    simp

end AddsDirectories

instance : Std.Refl AddsDirectories := ⟨AddsDirectories.refl⟩

instance : IsTrans Tree AddsDirectories := ⟨fun _ _ _ => AddsDirectories.trans⟩

/-- A directory that cannot be made leaves the tree as it was. -/
theorem makeDirectory_error {path : Bytes} {mode : Nat} {error : Error} {tree after : Tree}
    (h : (makeDirectory path mode).on tree = (.error error, after)) : after = tree := by
  unfold makeDirectory at h
  rw [on_get_bind] at h
  split at h
  · cases h
    rfl
  · split at h <;> cases h
    rfl

/-- Making a directory adds directories at most. -/
theorem makeDirectory_adds (path : Bytes) (mode : Nat) :
    Relates AddsDirectories (makeDirectory path mode) := by
  intro tree
  rcases hmake : (makeDirectory path mode).on tree with ⟨result, after⟩
  cases result with
  | error error =>
    obtain rfl := makeDirectory_error hmake
    exact .refl _
  | ok _ =>
    obtain ⟨location, -, hfree, rfl⟩ := makeDirectory_ok hmake
    exact .put hfree mode

/-- So does making those above it too, even if it fails on the way. -/
theorem makeDirectoriesWithin_adds (mode depth : Nat) (path : Bytes) :
    Relates AddsDirectories (makeDirectoriesWithin mode depth path) := by
  induction depth generalizing path with
  | zero => exact relates_fail _ _ _
  | succ depth ih =>
    unfold makeDirectoriesWithin
    refine relates_get.bind fun tree => ?_
    split
    · exact relates_pure _
    · exact relates_fail _ _ _
    · split
      · exact (ih _).bind fun _ => makeDirectory_adds path mode
      · exact makeDirectory_adds path mode

end Files

end FunctionChain
