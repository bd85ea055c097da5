import FunctionChain.Proofs.Files.Action
import FunctionChain.Proofs.Files.Tree

/-!
# What writing leaves behind

Making directories and writing a whole file, told by the tree afterwards. Directories that are made
hold nothing yet, and no path leads elsewhere than before. A file that is written by way of a
temporary one stands at the location that its path named, in place of what was there, and everything
else is as it was (`replaceFile_ok`). If a link is lost so, a path that leads somewhere still has led
there, or leads to the file (`IsWritten.locate_back`).
-/

namespace FunctionChain

namespace Files

open Files.Action Files.Tree

/-! ## Steps of an action -/

/-- What comes next knows the tree. -/
theorem on_get_bind {α : Type} (next : Tree → Action α) (tree : Tree) :
    (get >>= next : Action α).on tree = (next tree).on tree := rfl

/-- What comes next begins with the tree that was set. -/
theorem on_set_bind {α : Type} (later : Tree) (next : PUnit → Action α) (tree : Tree) :
    ((set later : Action PUnit) >>= next).on tree = (next ⟨⟩).on later := rfl

/-- An action that is done after another comes to an end only if the first does. -/
theorem bind_eq_ok {α β : Type} {action : Action α} {next : α → Action β} {tree after : Tree}
    {result : β} (h : (action >>= next).on tree = (.ok result, after)) :
    ∃ value middle, action.on tree = (.ok value, middle) ∧
      (next value).on middle = (.ok result, after) := by
  rw [on_bind] at h
  split at h
  · next value middle hfirst => exact ⟨value, middle, hfirst, h⟩
  · cases h

/-- A result is there and the tree as it was. -/
theorem pure_eq_ok {α : Type} {value result : α} {tree after : Tree}
    (h : (pure value : Action α).on tree = (.ok result, after)) : value = result ∧ tree = after := by
  obtain ⟨hresult, htree⟩ := Prod.mk.inj h
  exact ⟨Except.ok.inj hresult, htree⟩

/-- An attempt without an error has succeeded. -/
theorem attempt_eq_ok {action : Action Unit} {tree after : Tree}
    (h : action.attempt.on tree = (.ok none, after)) : action.on tree = (.ok (), after) := by
  simp only [on, Action.attempt] at h
  split at h
  · cases h
  · next hok =>
    cases h
    exact hok

/-- What succeeds has no words before it. -/
theorem labelled_eq_ok {α : Type} {action : Action α} {message : Bytes} {tree after : Tree}
    {result : α} (h : (action.labelled message).on tree = (.ok result, after)) :
    action.on tree = (.ok result, after) := by
  simp only [on, Action.labelled] at h
  split at h
  · cases h
  · next hok =>
    cases h
    exact hok

/-- A failure names its call and its paths, and leaves the tree alone. -/
theorem on_fail {α : Type} (call : Bytes) (paths : List Bytes) (reason : Reason) (tree : Tree) :
    (fail call paths reason : Action α).on tree = (.error (.file ⟨call, paths, reason⟩), tree) := rfl

/-- A call that fails has no result. -/
theorem fail_ne_ok {α : Type} {call : Bytes} {paths : List Bytes} {reason : Reason}
    {tree after : Tree} {result : α} :
    (fail call paths reason : Action α).on tree ≠ (.ok result, after) := nofun

/-- An action that comes to an end, by what it gives back. -/
theorem on_eq_ok (action : Action Unit) (tree : Tree)
    (h : (action.on tree).1.toOption = some ()) :
    action.on tree = (.ok (), (action.on tree).2) := by
  generalize action.on tree = outcome at h ⊢
  obtain ⟨result, after⟩ := outcome
  cases result with
  | error error => cases h
  | ok result => rfl

/-! ## Making directories -/

/-- A directory is made in a free place. -/
theorem makeDirectory_ok {path : Bytes} {mode : Nat} {tree after : Tree}
    (h : (makeDirectory path mode).on tree = (.ok (), after)) :
    ∃ location, tree.locateName path = .ok location ∧ tree.isTaken location = false ∧
      after = tree.put location (.directory mode) := by
  unfold makeDirectory at h
  rw [on_get_bind] at h
  split at h
  · exact absurd h fail_ne_ok
  · next location hlocation =>
    split at h
    · exact absurd h fail_ne_ok
    · next hfree =>
      cases h
      exact ⟨location, hlocation, Bool.eq_false_iff.2 hfree, rfl⟩

/-- `HasMade before after path location`: the path leads to the directory at the location, paths
lead where they have led, and the directory is new and empty unless nothing was to be made. -/
structure HasMade (before after : Tree) (path : Bytes) (location : Location) : Prop where
  proper : after.IsProper
  keeps : Keeps before after
  leads : after.locate path = .ok location
  directory : after.HasDirectory location
  fresh : after = before ∨
    before.isThere path = false ∧ ∀ name, after.isTaken (location ++ [name]) = false

/-- A path has the node of the place where it leads. -/
theorem stat_eq_ok_iff {tree : Tree} {path : Bytes} {node : Node} :
    tree.stat path = .ok node ↔
      ∃ location, tree.locate path = .ok location ∧ tree.get? location = some node := by
  unfold stat
  cases tree.locate path with
  | error reason => simp
  | ok location => cases hnode : tree.get? location <;> simp [hnode]

/-- The content of a file is read. -/
theorem on_contents {tree : Tree} {path content : Bytes} {mode : Nat}
    (h : tree.stat path = .ok (.file mode content)) :
    (contents path).on tree = (.ok content, tree) := by
  rw [contents, on_get_bind, h]
  rfl

/-- Content that was read is that of a file, and nothing has changed. -/
theorem contents_ok {tree after : Tree} {path content : Bytes}
    (h : (contents path).on tree = (.ok content, after)) :
    after = tree ∧ ∃ mode, tree.stat path = .ok (.file mode content) := by
  rw [contents, on_get_bind] at h
  split at h
  · cases h
  · cases h
  · next mode _ hstat =>
    cases h
    exact ⟨rfl, mode, hstat⟩

/-- What was brought to the disk is there, and nothing has changed. -/
theorem syncDirectory_ok {path : Bytes} {tree after : Tree}
    (h : (syncDirectory path).on tree = (.ok (), after)) :
    after = tree ∧ ∃ node, tree.stat path = .ok node := by
  unfold syncDirectory at h
  rw [on_get_bind] at h
  split at h
  · exact absurd h fail_ne_ok
  · next node hstat =>
    cases h
    exact ⟨rfl, node, hstat⟩

/-- There is nothing below what is put where there was nothing. -/
theorem not_taken_put {tree : Tree} (hproper : tree.IsProper) {location : Location}
    (hfree : tree.isTaken location = false) (node : Node) (name : Bytes) :
    (tree.put location node).isTaken (location ++ [name]) = false := by
  have hbelow : location ++ [name] ≠ location := by simp
  have hnot : ¬ tree.HasDirectory location := by
    rintro ⟨mode, hmode⟩
    cases (isTaken_eq_false_iff.1 hfree).1.symm.trans hmode
  rw [isTaken, get?_put _ _ (ne_nil_of_not_taken hfree), link?_put, if_neg hbelow, if_neg hbelow]
  exact hproper.not_taken hnot name

/-- A directory that has just been made holds nothing. -/
theorem makeDirectory_isEmpty {path : Bytes} {mode : Nat} {tree after : Tree}
    (hproper : tree.IsProper) (h : (makeDirectory path mode).on tree = (.ok (), after)) :
    after.IsProper ∧ Keeps tree after ∧ ∃ location, after.locate path = .ok location ∧
      after.HasDirectory location ∧ ∀ name, after.isTaken (location ++ [name]) = false := by
  obtain ⟨location, hlocation, hfree, rfl⟩ := makeDirectory_ok h
  have hkeeps := Keeps.put hfree (.directory mode)
  have hne := ne_nil_of_not_taken hfree
  obtain ⟨-, hlink⟩ := isTaken_eq_false_iff.1 hfree
  refine ⟨hproper.put hfree (hproper.locateBy_stands hlocation) _, hkeeps, location, ?_, ?_, ?_⟩
  · exact locate_of_locateName (hkeeps.locateBy hlocation) ((hkeeps.links _).trans hlink)
  · exact ⟨mode, by rw [get?_put _ _ hne, if_pos rfl]⟩
  · exact not_taken_put hproper hfree _

/-- **Directories.** Making a directory and those that lead to it. -/
theorem makeDirectoriesWithin_ok {mode depth : Nat} {path : Bytes} {tree after : Tree}
    (hproper : tree.IsProper)
    (h : (makeDirectoriesWithin mode depth path).on tree = (.ok (), after)) :
    ∃ location, HasMade tree after path location := by
  induction depth generalizing path after with
  | zero => exact absurd h fail_ne_ok
  | succ depth ih =>
    unfold makeDirectoriesWithin at h
    rw [on_get_bind] at h
    split at h
    · next mode hstat =>
      cases h
      obtain ⟨location, hlocation, hnode⟩ := stat_eq_ok_iff.1 hstat
      exact ⟨location, hproper, Keeps.refl tree, hlocation, ⟨mode, hnode⟩, .inl rfl⟩
    · exact absurd h fail_ne_ok
    · next reason hstat =>
      have hmissing : tree.isThere path = false := by simp [isThere, hstat]
      have hmade {middle : Tree} (hmiddle : middle.IsProper) (hkeeps : Keeps tree middle)
          (hlast : (makeDirectory path mode).on middle = (.ok (), after)) :
          ∃ location, HasMade tree after path location := by
        obtain ⟨hafter, hkeeps', location, hlocation, hdir, hempty⟩ :=
          makeDirectory_isEmpty hmiddle hlast
        exact ⟨location, hafter, hkeeps.trans hkeeps', hlocation, hdir, .inr ⟨hmissing, hempty⟩⟩
      split at h
      · obtain ⟨_, middle, hparent, hlast⟩ := bind_eq_ok h
        obtain ⟨_, hmiddle, hkeeps, -⟩ := ih hparent
        exact hmade hmiddle hkeeps hlast
      · exact hmade hproper (Keeps.refl tree) h

/-! ## Writing a file -/

/-- `IsWritten before location node after`: the node stands at the location now, in place of what
was there, and everything else is as it was. -/
structure IsWritten (before : Tree) (location : Location) (node : Node) (after : Tree) : Prop where
  here : after.here = before.here
  nodes : ∀ other, after.get? other = if other = location then some node else before.get? other
  links : ∀ other, after.link? other = if other = location then none else before.link? other

/-- A node that is put is written. -/
theorem isWritten_put (tree : Tree) {location : Location} (h : location ≠ []) (node : Node) :
    IsWritten tree location node (tree.put location node) :=
  ⟨rfl, fun other => get?_put tree other h node, fun other => link?_put tree other node⟩

namespace IsWritten

variable {before after : Tree} {location : Location} {node : Node}
  (h : IsWritten before location node after)
include h

/-- What was written is there. -/
theorem get : after.get? location = some node := by rw [h.nodes, if_pos rfl]

/-- There is no link where something was written. -/
theorem link : after.link? location = none := by rw [h.links, if_pos rfl]

/-- Writing once more counts. -/
theorem overwrite {later : Tree} {other : Node} (h' : IsWritten after location other later) :
    IsWritten before location other later where
  here := h'.here.trans h.here
  nodes place := by
    rw [h'.nodes, h.nodes]
    split <;> rfl
  links place := by
    rw [h'.links, h.links]
    split <;> rfl

/-- All links stay if there was none in the place. -/
theorem links_eq (hlink : before.link? location = none) (other : Location) :
    after.link? other = before.link? other := by
  rw [h.links]
  split
  · next heq => rw [heq, hlink]
  · rfl

/-- Directories elsewhere stay. -/
theorem directories {other : Location} (hdir : before.HasDirectory other) (hne : other ≠ location) :
    after.HasDirectory other := by
  obtain ⟨mode, hmode⟩ := hdir
  exact ⟨mode, by rw [h.nodes, if_neg hne, hmode]⟩

/-- A file in place of what is neither a directory nor a link changes nothing for paths. -/
theorem keeps (hdir : ¬ before.HasDirectory location) (hlink : before.link? location = none) :
    Keeps before after where
  here := h.here
  links := h.links_eq hlink
  directories _ hother := h.directories hother fun heq => hdir (heq ▸ hother)

/-- A file that is written in a directory leaves a tree proper. -/
theorem proper (hproper : before.IsProper) (hdir : ¬ before.HasDirectory location)
    (hstands : before.Stands location) : after.IsProper := by
  intro above name htaken
  by_cases hhere : above ++ [name] = location
  · exact h.directories (hstands above name hhere.symm) fun heq => by simp [heq] at hhere
  · rw [isTaken, h.nodes, h.links, if_neg hhere, if_neg hhere] at htaken
    have habove := hproper above name htaken
    exact h.directories habove fun heq => hdir (heq ▸ habove)

section File

variable (hfile : node.isDirectory = false)
include hfile

/-- There is no directory where a file was written. -/
theorem not_hasDirectory : ¬ after.HasDirectory location := by
  rintro ⟨mode, hmode⟩
  cases h.get.symm.trans hmode
  cases hfile

/-- All directories were there before. -/
theorem directories_back {other : Location} (hdir : after.HasDirectory other) :
    before.HasDirectory other ∧ other ≠ location := by
  have hother : other ≠ location := fun heq => h.not_hasDirectory hfile (heq ▸ hdir)
  obtain ⟨mode, hmode⟩ := hdir
  rw [h.nodes, if_neg hother] at hmode
  exact ⟨⟨mode, hmode⟩, hother⟩

/-- What stands after the writing of a file stood before, in other places. -/
theorem keeps_back (hlink : before.link? location = none) : Keeps after before where
  here := h.here.symm
  links other := (h.links_eq hlink other).symm
  directories _ hdir := (h.directories_back hfile hdir).1

/-- For paths a file is no more than what it stands in place of would be if it were gone. -/
theorem keeps_erase (hne : location ≠ []) : Keeps after (before.erase location) where
  here := h.here.symm
  links other := by rw [h.links, link?_erase]
  directories other hdir := by
    obtain ⟨⟨mode, hmode⟩, hother⟩ := h.directories_back hfile hdir
    exact ⟨mode, by rw [get?_erase _ _ hne, if_neg hother, hmode]⟩

/-- Names that lead somewhere have led there, unless they end at the file: it has nothing below. -/
theorem walks_back {start : Location} {names : List Bytes} {found : Location ⊕ Detour}
    (hwalks : Walks after true start names found) :
    Walks before true start names found ∨ found = .inl location := by
  induction hwalks with
  | done start => exact .inl (.done start)
  | same hdir _ ih => exact ih.imp_left (.same (h.directories_back hfile hdir).1)
  | up hdir _ ih => exact ih.imp_left (.up (h.directories_back hfile hdir).1)
  | @name start name rest found hdir hname hnone hrest ih =>
    by_cases heq : start ++ [name] = location
    · rw [heq] at hrest
      cases hrest with
      | done => exact .inr rfl
      | same hbelow | up hbelow | name hbelow | link hbelow | linkAtEnd hbelow =>
        exact absurd hbelow (h.not_hasDirectory hfile)
    · rw [h.links, if_neg heq] at hnone
      exact ih.imp_left (.name (h.directories_back hfile hdir).1 hname hnone)
  | @link start name target rest hdir hname hsome hend =>
    have hne : start ++ [name] ≠ location := by
      intro heq
      rw [heq, h.link] at hsome
      cases hsome
    rw [h.links, if_neg hne] at hsome
    exact .inl (.link (h.directories_back hfile hdir).1 hname hsome hend)
  | linkAtEnd _ _ _ hfollows => cases hfollows

/-- A walk after the writing was one before, or ends at the place. -/
theorem walk_back {links : Nat} {start found : Location} {names : List Bytes}
    (hwalk : after.walk true links start names = .ok found) :
    before.walk true links start names = .ok found ∨ found = location := by
  induction links generalizing start names with
  | zero => cases hwalk
  | succ links ih =>
    rw [walk_succ_eq_ok_iff] at hwalk ⊢
    rcases hwalk with hwalks | ⟨detour, hwalks, hrest⟩
    · exact (h.walks_back hfile hwalks).imp .inl Sum.inl.inj
    · have hdetour := (h.walks_back hfile hwalks).resolve_right nofun
      exact (ih hrest).imp_left fun hfound => .inr ⟨detour, hdetour, hfound⟩

/-- A path that leads somewhere has led there, unless it leads to the file. -/
theorem locate_back {path : Bytes} {place : Location} (hpath : after.locate path = .ok place) :
    before.locate path = .ok place ∨ place = location := by
  obtain ⟨hpath, hwalk⟩ := locateBy_eq_ok_iff.1 hpath
  rw [startOf, h.here] at hwalk
  exact (h.walk_back hfile hwalk).imp_left fun hfound => locateBy_eq_ok_iff.2 ⟨hpath, hfound⟩

end File

end IsWritten

/-- The next number for names makes no difference to files. -/
theorem keeps_fresh (tree : Tree) (number : Nat) :
    Keeps tree { tree with fresh := number } ∧ Keeps { tree with fresh := number } tree :=
  ⟨⟨rfl, fun _ => rfl, fun _ h => h⟩, ⟨rfl, fun _ => rfl, fun _ h => h⟩⟩

/-- A temporary file is a new one. -/
theorem createTemporary_ok {directory start path : Bytes} {tree after : Tree}
    (h : (createTemporary directory start).on tree = (.ok path, after)) :
    (∃ number, path = inside directory (start ++ Decimal.ofNat number)) ∧
      ∃ location, tree.locateName path = .ok location ∧ tree.isTaken location = false ∧
        IsWritten tree location (.file 0o600 []) after := by
  unfold createTemporary at h
  obtain ⟨_, middle, hfresh, h⟩ := bind_eq_ok h
  cases hfresh
  rw [on_get_bind] at h
  split at h
  · exact absurd h fail_ne_ok
  next location hlocation =>
  split at h
  · exact absurd h fail_ne_ok
  next hfree =>
  cases h
  have hfree := Bool.eq_false_iff.2 hfree
  obtain ⟨hhere, hnodes, hlinks⟩ :=
    isWritten_put { tree with fresh := freshNumber tree directory start [] + 1 }
      (ne_nil_of_not_taken hfree) (.file 0o600 [])
  exact ⟨⟨freshNumber tree directory start [], by simp⟩, location,
    (keeps_fresh tree _).2.locateBy hlocation, hfree, hhere, hnodes, hlinks⟩

/-- A file that takes another name is found there alone. -/
theorem renameFile_ok {source target content : Bytes} {mode : Nat} {tree after : Tree}
    {old : Location} (hold : tree.locateName source = .ok old)
    (hfile : tree.get? old = some (.file mode content))
    (h : (renameFile source target).on tree = (.ok (), after)) :
    ∃ new, tree.locateName target = .ok new ∧ ¬ tree.HasDirectory new ∧
      after = (tree.erase old).put new (.file mode content) := by
  unfold renameFile at h
  rw [on_get_bind, hold] at h
  split at h
  · next heq => cases heq
  · exact absurd h fail_ne_ok
  next new heq hnew =>
  cases heq
  rw [hfile] at h
  split at h
  · next heq _ => cases heq
  · exact absurd h fail_ne_ok
  · next node heq hnot =>
    cases heq
    cases h
    refine ⟨new, hnew, ?_, rfl⟩
    rintro ⟨mode, hmode⟩
    exact hnot mode hmode
  · next heq _ _ => cases heq

/-- Once there is a temporary file it is filled with the content and renamed, and it is taken away if
that fails. -/
theorem replaceFile_of_created {path content temporary : Bytes} {mode : Nat} {tree second : Tree}
    (hcreate : (createTemporary (Path.parent path) (Path.base path ++ bytes ".tmp.")).on tree
      = (.ok temporary, second)) :
    ∃ place third, tree.locateName temporary = .ok place ∧ tree.isTaken place = false ∧
      IsWritten tree place (.file mode content) third ∧
      (replaceFile path content mode).on tree
        = (tryCatch (renameFile temporary path) fun error => do
            discard temporary
            throw error : Action Unit).on third := by
  obtain ⟨-, place, hplace, hfree, hwritten⟩ := createTemporary_ok hcreate
  obtain ⟨hnode, hlink⟩ := isTaken_eq_false_iff.1 hfree
  have hnodir : ¬ tree.HasDirectory place := by
    rintro ⟨mode, hmode⟩
    cases hnode.symm.trans hmode
  have hne := ne_nil_of_not_taken hfree
  have hsecond : second.locateName temporary = .ok place :=
    (hwritten.keeps hnodir hlink).locateBy hplace
  refine ⟨place, second.put place (.file mode content), hplace, hfree,
    hwritten.overwrite (isWritten_put second hne (.file mode content)), ?_⟩
  unfold replaceFile
  rw [on_bind, hcreate]
  dsimp only
  rw [on_get_bind, locate_of_locateName hsecond hwritten.link]
  rfl

/-- **Writing.** A file that is replaced as a whole stands where its path named it, and everything
else is as it was. -/
theorem replaceFile_ok {path content : Bytes} {mode : Nat} {tree after : Tree}
    (h : (replaceFile path content mode).on tree = (.ok (), after)) :
    (∃ number, IsPath (inside (Path.parent path)
        (Path.base path ++ bytes ".tmp." ++ Decimal.ofNat number))) ∧
      ∃ location, tree.locateName path = .ok location ∧ ¬ tree.HasDirectory location ∧
        IsWritten tree location (.file mode content) after := by
  obtain ⟨temporary, second, hcreate, -⟩ := bind_eq_ok h
  obtain ⟨⟨number, hname⟩, -⟩ := createTemporary_ok hcreate
  obtain ⟨place, third, hplace, hfree, hthird, hreplace⟩ :=
    @replaceFile_of_created path content temporary mode tree second hcreate
  obtain ⟨hnode, hlink⟩ := isTaken_eq_false_iff.1 hfree
  have hnodir : ¬ tree.HasDirectory place := by
    rintro ⟨mode, hmode⟩
    cases hnode.symm.trans hmode
  have hne := ne_nil_of_not_taken hfree
  rw [hreplace, on_tryCatch] at h
  have hkeeps := hthird.keeps hnodir hlink
  have hback := hthird.keeps_back rfl hlink
  split at h
  · next hrename =>
    cases h
    obtain ⟨new, hnew, hnotDir, rfl⟩ :=
      renameFile_ok (hkeeps.locateBy hplace) hthird.get hrename
    have hnewNe : new ≠ [] := by
      rintro rfl
      exact hnotDir (hasDirectory_nil third)
    refine ⟨⟨number, hname ▸ (locateBy_eq_ok_iff.1 hplace).1⟩, new, hback.locateBy hnew,
      fun hdir => hnotDir (hkeeps.directories new hdir), ?_⟩
    have hput := isWritten_put (third.erase place) hnewNe (.file mode content)
    refine ⟨hput.here.trans hthird.here, fun other => ?_, fun other => ?_⟩
    · rw [hput.nodes, get?_erase _ _ hne, hthird.nodes]
      grind
    · rw [hput.links, link?_erase, hthird.links]
      grind
  · obtain ⟨_, _, _, hthrow⟩ := bind_eq_ok h
    cases hthrow

end Files

end FunctionChain
