import FunctionChain.Proofs.Files.Changes
import FunctionChain.Proofs.Files.Directory

/-!
# Following names onward

Names that lead to a place need not be followed again to tell where further names lead from there
(`walk_append`). Below a place at which there are no links, plain names are followed from node to
node (`nodeAlong`). So it is told, errors included, what stands at a cleaned path whose first names
lead to the place (`stat_ofNames_append`).
-/

namespace FunctionChain

namespace Path

/-- The names of a cleaned path are plain, or lead upwards. -/
theorem IsClean.isPlain_or_eq_up {rooted : Bool} {names : List Bytes} (h : IsClean rooted names)
    {name : Bytes} (hmem : name ∈ names) : IsPlain name ∨ name = up := by
  obtain ⟨k, below, rfl, -, hbelow⟩ := h
  rcases List.mem_append.1 hmem with hup | hmem
  · exact .inr (List.eq_of_mem_replicate hup)
  · exact .inl (hbelow name hmem)

/-- Behind a plain name there are plain names alone. -/
theorem IsClean.forall_isPlain {rooted : Bool} {names rest : List Bytes} {name : Bytes}
    (h : IsClean rooted (names ++ name :: rest)) (hname : IsPlain name) :
    ∀ other ∈ rest, IsPlain other := by
  obtain ⟨k, below, heq, -, hbelow⟩ := h
  intro other hmem
  rcases List.append_eq_append_iff.1 heq with ⟨ups, hups, hrest⟩ | ⟨more, -, rfl⟩
  · cases ups with
    | nil =>
      rw [List.nil_append] at hrest
      exact hbelow other (hrest ▸ List.mem_cons_of_mem _ hmem)
    | cons first ups =>
      -- The plain name would be one of those that lead upwards.
      rw [List.cons_append] at hrest
      obtain ⟨rfl, -⟩ := List.cons.inj hrest
      have hup : name ∈ List.replicate k up := hups ▸ List.mem_append_right _ List.mem_cons_self
      exact absurd (List.eq_of_mem_replicate hup) hname.notUp
  · exact hbelow other (List.mem_append_right _ (List.mem_cons_of_mem _ hmem))

/-- The names that a path has before its last ones. -/
theorem AreNames.of_append {rooted : Bool} {names rest : List Bytes}
    (h : AreNames rooted (names ++ rest)) : AreNames rooted names := by
  obtain ⟨⟨k, below, heq, hrooted, hbelow⟩, hslash⟩ := h
  refine ⟨?_, fun name hmem => hslash name (List.mem_append_left _ hmem)⟩
  rcases List.append_eq_append_iff.1 heq with ⟨ups, hups, -⟩ | ⟨more, rfl, rfl⟩
  · obtain ⟨-, hnames, -⟩ := List.append_eq_replicate_iff.1 hups.symm
    refine ⟨names.length, [], by rw [← hnames, List.append_nil], fun hr => ?_,
      List.forall_mem_nil _⟩
    have hk := congrArg List.length hups
    rw [hrooted hr] at hk
    simp only [List.replicate_zero, List.length_nil, List.length_append] at hk
    omega
  · exact ⟨k, more, rfl, hrooted, fun name hmem => hbelow name (List.mem_append_left _ hmem)⟩

/-- The beginning of names is names. -/
theorem AreNames.of_begun {rooted : Bool} {names init : List Bytes} (h : AreNames rooted names)
    (hinit : init <+: names) : AreNames rooted init := by
  obtain ⟨rest, rfl⟩ := hinit
  exact h.of_append

/-- The names along the cleaned form of a path. -/
def cleaned (path : Bytes) : List Bytes := cleanNames (isRooted path) (names path)

/-- The names of a path that was cleaned are names. -/
theorem areNames_cleaned (path : Bytes) : AreNames (isRooted path) (cleaned path) :=
  areNames_cleanNames _ path

/-- The names of a path of names. -/
theorem cleaned_ofNames {rooted : Bool} {names : List Bytes} (h : AreNames rooted names) :
    cleaned (ofNames rooted names) = names := by
  rw [cleaned, isRooted_ofNames h, cleanNames_ofNames h]

/-- Cleaning a path again changes no names. -/
theorem cleaned_clean (path : Bytes) : cleaned (clean path) = cleaned path :=
  cleaned_ofNames (areNames_cleaned path)

end Path

namespace Files

namespace Tree

/-! ## One name after the other -/

section Steps

variable {tree : Tree} {follows : Bool} {location : Location} {rest : List Bytes}
  (hdir : tree.HasDirectory location)
include hdir

/-- A step to the same directory is none. -/
theorem walkToLink_same : tree.walkToLink follows location (Path.same :: rest)
    = tree.walkToLink follows location rest := by
  have hshort : ¬ Path.same.length > longestName := by decide
  obtain ⟨mode, hmode⟩ := hdir
  simp [walkToLink, hmode, hshort]

/-- A step up leaves the last name. -/
theorem walkToLink_up : tree.walkToLink follows location (Path.up :: rest)
    = tree.walkToLink follows location.dropLast rest := by
  have hshort : ¬ Path.up.length > longestName := by decide
  have hne : ¬ Path.up = Path.same := by decide
  obtain ⟨mode, hmode⟩ := hdir
  simp [walkToLink, hmode, hshort, hne]

/-- A name that is no link goes down one step. -/
theorem walkToLink_name {name : Bytes} (hname : IsName name)
    (hlink : tree.link? (location ++ [name]) = none) :
    tree.walkToLink follows location (name :: rest)
      = tree.walkToLink follows (location ++ [name]) rest := by
  obtain ⟨mode, hmode⟩ := hdir
  simp [walkToLink, hmode, Nat.not_lt.2 hname.short, hname.notSame, hname.notUp, hlink]

/-- A name that is a link ends the walk there, unless it is the last one and links are not followed. -/
theorem walkToLink_link {name target : Bytes} (hname : IsName name)
    (hlink : tree.link? (location ++ [name]) = some target) (hrest : rest ≠ [] ∨ follows = true) :
    tree.walkToLink follows location (name :: rest) = .ok (.inr ⟨location, target, rest⟩) :=
  walkToLink_eq_ok_iff.2 (.link hdir hname hlink hrest)

end Steps

/-! ## Names behind names -/

/-- Behind names that lead to a place, names are followed from there. -/
theorem walkToLink_append {tree : Tree} {location place : Location} {names : List Bytes}
    (h : Walks tree true location names (.inl place)) (follows : Bool) (rest : List Bytes) :
    tree.walkToLink follows location (names ++ rest) = tree.walkToLink follows place rest := by
  generalize hend : (Sum.inl place : Location ⊕ Detour) = found at h
  induction h with
  | done location =>
    cases hend
    rfl
  | same hdir _ ih => exact (walkToLink_same hdir).trans (ih hend)
  | up hdir _ ih => exact (walkToLink_up hdir).trans (ih hend)
  | name hdir hname hlink _ ih => exact (walkToLink_name hdir hname hlink).trans (ih hend)
  | link => cases hend
  | linkAtEnd _ _ _ hfollows => cases hfollows

/-- Behind names that lead to a link on the way, names are left for later. -/
theorem walkToLink_append_detour {tree : Tree} {location : Location} {names : List Bytes}
    {detour : Detour} (h : Walks tree true location names (.inr detour)) (follows : Bool)
    {rest : List Bytes} (hrest : rest ≠ []) :
    tree.walkToLink follows location (names ++ rest)
      = .ok (.inr { detour with rest := detour.rest ++ rest }) := by
  generalize hend : (Sum.inr detour : Location ⊕ Detour) = found at h
  induction h with
  | done => cases hend
  | same hdir _ ih => exact (walkToLink_same hdir).trans (ih hend)
  | up hdir _ ih => exact (walkToLink_up hdir).trans (ih hend)
  | name hdir hname hlink _ ih => exact (walkToLink_name hdir hname hlink).trans (ih hend)
  | link hdir hname hlink =>
    cases hend
    exact walkToLink_link hdir hname hlink (.inl (List.append_ne_nil_of_right_ne_nil _ hrest))
  | linkAtEnd => cases hend

/-- **Names behind names.** Names that lead to a place can be left out: the names behind them are
followed from there, through as many links as are left. -/
theorem walk_append {tree : Tree} {links : Nat} {location place : Location} {names : List Bytes}
    (h : tree.walk true links location names = .ok place) {rest : List Bytes} (hrest : rest ≠ []) :
    ∃ left, ∀ follows, tree.walk follows links location (names ++ rest)
      = tree.walk follows (left + 1) place rest := by
  induction links generalizing location names with
  | zero => cases h
  | succ links ih =>
    rcases walk_succ_eq_ok_iff.1 h with hwalks | ⟨detour, hwalks, hafter⟩
    · refine ⟨links, fun follows => ?_⟩
      rw [walk, walk, walkToLink_append hwalks]
    · obtain ⟨left, hleft⟩ := ih hafter
      refine ⟨left, fun follows => ?_⟩
      rw [walk, walkToLink_append_detour hwalks follows hrest, ← hleft, List.append_assoc]

/-! ## From node to node -/

/-- Where names lead from a place, if all of them are plain and there are no links. -/
def locationAlong (tree : Tree) : Location → List Bytes → Except Reason Location
  | place, [] => .ok place
  | place, name :: rest => match tree.get? place with
    | none => .error .notFound
    | some (.file ..) => .error .notDirectory
    | some (.directory _) =>
      if name.length > longestName then .error .nameTooLong
      else locationAlong tree (place ++ [name]) rest

/-- The node at a location, or that there is none. -/
def nodeAt (tree : Tree) (location : Location) : Except Reason Node :=
  match tree.get? location with
  | some node => .ok node
  | none => .error .notFound

/-- What stands where names lead from a place. -/
def nodeAlong (tree : Tree) (place : Location) (names : List Bytes) : Except Reason Node :=
  (tree.locationAlong place names).bind tree.nodeAt

/-- There is no link where the names lead from a place. -/
def IsLinkFree (tree : Tree) : Location → List Bytes → Prop
  | _, [] => True
  | place, name :: rest =>
    tree.link? (place ++ [name]) = none ∧ IsLinkFree tree (place ++ [name]) rest

section Along

variable {tree : Tree} {place : Location}

/-- Along no names there is the node of the place. -/
theorem nodeAlong_nil (tree : Tree) (place : Location) :
    tree.nodeAlong place [] = tree.nodeAt place := rfl

/-- Nothing is found along names below what is not there. -/
theorem nodeAlong_of_missing (h : tree.get? place = none) (rest : List Bytes) :
    tree.nodeAlong place rest = .error .notFound := by
  cases rest with
  | nil => rw [nodeAlong_nil, nodeAt, h]
  | cons name rest =>
    rw [nodeAlong, locationAlong, h]
    rfl

/-- Along names below a directory one goes down one step. -/
theorem nodeAlong_cons (hdir : tree.HasDirectory place) {name : Bytes}
    (hshort : name.length ≤ longestName) (rest : List Bytes) :
    tree.nodeAlong place (name :: rest) = tree.nodeAlong (place ++ [name]) rest := by
  obtain ⟨mode, hmode⟩ := hdir
  rw [nodeAlong, locationAlong, hmode]
  dsimp only
  rw [if_neg (Nat.not_lt.2 hshort)]
  rfl

/-- A name that is too long leads nowhere, and neither do those behind it. -/
theorem nodeAlong_cons_ne_ok {name : Bytes} (hlong : longestName < name.length) (rest : List Bytes)
    (node : Node) : tree.nodeAlong place (name :: rest) ≠ .ok node := by
  rw [nodeAlong, locationAlong]
  cases hget : tree.get? place with
  | none => nofun
  | some here =>
    cases here with
    | file => nofun
    | directory =>
      dsimp only
      rw [if_pos hlong]
      nofun

/-- What stands along names is told by what stands where they lead. -/
theorem nodeAlong_congr {after : Tree} {names : List Bytes}
    (h : ∀ init, init <+: names → after.get? (place ++ init) = tree.get? (place ++ init)) :
    after.nodeAlong place names = tree.nodeAlong place names := by
  induction names generalizing place with
  | nil =>
    have hhere := h [] List.nil_prefix
    rw [List.append_nil] at hhere
    rw [nodeAlong_nil, nodeAlong_nil, nodeAt, nodeAt, hhere]
  | cons name rest ih =>
    have hhere := h [] List.nil_prefix
    rw [List.append_nil] at hhere
    have hrest : after.nodeAlong (place ++ [name]) rest = tree.nodeAlong (place ++ [name]) rest := by
      refine ih fun init hinit => ?_
      rw [List.append_assoc]
      exact h (name :: init) (List.cons_prefix_cons.2 ⟨rfl, hinit⟩)
    rw [nodeAlong, locationAlong, hhere, nodeAlong, locationAlong]
    cases tree.get? place with
    | none => rfl
    | some here =>
      cases here with
      | file => rfl
      | directory =>
        dsimp only
        split
        · rfl
        · exact hrest

/-- Below a place where there is no directory there is no link. -/
theorem IsProper.isLinkFree (hproper : tree.IsProper) (hdir : ¬ tree.HasDirectory place)
    (rest : List Bytes) : tree.IsLinkFree place rest := by
  induction rest generalizing place with
  | nil => trivial
  | cons name rest ih =>
    have hfree := hproper.not_taken hdir name
    refine ⟨(isTaken_eq_false_iff.1 hfree).2, ih ?_⟩
    rintro ⟨mode, hmode⟩
    cases (isTaken_eq_false_iff.1 hfree).1.symm.trans hmode

/-- Along names one comes to the place below. -/
theorem eq_of_locationAlong {names : List Bytes} {location : Location}
    (h : tree.locationAlong place names = .ok location) : location = place ++ names := by
  induction names generalizing place with
  | nil =>
    cases h
    rw [List.append_nil]
  | cons name rest ih =>
    rw [locationAlong] at h
    split at h
    · cases h
    · cases h
    · split at h
      · cases h
      · rw [ih h, List.append_assoc, List.singleton_append]

section Plain

variable {names : List Bytes} (hplain : ∀ name ∈ names, Path.IsPlain name)
  (hfree : tree.IsLinkFree place names)
include hplain hfree

/-- Without links a walk goes along the names. -/
theorem walkToLink_eq_locationAlong (follows : Bool) :
    tree.walkToLink follows place names = (tree.locationAlong place names).map .inl := by
  induction names generalizing place with
  | nil => rfl
  | cons name rest ih =>
    obtain ⟨hname, hrest⟩ := List.forall_mem_cons.1 hplain
    obtain ⟨hnone, hfree⟩ := hfree
    rw [walkToLink, locationAlong]
    cases tree.get? place with
    | none => rfl
    | some here =>
      cases here with
      | file => rfl
      | directory =>
        dsimp only
        split
        · rfl
        · rw [if_neg (by simpa using hname.notSame), if_neg (by simpa using hname.notUp), hnone]
          exact ih hrest hfree

/-- Plain names without links are followed from node to node. -/
theorem walk_eq_locationAlong (follows : Bool) (left : Nat) :
    tree.walk follows (left + 1) place names = tree.locationAlong place names := by
  rw [walk, walkToLink_eq_locationAlong hplain hfree]
  cases tree.locationAlong place names <;> rfl

end Plain

end Along

/-! ## Cleaned paths -/

/-- Where names lead that are read from the root, or in the directory for relative paths. -/
def reach (tree : Tree) (rooted : Bool) (names : List Bytes) : Except Reason Location :=
  tree.walk true (linkLimit + 1) (if rooted then [] else tree.here) names

/-- What is reached is reached in a tree that keeps it. -/
theorem Keeps.reach {before after : Tree} (h : Keeps before after) {rooted : Bool}
    {names : List Bytes} {place : Location} (hplace : before.reach rooted names = .ok place) :
    after.reach rooted names = .ok place := by
  rw [Tree.reach, h.here]
  exact h.walk hplace

/-- The node of a path is the node of the place where it leads. -/
theorem stat_eq_bind (tree : Tree) (path : Bytes) :
    tree.stat path = (tree.locate path).bind tree.nodeAt := by
  rw [stat]
  cases tree.locate path <;> rfl

/-- A path that is one is located by a walk along its steps. -/
theorem locateBy_of_isPath {path : Bytes} (h : IsPath path) (tree : Tree) (follows : Bool) :
    tree.locateBy follows path
      = tree.walk follows (linkLimit + 1) (tree.startOf path) (steps path) := by
  obtain ⟨hzero, hempty, hshort⟩ := h
  unfold locateBy
  simp only [List.contains_eq_mem, decide_eq_true_eq, List.isEmpty_iff]
  rw [if_neg hzero, if_neg hempty, if_neg (Nat.not_lt.2 hshort)]
  rfl

/-- What cannot be looked for leads nowhere, for the same reason in every tree. -/
theorem exists_locateBy_eq_error {path : Bytes} (h : ¬ IsPath path) :
    ∃ reason, ∀ (tree : Tree) (follows : Bool), tree.locateBy follows path = .error reason := by
  simp only [locateBy, List.contains_eq_mem, decide_eq_true_eq, List.isEmpty_iff]
  by_cases hzero : 0 ∈ path
  · exact ⟨.invalidArgument, fun _ _ => if_pos hzero⟩
  by_cases hempty : path = []
  · exact ⟨.notFound, fun _ _ => by rw [if_neg hzero, if_pos hempty]⟩
  by_cases hlong : path.length > longestPath
  · exact ⟨.nameTooLong, fun _ _ => by rw [if_neg hzero, if_neg hempty, if_pos hlong]⟩
  · exact absurd ⟨hzero, hempty, Nat.not_lt.1 hlong⟩ h

/-- A path that is none has the same error in every tree. -/
theorem exists_stat_eq_error {path : Bytes} (h : ¬ IsPath path) :
    ∃ reason, ∀ tree : Tree, tree.stat path = .error reason := by
  obtain ⟨reason, hreason⟩ := exists_locateBy_eq_error h
  refine ⟨reason, fun tree => ?_⟩
  rw [stat_eq_bind, locate, hreason]
  rfl

/-- A cleaned path that has names is followed by its names. -/
theorem locateBy_ofNames {tree : Tree} {rooted : Bool} {names : List Bytes}
    (hnames : Path.AreNames rooted names) (hne : names ≠ [])
    (hpath : IsPath (Path.ofNames rooted names)) (follows : Bool) :
    tree.locateBy follows (Path.ofNames rooted names)
      = tree.walk follows (linkLimit + 1) (if rooted then [] else tree.here) names := by
  rw [locateBy_of_isPath hpath, startOf, Path.isRooted_ofNames hnames, steps_ofNames hnames hne]

/-- **What stands at a path** of which the first names lead to a place, and the others are plain
names without links. -/
theorem stat_ofNames_append {tree : Tree} {rooted : Bool} {names rest : List Bytes} {place : Location}
    (hnames : Path.AreNames rooted (names ++ rest)) (hrest : rest ≠ [])
    (hpath : IsPath (Path.ofNames rooted (names ++ rest)))
    (hplace : tree.reach rooted names = .ok place) (hplain : ∀ name ∈ rest, Path.IsPlain name)
    (hfree : tree.IsLinkFree place rest) :
    tree.stat (Path.ofNames rooted (names ++ rest)) = tree.nodeAlong place rest := by
  obtain ⟨left, hleft⟩ := walk_append hplace hrest
  rw [stat_eq_bind, locate,
    locateBy_ofNames hnames (List.append_ne_nil_of_right_ne_nil _ hrest) hpath, hleft,
    walk_eq_locationAlong hplain hfree]
  rfl

/-- Where further plain names without links lead to, if they lead anywhere. -/
theorem reach_append {tree : Tree} {rooted : Bool} {names rest : List Bytes} {place found : Location}
    (hplace : tree.reach rooted names = .ok place) (hplain : ∀ name ∈ rest, Path.IsPlain name)
    (hfree : tree.IsLinkFree place rest) (h : tree.reach rooted (names ++ rest) = .ok found) :
    found = place ++ rest := by
  by_cases hrest : rest = []
  · subst hrest
    rw [List.append_nil] at h ⊢
    cases hplace.symm.trans h
    rfl
  · obtain ⟨left, hleft⟩ := walk_append hplace hrest
    rw [reach, hleft, walk_eq_locationAlong hplain hfree] at h
    exact eq_of_locationAlong h

/-- A path at whose end there is nothing to be found ends in a plain name, and the names before it
lead to a directory. -/
theorem reach_of_locateName {tree : Tree} (hproper : tree.IsProper) {rooted : Bool}
    {names : List Bytes} {name : Bytes} {location : Location}
    (hnames : Path.AreNames rooted (names ++ [name]))
    (h : tree.locateName (Path.ofNames rooted (names ++ [name])) = .ok location)
    (hfree : tree.isTaken location = false) :
    ∃ place, tree.reach rooted names = .ok place ∧ tree.HasDirectory place ∧
      Path.IsPlain name ∧ name.length ≤ longestName ∧ location = place ++ [name] := by
  have hpath := (locateBy_eq_ok_iff.1 h).1
  rw [locateName, locateBy_ofNames hnames (by simp) hpath] at h
  obtain ⟨place, hplace, hdir, hshort⟩ := walk_of_concat h
  obtain ⟨left, hleft⟩ := walk_append hplace (List.cons_ne_nil name [])
  rw [hleft, walk] at h
  refine ⟨place, hplace, hdir, ?_⟩
  rcases hnames.clean.isPlain_or_eq_up (List.mem_append_right _ (List.mem_singleton_self name))
    with hplain | rfl
  · have hname : IsName name := ⟨hplain.notSame, hplain.notUp, hshort⟩
    refine ⟨hplain, hshort, ?_⟩
    cases hlink : tree.link? (place ++ [name]) with
    | none =>
      rw [walkToLink_name hdir hname hlink] at h
      cases h
      rfl
    | some target =>
      rw [walkToLink_eq_ok_iff.2 (.linkAtEnd hdir hname hlink rfl)] at h
      cases h
      cases (isTaken_eq_false_iff.1 hfree).2.symm.trans hlink
  · -- What leads upwards leads to a directory.
    rw [walkToLink_up hdir] at h
    cases h
    have hup : tree.HasDirectory place.dropLast := by
      rcases List.eq_nil_or_concat place with rfl | ⟨above, last, rfl⟩
      · exact hasDirectory_nil tree
      · rw [List.concat_eq_append, List.dropLast_concat]
        exact hproper.stands hdir above last List.concat_eq_append
    cases hup.isTaken.symm.trans hfree

/-- The same is reached in trees that are alike. -/
theorem Alike.reach {before after : Tree} (h : Alike before after) (rooted : Bool)
    (names : List Bytes) : after.reach rooted names = before.reach rooted names := by
  rw [Tree.reach, h.here, h.walk]
  rfl

end Tree

end Files

end FunctionChain
