import FunctionChain.Proofs.Build.CacheSoundness
import FunctionChain.Proofs.Build.Leftovers

/-!
# The cache is transparent

Builds that share a cache come to the same as without it (`cache_transparent`), whatever has been built
before, as long as nothing fails but the compilers and the programs themselves.

That is so on machines with any of the three caches (`Cache.Kind`), whose places are apart from the
workspaces, if the toolchain and the programs keep to the workspace and see no more than they are given
(`Machine.Obeys`): there the cache shows its contents as long as a build takes its turns
(`Machine.hostWith_showsCache`), and the steps of a build do what they should
(`Machine.requestOf_isReliable`).
-/

namespace FunctionChain

open Files (Action Tree Location ChangesOnly KeepsWays MakesWay IsWritten WorksAmong HoldsWay
  AddsDirectories)

namespace Build

/-- **The cache is transparent.** Requests are done one after another, with a cache that has nothing
under their keys at the beginning, and nothing fails. Each comes to the same as it does without a
cache, from whatever state it is done. -/
theorem cache_transparent {σ : Type} (view : View σ) (programs : Programs)
    (requests : List (Request σ)) (start : σ) (hready : view.isReady .idle start)
    (hempty : ∀ request ∈ requests, view.entry start request.key = none)
    (hreliable : ∀ request ∈ requests, request.IsReliable view programs)
    (hfits : ∀ request ∈ requests, CacheKey.Fits request.toolchain request.source)
    (hfree : CollisionFree requests) (hsucceeds : AllSucceed requests start)
    (earlier later : List (Request σ)) (request : Request σ)
    (hsplit : requests = earlier ++ request :: later) :
    let before := stateAfter earlier start
    view.isReady .idle before ∧
      (request.run before).1.workspace = (request.uncached.run before).1.workspace ∧
      ∀ other, view.isReady .idle other → request.uncached.Succeeds other →
        (request.run before).1.AgreesButForCache (request.uncached.run other).1 := by
  have hkeys := hfree.keysTell hfits
  have hmem : request ∈ requests := by simp [hsplit]
  have hearlier : ∀ request ∈ earlier, request ∈ requests := by
    intro request h
    simp [hsplit, h]
  have hstart : view.IsSound programs requests start := by
    intro request hmem artifact h
    rw [hempty request hmem] at h
    cases h
  rw [hsplit, allSucceed_append] at hsucceeds
  obtain ⟨hdone, hnow, -⟩ := hsucceeds
  obtain ⟨hbefore, hsound⟩ := stateAfter_sound hreliable hkeys hearlier hready hstart hdone
  refine ⟨hbefore, ?_, ?_⟩
  · rw [request.run_eq, request.uncached.run_eq]
    dsimp only
    rw [conclude_workspace, conclude_workspace, workOf_workspace, workOf_workspace]
    rfl
  · intro other hother hplainSucceeds
    obtain ⟨hcached, -⟩ :=
      workOf_settles (hreliable request hmem) hkeys (fun _ => hmem) hbefore hsound hnow
    -- Without a cache there is nothing to be sound about.
    obtain ⟨hplain, -⟩ := @workOf_settles _ view programs request.uncached []
      (hreliable request hmem).uncached other nofun nofun hother nofun hplainSucceeds
    rw [request.run_eq, request.uncached.run_eq]
    exact conclude_agrees rfl request.source
      (workOf_course request.host request.toolchain request.keeps request.jobId request.source _)
      (workOf_course request.uncached.host request.toolchain request.keeps request.jobId
        request.source other)
      (hcached.unique hplain rfl rfl rfl)

/-! ## Kinds of caches -/

section

variable [DatabaseLibrary]

/-- A kind of caches with places of their own in the tree, whose contents can be seen: files elsewhere
have nothing to do with them, what is found is what is there, and what is stored is there, and nothing
else is new. -/
structure Cache.Kind where
  isOne : Cache → Prop
  /-- The locations at which such caches work. -/
  isPlace : Location → Prop
  /-- The way to these is there. -/
  stands : Tree → Prop
  contents : Cache → Tree → Bytes → Option Bytes
  kept : ∀ {cache : Cache} {tree after : Tree}, stands tree →
    (∀ location, isPlace location → after.content? location = tree.content? location) →
    contents cache after = contents cache tree
  remains : ∀ {tree after : Tree}, stands tree → KeepsWays tree after →
    (∀ location, isPlace location → after.link? location = tree.link? location) → stands after
  found : ∀ {cache : Cache} {key : Bytes} {found : Option Bytes} {tree after : Tree},
    isOne cache → stands tree → tree.IsProper → IsKey key →
    (cache.lookup key).on tree = (.ok found, after) → found = contents cache tree key
  works : ∀ {cache : Cache} {key artifact : Bytes} {tree after : Tree} {result : Except Error Cache},
    isOne cache → stands tree → tree.IsProper → IsKey key →
    (cache.store key artifact).on tree = (result, after) →
    WorksAmong isPlace tree after ∧ after.IsProper
  stored : ∀ {cache changed : Cache} {key artifact : Bytes} {tree after : Tree},
    isOne cache → stands tree → tree.IsProper → IsKey key →
    (cache.store key artifact).on tree = (.ok changed, after) →
    isOne changed ∧ contents changed after
      = Function.update (contents cache tree) key (some artifact)
  unstored : ∀ {cache : Cache} {key artifact : Bytes} {tree after : Tree} {error : Error},
    isOne cache → stands tree → tree.IsProper → IsKey key →
    (cache.store key artifact).on tree = (.error error, after) →
    contents cache after = contents cache tree

namespace Cache.Kind

/-- Caches that hold their artifacts show what they hold, if they work at their places. -/
def ofHeld {isOne : Cache → Prop} {contents : Cache → Bytes → Option Bytes}
    (hheld : IsHeld isOne contents) (isPlace : Location → Prop) (stands : Tree → Prop)
    (hremains : ∀ {tree after : Tree}, stands tree → KeepsWays tree after →
      (∀ location, isPlace location → after.link? location = tree.link? location) → stands after)
    (hworks : ∀ {cache : Cache} {key artifact : Bytes} {tree after : Tree}
      {result : Except Error Cache}, isOne cache → stands tree → tree.IsProper → IsKey key →
      (cache.store key artifact).on tree = (result, after) →
      WorksAmong isPlace tree after ∧ after.IsProper) : Kind where
  isOne := isOne
  isPlace := isPlace
  stands := stands
  contents cache _ := contents cache
  kept _ _ := rfl
  remains := hremains
  found hone _ _ _ h := hheld.lookup hone h
  works := hworks
  stored hone _ _ _ h := hheld.store hone h
  unstored _ _ _ _ _ := rfl

/-- Caches in memory. They have no places. -/
def memory : Kind :=
  ofHeld isMemory_isHeld (fun _ => False) (fun _ => True) (fun _ _ _ => trivial) (by
    rintro (entries | _ | _) key artifact tree after result hone - hproper - h
    · rw [store_memory] at h
      cases h
      exact ⟨(Tree.Alike.refl tree).worksAmong, hproper⟩
    · exact hone.elim
    · exact hone.elim)

section Placed

variable {isPlace : Location → Prop} {rooted : Bool} {front more : List Bytes} {root : Location}

/-- Databases stay where they are. -/
theorem isMap_at {isOpen : DatabaseLibrary.Database → Prop}
    {contents : DatabaseLibrary.Database → Bytes → Option Bytes}
    (hmap : DatabaseLibrary.IsMap artifactsBucket isOpen contents)
    (hfile : DatabaseLibrary.KeepsToFile) (path : Bytes) :
    DatabaseLibrary.IsMap artifactsBucket
      (fun opened => isOpen opened ∧ DatabaseLibrary.path opened = path) contents where
  get hopen := hmap.get hopen.1
  put hopen hput := by
    obtain ⟨hchanged, hcontents⟩ := hmap.put hopen.1 hput
    exact ⟨⟨hchanged, ((hfile hput).2 _ rfl).trans hopen.2⟩, hcontents⟩
  failed hopen := hmap.failed hopen.1

/-- Caches in the database of a file, to which the names lead, by a library that keeps to its files
and whose databases are maps. -/
def database {isOpen : DatabaseLibrary.Database → Prop}
    {contents : DatabaseLibrary.Database → Bytes → Option Bytes}
    (hmap : DatabaseLibrary.IsMap artifactsBucket isOpen contents)
    (hfile : DatabaseLibrary.KeepsToFile) (isPlace : Location → Prop) (rooted : Bool)
    (front more : List Bytes) (root : Location) : Kind :=
  ofHeld (isRecord_isHeld (isMap_at hmap hfile (Path.ofNames rooted (front ++ more)))) isPlace
    (HoldsWay isPlace rooted front more root) (fun hway hways hlinks => hway.remains hways hlinks) (by
    rintro (_ | _ | opened) key artifact tree after result hone hway hproper hkey h
    · exact hone.elim
    · exact hone.elim
    · obtain ⟨hworks, hafter, -⟩ := Cache.store_worksAmong hfile
        (fun path hpath => by
          cases hpath
          exact ⟨rooted, front, more, root, And.right hone, hway⟩) hproper hkey h
      exact ⟨hworks, hafter⟩)

/-- The location of the file of a key. -/
def entryLocation (root : Location) (more : List Bytes) (key : Bytes) : Location :=
  root ++ (more ++ [key.take 2, key ++ bytes ".bin"])

omit [DatabaseLibrary] in
/-- No two keys have the place of one entry. -/
theorem entryLocation_inj {key other : Bytes} (h : entryLocation root more key
    = entryLocation root more other) : key = other := by
  have hnames := List.append_cancel_left (List.append_cancel_left h)
  injection hnames with _ hnames
  injection hnames with hnames
  exact List.append_cancel_right hnames

omit [DatabaseLibrary] in
/-- The names along the path of a key. -/
theorem entryPath_names (hnames : Path.AreNames rooted (front ++ more)) {key : Bytes}
    (hkey : IsKey key) :
    entryPath (Path.ofNames rooted (front ++ more)) key
        = Path.ofNames rooted (front ++ (more ++ [key.take 2, key ++ bytes ".bin"])) ∧
      Path.AreNames rooted (front ++ (more ++ [key.take 2, key ++ bytes ".bin"])) ∧
      ∀ name ∈ [key.take 2, key ++ bytes ".bin"], Path.IsPlain name := by
  obtain ⟨hsub, hsubSlash⟩ := hkey.isPlain_take
  obtain ⟨hfile, hfileSlash⟩ := isPlain_entryName _ ⟨key, hkey, rfl⟩
  refine ⟨?_, ?_, by simpa using And.intro hsub hfile⟩
  · rw [entryPath_eq _ hkey, Path.isRooted_ofNames hnames, Path.cleaned_ofNames hnames,
      List.append_assoc]
  · simpa using (hnames.concat hsub hsubSlash).concat hfile hfileSlash

section Way

variable {tree after : Tree} (hway : HoldsWay isPlace rooted front more root tree)
include hway

omit [DatabaseLibrary] in
/-- The path of a key leads to its location. -/
theorem eq_entryLocation {key : Bytes} (hkey : IsKey key) {follows : Bool} {location : Location}
    (h : tree.locateBy follows (entryPath (Path.ofNames rooted (front ++ more)) key)
      = .ok location) : location = entryLocation root more key := by
  obtain ⟨hpath, hnames, hplain⟩ := entryPath_names hway.names hkey
  rw [hpath] at h
  exact hway.eq_of_locateBy hplain (by simp) hnames h

omit [DatabaseLibrary] in
/-- The place of an entry is one of the cache. -/
theorem isPlace_entryLocation (key : Bytes) : isPlace (entryLocation root more key) :=
  (hway.begun (by simp) (List.prefix_refl (more ++ [key.take 2, key ++ bytes ".bin"]))).1

/-- What is found in a cache directory is what stands at the location of the key. -/
theorem found_directory (hproper : tree.IsProper) {key : Bytes} (hkey : IsKey key)
    {found : Option Bytes}
    (h : ((Cache.directory (Path.ofNames rooted (front ++ more))).lookup key).on tree
      = (.ok found, after)) : found = tree.content? (entryLocation root more key) := by
  obtain ⟨hpath, hnames, hplain⟩ := entryPath_names hway.names hkey
  rcases lookup_ok h with ⟨hstat, rfl⟩ | ⟨mode, content, hstat, rfl⟩
  · rw [hpath] at hstat
    exact (hway.content?_of_notFound hproper hplain (by simp) hnames hstat).symm
  · obtain ⟨location, hlocation, hnode⟩ := Files.stat_eq_ok_iff.1 hstat
    obtain rfl := eq_entryLocation hway hkey hlocation
    exact (Tree.content?_of_file hnode).symm

/-- What stands at the locations of the keys after an artifact has been stored in a cache
directory. -/
theorem stored_directory {key artifact : Bytes} (hkey : IsKey key)
    {result : Except Error Cache}
    (h : ((Cache.directory (Path.ofNames rooted (front ++ more))).store key artifact).on tree
      = (result, after)) (location : Location) :
    after.content? location = if result.isOk ∧ location = entryLocation root more key
      then some artifact else tree.content? location := by
  obtain ⟨middle, hadds, ⟨⟨error, rfl⟩, hlike⟩ | ⟨rfl, written, hlocation, hwritten⟩⟩ :=
    store_changes h
  · rw [if_neg (by simp [Except.isOk, Except.toBool]), ← hadds.content?]
    exact Tree.content?_congr (hlike.nodes location)
  · obtain rfl := eq_entryLocation (hway.remains hadds.keepsWays fun _ _ => hadds.links _) hkey
      hlocation
    by_cases heq : location = entryLocation root more key
    · rw [if_pos ⟨rfl, heq⟩, heq]
      exact Tree.content?_of_file hwritten.get
    · rw [if_neg fun h => heq h.2, hwritten.content? heq, hadds.content?]

end Way

/-- Caches in a directory to which the names lead, with the files of the keys. -/
def directory (isPlace : Location → Prop) (rooted : Bool) (front more : List Bytes)
    (root : Location) : Kind where
  isOne := (· = .directory (Path.ofNames rooted (front ++ more)))
  isPlace := isPlace
  stands := HoldsWay isPlace rooted front more root
  contents _ tree key := if IsKey key then tree.content? (entryLocation root more key) else none
  kept hway hkept := by
    funext key
    rw [hkept _ (isPlace_entryLocation hway key)]
  remains hway hways hlinks := hway.remains hways hlinks
  found hone hway hproper hkey h := by
    subst hone
    rw [if_pos hkey]
    exact found_directory hway hproper hkey h
  works hone hway hproper hkey h := by
    subst hone
    obtain ⟨hworks, hafter, -⟩ :=
      store_directory_worksAmong ⟨rooted, front, more, root, rfl, hway⟩ hproper hkey h
    exact ⟨hworks, hafter⟩
  stored {cache changed key artifact tree after} hone hway hproper hkey h := by
    subst hone
    obtain ⟨-, -, hchanged⟩ :=
      store_directory_worksAmong ⟨rooted, front, more, root, rfl, hway⟩ hproper hkey h
    refine ⟨hchanged changed rfl, funext fun other => ?_⟩
    have hcontent := stored_directory hway hkey h (entryLocation root more other)
    rw [Function.update_apply, hcontent]
    by_cases heq : other = key
    · subst heq
      rw [if_pos hkey, if_pos ⟨rfl, rfl⟩, if_pos rfl]
    · rw [if_neg heq, if_neg fun (hsame : _ ∧ _) => heq (entryLocation_inj hsame.2)]
  unstored {cache key artifact tree after error} hone hway hproper hkey h := by
    subst hone
    funext other
    have hcontent := stored_directory hway hkey h (entryLocation root more other)
    rw [if_neg (by simp [Except.isOk, Except.toBool])] at hcontent
    rw [hcontent]

end Placed

end Cache.Kind

/-! ## Machines -/

namespace Machine

section Home

variable (kind : Cache.Kind) (temporary root : Bytes) (site : Location)

/-- What the cache of the machine shows. -/
def shown (machine : Machine) (key : Bytes) : Option Bytes :=
  machine.cache.bind fun cache => kind.contents cache machine.tree key

/-- The directory for workspaces is there, and so is the way to the cache. -/
structure IsHome (tree : Tree) : Prop where
  proper : tree.IsProper
  stands : kind.stands tree
  reach : tree.reach true (rootNames temporary root tree) = .ok site
  directory : tree.HasDirectory site

/-- The content of a file in a workspace that no link leads to. -/
def fileIn (tree : Tree) (workspace : Workspace) (name : Bytes) : Option Bytes :=
  (tree.locateName workspace.path).toOption.bind fun place =>
    if tree.link? place = none ∧ tree.link? (place ++ [name]) = none then
      tree.content? (place ++ [name])
    else none

/-- The machine has a workspace at a place that is not one of the cache. -/
structure IsPlaced (workspace : Workspace) (base : Tree) (place : Location) (machine : Machine) :
    Prop where
  home : IsHome kind temporary root site base
  placed : IsPlaceFor (rootNames temporary root base) workspace base place
  apart : ∀ location, place <+: location → ¬ kind.isPlace location
  within : IsWithin (fun machine => machine.Has kind.isOne ∧ machine.tree.IsProper) kind.isPlace
    base place machine

/-- Nothing but the build itself has worked in the workspace. -/
structure IsFresh (place : Location) (machine : Machine) : Prop extends IsReady place machine where
  noDirectory : ¬ machine.tree.HasDirectory (place ++ [Workspace.artifactName])

/-- The machine is ready for a build that has come to a phase. -/
def IsAt : Phase → Machine → Prop
  | .idle, machine | .gone, machine =>
    machine.Has kind.isOne ∧ IsHome kind temporary root site machine.tree
  | .fresh workspace, machine => ∃ base place,
    IsPlaced kind temporary root site workspace base place machine ∧ IsFresh place machine
  | .used workspace, machine => ∃ base place,
    IsPlaced kind temporary root site workspace base place machine

end Home

/-- What is done to a machine changes only what is at a place, and not the cache. -/
structure StaysIn (place : Location) (before after : Machine) : Prop where
  cache : after.cache = before.cache
  proper : after.tree.IsProper
  only : ChangesOnly (place <+: ·) before.tree after.tree

section Steps

variable {kind : Cache.Kind} {temporary root : Bytes} {site : Location} {workspace : Workspace}
  {base : Tree} {place : Location} {machine after : Machine}

omit [DatabaseLibrary] in
/-- Where workspaces are made depends on the current directory only. -/
theorem rootNames_congr {before after : Tree} (h : after.here = before.here) :
    rootNames temporary root after = rootNames temporary root before := by
  rw [rootNames, rootNames, Tree.herePath, Tree.herePath, h]

/-- Steps that keep the cache as it is, and the files at its places, keep what it shows. -/
theorem shown_congr (hstands : kind.stands machine.tree)
    (hcache : after.cache = machine.cache)
    (hcontent : ∀ location, kind.isPlace location →
      after.tree.content? location = machine.tree.content? location) :
    shown kind after = shown kind machine := by
  funext key
  rw [shown, shown, hcache]
  cases machine.cache with
  | none => rfl
  | some cache => exact congrFun (kind.kept hstands hcontent) key

/-- A home stays one after work that keeps its ways and the links of the cache. -/
theorem IsHome.moved {before after : Tree} (h : IsHome kind temporary root site before)
    (hproper : after.IsProper) (hways : KeepsWays before after)
    (hlinks : ∀ location, kind.isPlace location → after.link? location = before.link? location) :
    IsHome kind temporary root site after where
  proper := hproper
  stands := kind.remains h.stands hways hlinks
  reach := by
    rw [rootNames_congr hways.here]
    exact hways.reach h.reach h.directory
  directory := hways.directories site h.directory

namespace IsPlaced

variable (h : IsPlaced kind temporary root site workspace base place machine)
include h

/-- The machine has the cache. -/
theorem has : machine.Has kind.isOne := h.within.fit.1

/-- Its tree is proper. -/
theorem proper : machine.tree.IsProper := h.within.fit.2

/-- A file in the workspace is what the place of the workspace has under its name. -/
theorem fileIn_eq (name : Bytes) :
    fileIn machine.tree workspace name
      = if machine.tree.link? place = none ∧ machine.tree.link? (place ++ [name]) = none then
          machine.tree.content? (place ++ [name]) else none := by
  rw [fileIn, h.within.locateName h.placed]
  rfl

/-- There is a file in the workspace just if no link leads away from it. -/
theorem fileIn_eq_some_iff {name content : Bytes} :
    fileIn machine.tree workspace name = some content ↔
      machine.tree.link? place = none ∧ machine.tree.link? (place ++ [name]) = none ∧
        machine.tree.content? (place ++ [name]) = some content := by
  rw [h.fileIn_eq, ← and_assoc]
  split
  · next hlinks => exact ⟨fun hcontent => ⟨hlinks, hcontent⟩, fun both => both.2⟩
  · next hlinks => exact ⟨nofun, fun both => (hlinks both.1).elim⟩

/-- The machine is a home after the workspace has been used too. -/
theorem home_after : IsHome kind temporary root site machine.tree :=
  h.home.moved h.proper (h.within.ways h.placed) fun location hone =>
    h.within.links location fun hbelow => h.apart location hbelow hone

/-- A step in the workspace. -/
theorem stays (hstays : StaysIn place machine after) :
    IsPlaced kind temporary root site workspace base place after ∧
      shown kind after = shown kind machine := by
  obtain ⟨cache, hcache, hone⟩ := h.has
  refine ⟨⟨h.home, h.placed, h.apart, h.within.inside h.placed
    ⟨⟨cache, hstays.cache.trans hcache, hone⟩, hstays.proper⟩ hstays.only⟩, ?_⟩
  exact shown_congr h.home_after.stands hstays.cache fun location hone =>
    hstays.only.content? fun hbelow => h.apart location hbelow hone

/-- A step that writes a file into the workspace. -/
theorem staysIn_of_written {name : Bytes} {node : Files.Node} (hcache : after.cache = machine.cache)
    (hdir : ¬ machine.tree.HasDirectory (place ++ [name]))
    (hplace : machine.tree.HasDirectory place)
    (hwritten : IsWritten machine.tree (place ++ [name]) node after.tree) :
    StaysIn place machine after where
  cache := hcache
  proper := hwritten.proper h.proper hdir (hplace.stands name)
  only := hwritten.changesOnly.mono fun _ heq => heq ▸ List.prefix_append place [name]

/-- A step that works in the cache. -/
theorem works (hhas : after.Has kind.isOne) (hproper : after.tree.IsProper)
    (hworks : WorksAmong kind.isPlace machine.tree after.tree) :
    IsPlaced kind temporary root site workspace base place after where
  home := h.home
  placed := h.placed
  apart := h.apart
  within :=
    { fit := ⟨hhas, hproper⟩
      changes := h.within.changes.trans (hworks.only.mono fun _ => .inr)
      directories := fun location hdir => hworks.directories location
        (h.within.directories location hdir)
      links := fun location hnot => (hworks.links location).trans (h.within.links location hnot) }

/-- The workspace is taken away. -/
theorem removed :
    (machine.attempt workspace.remove).1 = none ∧
      (machine.attempt workspace.remove).2.Has kind.isOne ∧
      IsHome kind temporary root site (machine.attempt workspace.remove).2.tree ∧
      shown kind (machine.attempt workspace.remove).2 = shown kind machine := by
  have hlocate := h.within.locateName h.placed
  have hgone : machine.attempt workspace.remove
      = (none, ⟨machine.tree.eraseAll place, machine.cache⟩) := by
    unfold attempt act
    rw [Workspace.remove_on hlocate]
  have hne : place ≠ [] := Tree.ne_nil_of_not_taken h.placed.free
  have hchanges : ChangesOnly (place <+: ·) machine.tree (machine.tree.eraseAll place) := by
    refine ⟨rfl, fun location hnot => ?_, fun location hnot => ?_⟩
    · rw [Tree.get?_eraseAll hne, if_neg hnot]
    · rw [Tree.link?_eraseAll, if_neg hnot]
  have hapart (location : Location) (hone : kind.isPlace location) : ¬ place <+: location :=
    fun hbelow => h.apart location hbelow hone
  rw [hgone]
  refine ⟨rfl, h.has, ?_, ?_⟩
  · refine h.home.moved (h.proper.eraseAll hne) ?_ fun location hone => ?_
    · exact (h.within.ways h.placed).changes hchanges fun location => h.placed.not_taken
    · exact (hchanges.links location (hapart location hone)).trans
        (h.within.links location (hapart location hone))
  · exact shown_congr h.home_after.stands rfl fun location hone =>
      hchanges.content? (hapart location hone)

end IsPlaced

namespace IsFresh

variable (h : IsPlaced kind temporary root site workspace base place machine)
  (hfresh : IsFresh place machine)
include h hfresh

/-- A file that is written into the workspace. -/
theorem written {name : Bytes} {bits : Nat} {content : Bytes}
    (hcache : after.cache = machine.cache)
    (hdir : ¬ machine.tree.HasDirectory (place ++ [name]))
    (hwritten : IsWritten machine.tree (place ++ [name]) (.file bits content) after.tree) :
    IsPlaced kind temporary root site workspace base place after ∧ IsFresh place after ∧
      shown kind after = shown kind machine ∧ fileIn after.tree workspace name = some content := by
  obtain ⟨hplaced, hshown⟩ :=
    h.stays (h.staysIn_of_written hcache hdir hfresh.directory hwritten)
  have hunlinked : after.tree.link? place = none := by
    rw [hwritten.links, if_neg (by simp), hfresh.unlinked]
  refine ⟨hplaced, ⟨⟨?_, hunlinked, ?_⟩, ?_⟩, hshown, hplaced.fileIn_eq_some_iff.2
    ⟨hunlinked, hwritten.link, Tree.content?_of_file hwritten.get⟩⟩
  · exact hwritten.directories hfresh.directory (by simp)
  · rw [hwritten.links]
    split
    · rfl
    · exact hfresh.noLink
  · rintro ⟨mode, hmode⟩
    rw [hwritten.nodes] at hmode
    split at hmode
    · cases hmode
    · exact hfresh.noDirectory ⟨mode, hmode⟩

/-- The source is written, or nothing is new. -/
theorem writeSource {source : Bytes} {failure : Option Error}
    (hattempt : machine.attempt (workspace.writeSource source) = (failure, after)) :
    IsPlaced kind temporary root site workspace base place after ∧ IsFresh place after ∧
      shown kind after = shown kind machine ∧
      (failure = none → fileIn after.tree workspace Workspace.sourceName = some source) := by
  cases failure with
  | none =>
    obtain ⟨hcache, hdone⟩ := attempt_eq_none hattempt
    obtain ⟨-, location, hlocation, hdir, hwritten⟩ := Files.replaceFile_ok hdone
    obtain rfl := h.within.eq_of_locateBy h.placed hfresh.toIsReady false
      Workspace.isPlain_sourceName (by decide) (by decide) nofun hlocation
    obtain ⟨hplaced, hfresh, hshown, hfile⟩ := hfresh.written h hcache hdir hwritten
    exact ⟨hplaced, hfresh, hshown, fun _ => hfile⟩
  | some error =>
    obtain ⟨hcache, hfailed⟩ := attempt_eq_some hattempt
    have hlike := Files.replaceFile_error hfailed
    obtain ⟨hplaced, hshown⟩ :=
      h.stays ⟨hcache, hlike.proper h.proper, hlike.changesOnly⟩
    refine ⟨hplaced, ⟨⟨?_, ?_, ?_⟩, ?_⟩, hshown, nofun⟩
    · exact hlike.hasDirectory_iff.2 hfresh.directory
    · exact (hlike.links _).trans hfresh.unlinked
    · exact (hlike.links _).trans hfresh.noLink
    · exact fun hdir => hfresh.noDirectory (hlike.hasDirectory_iff.1 hdir)

/-- The artifact is brought, or nothing is new. -/
theorem restoreArtifact {artifact : Bytes} {failure : Option Error}
    (hattempt : machine.attempt (Files.writeFile workspace.artifactPath artifact 0o755)
      = (failure, after)) :
    IsPlaced kind temporary root site workspace base place after ∧ IsFresh place after ∧
      shown kind after = shown kind machine ∧
      (failure = none → fileIn after.tree workspace Workspace.artifactName = some artifact) := by
  cases failure with
  | none =>
    obtain ⟨hcache, hdone⟩ := attempt_eq_none hattempt
    obtain ⟨⟨_, hfailed⟩, -⟩ | ⟨-, location, bits, hlocation, hdir, hwritten⟩ :=
      Files.writeFile_cases hdone
    · cases hfailed
    · obtain rfl := h.within.eq_of_locateBy h.placed hfresh.toIsReady true
        Workspace.isPlain_artifactName (by decide) (by decide) (fun _ => hfresh.noLink) hlocation
      obtain ⟨hplaced, hfresh, hshown, hfile⟩ := hfresh.written h hcache hdir hwritten
      exact ⟨hplaced, hfresh, hshown, fun _ => hfile⟩
  | some error =>
    obtain ⟨hcache, hfailed⟩ := attempt_eq_some hattempt
    obtain ⟨-, htree⟩ | ⟨hok, -⟩ := Files.writeFile_cases hfailed
    · have hsame : after = machine := by
        obtain ⟨tree, cache⟩ := after
        obtain ⟨tree', cache'⟩ := machine
        cases htree
        cases hcache
        rfl
      subst hsame
      exact ⟨h, hfresh, rfl, nofun⟩
    · cases hok

end IsFresh

/-- In the phases of a workspace the machine has it. -/
theorem IsAt.exists_isPlaced {phase : Phase} (hphase : phase.IsIn workspace)
    (h : IsAt kind temporary root site phase machine) :
    ∃ base place, IsPlaced kind temporary root site workspace base place machine := by
  rcases hphase with rfl | rfl
  · obtain ⟨base, place, hplaced, -⟩ := h
    exact ⟨base, place, hplaced⟩
  · exact h

/-- A workspace is made in a fresh place that is not one of the cache, or the machine stays at home. -/
theorem created (jobId : Bytes)
    (hapart : ∀ name more, bytes "job-" <+: name → ¬ kind.isPlace (site ++ name :: more))
    (hhas : machine.Has kind.isOne) (h : IsHome kind temporary root site machine.tree) :
    let (made, after) := machine.act (Workspace.create temporary root jobId)
    IsAt kind temporary root site (Phase.idle.next (.created jobId made)) after ∧
      shown kind after = shown kind machine := by
  rcases hmake : machine.act (Workspace.create temporary root jobId) with ⟨made, after⟩
  obtain ⟨hcache, hcreate⟩ := act_eq hmake
  have hhas : after.Has kind.isOne := by
    obtain ⟨cache, hsome, hone⟩ := hhas
    exact ⟨cache, hcache.trans hsome, hone⟩
  rcases create_cases h.proper hcreate with
    ⟨⟨error, rfl⟩, hway⟩ | ⟨workspace, base, place, rfl, hway, hplaced, hwritten⟩
  · exact ⟨⟨hhas, h.moved (hway.proper h.proper) hway.adds.keepsWays fun location _ =>
        hway.adds.links location⟩,
      shown_congr h.stands hcache fun location _ => hway.adds.content? location⟩
  · have hbase : IsHome kind temporary root site base := h.moved (hway.proper h.proper)
      hway.adds.keepsWays fun location _ => hway.adds.links location
    rw [← rootNames_congr hway.adds.here] at hplaced
    -- The place is a marked name below the site, so the cache has nothing there.
    have hbelow : ∀ location, place <+: location → ¬ kind.isPlace location := by
      rintro _ ⟨more, rfl⟩
      obtain ⟨above, name, heq, hreach, -⟩ := hplaced.child
      obtain ⟨other, marked, heq', hmark⟩ := hplaced.marked
      obtain ⟨rfl, hname⟩ := List.append_inj' (heq.symm.trans heq') rfl
      cases hname
      cases hbase.reach.symm.trans hreach
      rw [heq, List.append_assoc]
      exact hapart name more hmark
    refine ⟨⟨base, place, ⟨hbase, hplaced, hbelow,
      hplaced.within ⟨hhas, hplaced.proper_written hwritten⟩ hwritten⟩, ?_⟩, ?_⟩
    · have hnot : place ++ [Workspace.artifactName] ≠ place := by simp
      have hfree := hplaced.not_taken (List.prefix_append place [Workspace.artifactName])
      obtain ⟨hnode, hlink⟩ := Tree.isTaken_eq_false_iff.1 hfree
      refine ⟨⟨⟨_, hwritten.get⟩, hwritten.link, ?_⟩, ?_⟩
      · rw [hwritten.links, if_neg hnot, hlink]
      · rintro ⟨mode, hmode⟩
        rw [hwritten.nodes, if_neg hnot, hnode] at hmode
        cases hmode
    · refine shown_congr h.stands hcache fun location hone => ?_
      have hne : location ≠ place := fun heq => hbelow location (heq ▸ List.prefix_refl _) hone
      rw [hwritten.content? hne, hway.adds.content?]

/-- Reading leaves the machine as it is. -/
theorem act_contents (machine : Machine) (path : Bytes) :
    (machine.act (Files.contents path)).2 = machine :=
  congrArg (Machine.mk · machine.cache) ((Files.contents_looksAt path).keeps machine.tree).symm

/-- A lookup leaves the machine as it is, and finds what the cache shows. -/
theorem lookedUp (h : IsPlaced kind temporary root site workspace base place machine) {key : Bytes}
    (hkey : IsKey key) :
    (cacheAccess.lookup key machine).2 = machine ∧
      ∀ found, (cacheAccess.lookup key machine).1 = .ok found → found = shown kind machine key := by
  obtain ⟨cache, hcache, hone⟩ := h.has
  obtain ⟨tree, _⟩ := machine
  cases hcache
  have hsame : (cacheAccess.lookup key ⟨tree, some cache⟩).2 = ⟨tree, some cache⟩ :=
    congrArg (Machine.mk · (some cache)) (cache.lookup_tree key)
  exact ⟨hsame, fun found hfound =>
    kind.found hone h.home_after.stands h.proper hkey (Prod.ext hfound rfl)⟩

/-- The artifact that is read is the one in the workspace, and nothing is new. -/
theorem IsPlaced.readArtifact
    (h : IsPlaced kind temporary root site workspace base place machine) {artifact found : Bytes}
    (hartifact : fileIn machine.tree workspace Workspace.artifactName = some artifact)
    (hread : machine.act (Files.contents workspace.artifactPath) = (.ok found, after)) :
    after = machine ∧ found = artifact := by
  have hsame := act_contents machine workspace.artifactPath
  rw [hread] at hsame
  obtain rfl : after = machine := hsame
  obtain ⟨-, mode, hstat⟩ := Files.contents_ok (act_eq hread).2
  obtain ⟨hunlinked, hnoLink, hcontent⟩ := h.fileIn_eq_some_iff.1 hartifact
  obtain ⟨location, hlocation, hnode⟩ := Files.stat_eq_ok_iff.1 hstat
  -- The file is there, so the way to it is, and the path leads nowhere else.
  have hready : IsReady place after := by
    obtain ⟨bits, hfile⟩ := Tree.content?_eq_some_iff.1 hcontent
    refine ⟨h.proper _ Workspace.artifactName ?_, hunlinked, hnoLink⟩
    rw [Tree.isTaken, hfile]
    rfl
  obtain rfl := h.within.eq_of_locateBy h.placed hready true
    Workspace.isPlain_artifactName (by decide) (by decide) (fun _ => hnoLink) hlocation
  exact ⟨rfl, Option.some.inj ((Tree.content?_of_file hnode).symm.trans hcontent)⟩

/-- What is stored is shown, and nothing else is new. -/
theorem stored (h : IsPlaced kind temporary root site workspace base place machine)
    {key artifact : Bytes} (hkey : IsKey key) {failure : Option Error}
    (hstore : cacheAccess.store key artifact machine = (failure, after)) :
    IsPlaced kind temporary root site workspace base place after ∧
      WorksAmong kind.isPlace machine.tree after.tree ∧
      shown kind after = (Moment.stored key artifact failure).contents (shown kind machine) := by
  obtain ⟨cache, hcache, hone⟩ := h.has
  obtain ⟨tree, _⟩ := machine
  cases hcache
  have hstands := h.home_after.stands
  unfold cacheAccess at hstore
  dsimp only at hstore
  rcases hact : act ⟨tree, some cache⟩ (cache.store key artifact) with ⟨result, later⟩
  rw [hact] at hstore
  obtain ⟨hsame, hput⟩ := act_eq hact
  obtain ⟨hworks, hproper⟩ := kind.works hone hstands h.proper hkey hput
  cases result with
  | ok changed =>
    cases hstore
    obtain ⟨hchanged, hcontents⟩ := kind.stored hone hstands h.proper hkey hput
    exact ⟨h.works ⟨changed, rfl, hchanged⟩ hproper hworks, hworks, hcontents⟩
  | error error =>
    cases hstore
    refine ⟨h.works ⟨cache, hsame, hone⟩ hproper hworks, hworks, ?_⟩
    funext other
    rw [shown, hsame]
    exact congrFun (kind.unstored hone hstands h.proper hkey hput) other

end Steps

section Host

variable {kind : Cache.Kind} {settings : Settings} {temporary : Bytes} {site : Location}
  {environment : List Bytes} {isCancelled : Bool} {key : Bytes}
  {compile : Toolchain → Workspace → Machine → Ended × Machine}
  {execute : Workspace → Machine → Ended × Machine}

/-- **Shown caches.** Workspaces are made where the cache has no place, and the toolchain and the
program keep to them: then a cache of any kind shows its contents as long as a build takes its
turns. -/
theorem hostWith_showsCache (hkey : IsKey key)
    (hapart : ∀ name more, bytes "job-" <+: name → ¬ kind.isPlace (site ++ name :: more))
    (hlaunch : ∀ workspace base place machine,
      IsPlaced kind temporary settings.workspaceRoot site workspace base place machine →
        StaysIn place machine (compile settings.toolchain workspace machine).2 ∧
        StaysIn place machine (execute workspace machine).2) :
    (hostWith settings temporary environment true isCancelled compile execute).ShowsCache
      settings.toolchain key (IsAt kind temporary settings.workspaceRoot site) (shown kind) := by
  intro phase machine ask hat hturn
  cases ask with
  | createWorkspace jobId =>
    cases hturn
    exact created jobId hapart hat.1 hat.2
  | writeSource workspace source =>
    cases hturn
    obtain ⟨base, place, hplaced, hfresh⟩ := hat
    obtain ⟨hplaced, hfresh, hshown, -⟩ := hfresh.writeSource hplaced rfl
    exact ⟨⟨base, place, hplaced, hfresh⟩, hshown⟩
  | lookup other =>
    obtain ⟨-, rfl, workspace, rfl⟩ := hturn
    obtain ⟨base, place, hplaced, hfresh⟩ := hat
    obtain ⟨hsame, -⟩ := lookedUp hplaced hkey
    have hafter : IsAt kind temporary settings.workspaceRoot site (.fresh workspace)
          (cacheAccess.lookup other machine).2 ∧
        shown kind (cacheAccess.lookup other machine).2 = shown kind machine := by
      rw [hsame]
      exact ⟨⟨base, place, hplaced, hfresh⟩, rfl⟩
    exact hafter
  | restoreArtifact workspace artifact =>
    cases hturn
    obtain ⟨base, place, hplaced, hfresh⟩ := hat
    obtain ⟨hplaced, hfresh, hshown, -⟩ := hfresh.restoreArtifact hplaced rfl
    exact ⟨⟨base, place, hplaced, hfresh⟩, hshown⟩
  | compile toolchain workspace =>
    obtain ⟨rfl, rfl⟩ := hturn
    obtain ⟨base, place, hplaced, -⟩ := hat
    obtain ⟨hplaced', hshown⟩ := hplaced.stays (hlaunch _ _ _ _ hplaced).1
    exact ⟨⟨base, place, hplaced'⟩, hshown⟩
  | readArtifact workspace =>
    cases hturn
    have hafter : IsAt kind temporary settings.workspaceRoot site (.used workspace)
          (machine.act (Files.contents workspace.artifactPath)).2 ∧
        shown kind (machine.act (Files.contents workspace.artifactPath)).2 = shown kind machine := by
      rw [act_contents]
      exact ⟨hat, rfl⟩
    exact hafter
  | store other artifact =>
    obtain ⟨-, rfl, workspace, rfl⟩ := hturn
    obtain ⟨base, place, hplaced⟩ := hat
    obtain ⟨hplaced, -, hshown⟩ := stored hplaced hkey rfl
    exact ⟨⟨base, place, hplaced⟩, hshown⟩
  | execute workspace =>
    obtain ⟨base, place, hplaced⟩ := hat.exists_isPlaced hturn
    obtain ⟨hplaced', hshown⟩ := hplaced.stays (hlaunch _ _ _ _ hplaced).2
    exact ⟨⟨base, place, hplaced'⟩, hshown⟩
  | removeWorkspace workspace =>
    obtain ⟨base, place, hplaced⟩ := hat.exists_isPlaced hturn
    obtain ⟨-, hhas, hhome, hshown⟩ := hplaced.removed
    exact ⟨⟨hhas, hhome⟩, hshown⟩

/-- A build on such a machine changes what the cache shows under the key of its program at most, and
nothing unless its trace says so. -/
theorem shown_build {machine : Machine} {jobId source : Bytes}
    (hapart : ∀ name more, bytes "job-" <+: name → ¬ kind.isPlace (site ++ name :: more))
    (hlaunch : ∀ workspace base place machine request timeout,
      IsPlaced kind temporary settings.workspaceRoot site workspace base place machine →
      request ∈ [compilerOf settings environment workspace, programOf settings workspace] →
        StaysIn place machine (machine.launch isCancelled request timeout).2)
    (hat : IsAt kind temporary settings.workspaceRoot site .idle machine) :
    let built := machine.build settings temporary environment isCancelled jobId source
    shown kind built.2 key ≠ shown kind machine key →
      built.1.trace.Has Trace.cacheStored ∧ key = CacheKey.compute settings.toolchain source := by
  have hsome : machine.cache.isSome = true := by
    obtain ⟨⟨cache, hcache, -⟩, -⟩ := hat
    rw [hcache]
    rfl
  unfold Machine.build
  rw [hsome]
  have hshows := @hostWith_showsCache _ kind settings temporary site environment isCancelled _
    (host settings temporary environment true isCancelled).compile
    (host settings temporary environment true isCancelled).execute
    (isKey_compute settings.toolchain source) hapart fun workspace base place machine hplaced =>
      ⟨hlaunch workspace base place machine (compilerOf settings environment workspace) _ hplaced
          List.mem_cons_self,
        hlaunch workspace base place machine (programOf settings workspace) _ hplaced (by simp)⟩
  exact stored_of_changed (host settings temporary environment true isCancelled)
    settings.toolchain settings.keepsWorkspace jobId source machine hshows hat

end Host

section Reliable

variable (kind : Cache.Kind) (temporary root : Bytes) (site : Location)

/-- What builds see of a machine. -/
def viewOf : View Machine where
  isReady := IsAt kind temporary root site
  entry := shown kind
  source machine workspace := fileIn machine.tree workspace Workspace.sourceName
  artifact machine workspace := fileIn machine.tree workspace Workspace.artifactName

/-- The toolchain and the program keep to the workspace. The toolchain ends as the outside programs do
that are given itself and the source, and leaves the artifact if it succeeds; the program ends as its
artifact does in its environment. -/
structure Obeys (programs : Programs) (toolchain : Toolchain) (source : Bytes)
    (bindings : List (Bytes × Bytes))
    (compile : Toolchain → Workspace → Machine → Ended × Machine)
    (execute : Workspace → Machine → Ended × Machine) : Prop where
  stays : ∀ workspace base place machine,
    IsPlaced kind temporary root site workspace base place machine →
      StaysIn place machine (compile toolchain workspace machine).2 ∧
      StaysIn place machine (execute workspace machine).2
  compiled : ∀ workspace base place machine,
    IsPlaced kind temporary root site workspace base place machine → IsFresh place machine →
    fileIn machine.tree workspace Workspace.sourceName = some source →
      (compile toolchain workspace machine).1 = programs.compiled toolchain source ∧
      ∀ stdout stderr, (compile toolchain workspace machine).1 = .completed 0 stdout stderr →
        fileIn (compile toolchain workspace machine).2.tree workspace Workspace.artifactName
          = some (programs.artifact toolchain source)
  executed : ∀ workspace base place machine artifact,
    IsPlaced kind temporary root site workspace base place machine →
    fileIn machine.tree workspace Workspace.artifactName = some artifact →
      (execute workspace machine).1 = programs.execute artifact bindings

/-- A build on a machine with a cache, as a request. -/
def requestOf (settings : Settings) (temporary : Bytes) (environment : List Bytes)
    (isCancelled : Bool) (compile : Toolchain → Workspace → Machine → Ended × Machine)
    (execute : Workspace → Machine → Ended × Machine) (jobId source : Bytes) : Request Machine where
  host := hostWith settings temporary environment true isCancelled compile execute
  toolchain := settings.toolchain
  keeps := settings.keepsWorkspace
  jobId := jobId
  source := source
  environment := settings.runEnvironment

variable {kind temporary root site}

/-- Once a build is over, with its workspace or without, the next one can begin. -/
theorem IsAt.idle {phase : Phase} {machine : Machine}
    (h : IsAt kind temporary root site phase machine) :
    IsAt kind temporary root site .idle machine := by
  cases phase with
  | idle => exact h
  | gone => exact h
  | fresh workspace =>
    obtain ⟨base, place, hplaced⟩ := h.exists_isPlaced (.inl rfl)
    exact ⟨hplaced.has, hplaced.home_after⟩
  | used workspace =>
    obtain ⟨base, place, hplaced⟩ := h.exists_isPlaced (.inr rfl)
    exact ⟨hplaced.has, hplaced.home_after⟩

/-- **Machines.** Builds on a machine are reliable, with a cache of any kind that has no place where
workspaces are made. -/
theorem requestOf_isReliable {programs : Programs} {settings : Settings} {environment : List Bytes}
    {isCancelled : Bool} {compile : Toolchain → Workspace → Machine → Ended × Machine}
    {execute : Workspace → Machine → Ended × Machine} {source : Bytes}
    (hapart : ∀ name more, bytes "job-" <+: name → ¬ kind.isPlace (site ++ name :: more))
    (hobeys : Obeys kind temporary settings.workspaceRoot site programs settings.toolchain source
      settings.runEnvironment compile execute) (jobId : Bytes) :
    (requestOf settings temporary environment isCancelled compile execute jobId source).IsReliable
      (viewOf kind temporary settings.workspaceRoot site) programs where
  shows := hostWith_showsCache (isKey_compute ..) hapart hobeys.stays
  again := IsAt.idle
  wrote := by
    rintro workspace before after ⟨base, place, hplaced, hfresh⟩ hwrite
    obtain ⟨-, -, -, hfile⟩ := hfresh.writeSource hplaced hwrite
    exact hfile rfl
  found := by
    rintro workspace before found after - ⟨base, place, hplaced, hfresh⟩ hlookup
    obtain ⟨hsame, hfound⟩ :=
      lookedUp hplaced (isKey_compute settings.toolchain source)
    have hanswer : cacheAccess.lookup (CacheKey.compute settings.toolchain source) before
      = (.ok found, after) := hlookup
    rw [hanswer] at hsame hfound
    obtain rfl : after = before := hsame
    exact ⟨hfound found rfl, rfl⟩
  restored := by
    rintro workspace artifact before after ⟨base, place, hplaced, hfresh⟩ hrestore
    obtain ⟨-, -, -, hfile⟩ := hfresh.restoreArtifact hplaced hrestore
    exact hfile rfl
  compiled := by
    rintro workspace before ended after ⟨base, place, hplaced, hfresh⟩ hsource hcompile
    have hdone := hobeys.compiled workspace base place before hplaced hfresh hsource
    have hanswer : compile settings.toolchain workspace before = (ended, after) := hcompile
    rw [hanswer] at hdone
    exact hdone
  read := by
    rintro workspace artifact before found after ⟨base, place, hplaced⟩ hartifact hread
    obtain ⟨rfl, hfound⟩ := hplaced.readArtifact hartifact hread
    exact ⟨hfound, hartifact⟩
  stored := by
    rintro workspace artifact before after - ⟨base, place, hplaced⟩ hstore
    obtain ⟨hafter, hworks, -⟩ :=
      stored hplaced (isKey_compute settings.toolchain source) hstore
    change fileIn _ _ _ = fileIn _ _ _
    rw [hafter.fileIn_eq, hplaced.fileIn_eq, hworks.links, hworks.links, hworks.only.content?
      (hplaced.apart _ (List.prefix_append place [Workspace.artifactName]))]
  executed := by
    intro phase workspace artifact before hin hat hartifact
    obtain ⟨base, place, hplaced⟩ := IsAt.exists_isPlaced hin hat
    exact hobeys.executed workspace base place before artifact hplaced hartifact

end Reliable

end Machine

end

/-! ## Shared caches -/

namespace Sample

local instance : DatabaseLibrary := Database.library

/-- Compilers take every source for its own artifact, except the empty one; a compiled program prints
itself. -/
def echoing : Programs where
  compile _ _ _ source :=
    if source.isEmpty then .completed 1 [] (bytes "nothing to compile") else .completed 0 [] []
  link _ _ _ source := source
  execute artifact _ := .completed 0 artifact []

/-- Whether there is a directory at a location. -/
def isDirectoryAt (tree : Tree) (location : Location) : Bool :=
  (tree.get? location).any Files.Node.isDirectory

/-- A compiler that copies the source, if there is room for the artifact. -/
def copying (toolchain : Toolchain) (workspace : Workspace) (machine : Machine) : Ended × Machine :=
  match machine.tree.locateName workspace.path,
    Machine.fileIn machine.tree workspace Workspace.sourceName with
  | .ok place, some source =>
    if isDirectoryAt machine.tree place
        && !isDirectoryAt machine.tree (place ++ [Workspace.artifactName]) then
      (echoing.compiled toolchain source,
        if source.isEmpty then machine
        else { machine with
          tree := machine.tree.put (place ++ [Workspace.artifactName]) (.file 0o755 source) })
    else (.notStarted (.plain (bytes "no room")), machine)
  | _, _ => (.notStarted (.plain (bytes "no source")), machine)

/-- A run of an artifact that was copied. -/
def printing (workspace : Workspace) (machine : Machine) : Ended × Machine :=
  match Machine.fileIn machine.tree workspace Workspace.artifactName with
  | some artifact => (echoing.execute artifact [], machine)
  | none => (.notStarted (.plain (bytes "no artifact")), machine)

/-- A directory is known by its node. -/
theorem isDirectoryAt_iff {tree : Tree} {location : Location} :
    isDirectoryAt tree location = true ↔ tree.HasDirectory location := by
  unfold isDirectoryAt Tree.HasDirectory
  cases tree.get? location with
  | none => simp
  | some node => cases node <;> simp [Files.Node.isDirectory]

section Obeys

variable {kind : Cache.Kind} {temporary root : Bytes} {site : Location} {workspace : Workspace}
  {base : Tree} {place : Location} {machine : Machine}

/-- The artifact is put into the workspace, or nothing is done. -/
theorem copying_cases (toolchain : Toolchain)
    (h : Machine.IsPlaced kind temporary root site workspace base place machine) :
    (copying toolchain workspace machine).2 = machine ∨
      machine.tree.HasDirectory place ∧
      ¬ machine.tree.HasDirectory (place ++ [Workspace.artifactName]) ∧
      ∃ source, (copying toolchain workspace machine).2 = { machine with
        tree := machine.tree.put (place ++ [Workspace.artifactName]) (.file 0o755 source) } := by
  unfold copying
  rw [h.within.locateName h.placed]
  cases Machine.fileIn machine.tree workspace Workspace.sourceName with
  | none => exact .inl rfl
  | some source =>
    dsimp only
    split
    · next hroom =>
      obtain ⟨hdir, hfree⟩ := Bool.and_eq_true_iff.1 hroom
      split
      · exact .inl rfl
      · refine .inr ⟨isDirectoryAt_iff.1 hdir, fun hno => ?_, source, rfl⟩
        rw [isDirectoryAt_iff.2 hno] at hfree
        cases hfree
    · exact .inl rfl

/-- The compiler keeps to the workspace. -/
theorem copying_staysIn (toolchain : Toolchain)
    (h : Machine.IsPlaced kind temporary root site workspace base place machine) :
    Machine.StaysIn place machine (copying toolchain workspace machine).2 := by
  rcases copying_cases toolchain h with hsame | ⟨hdir, hfree, source, hput⟩
  · rw [hsame]
    exact ⟨rfl, h.proper, .refl _⟩
  · rw [hput]
    exact h.staysIn_of_written rfl hfree hdir (Files.isWritten_put machine.tree (by simp) _)

/-- The program changes nothing. -/
theorem printing_state : (printing workspace machine).2 = machine := by
  unfold printing
  split <;> rfl

/-- These are a toolchain and programs as the outside programs have it. -/
theorem obeys (kind : Cache.Kind) (temporary root : Bytes) (site : Location)
    (toolchain : Toolchain) (source : Bytes) :
    Machine.Obeys kind temporary root site echoing toolchain source [] copying printing where
  stays workspace base place machine h := by
    refine ⟨copying_staysIn toolchain h, ?_⟩
    rw [printing_state]
    exact ⟨rfl, h.proper, .refl _⟩
  compiled workspace base place machine h hfresh hsource := by
    have hroom : (isDirectoryAt machine.tree place
        && !isDirectoryAt machine.tree (place ++ [Workspace.artifactName])) = true := by
      rw [isDirectoryAt_iff.2 hfresh.directory, Bool.true_and, Bool.not_eq_true',
        ← Bool.not_eq_true, isDirectoryAt_iff]
      exact hfresh.noDirectory
    have hcopying : copying toolchain workspace machine = (echoing.compiled toolchain source,
        if source.isEmpty then machine
        else { machine with
          tree := machine.tree.put (place ++ [Workspace.artifactName]) (.file 0o755 source) }) := by
      unfold copying
      rw [h.within.locateName h.placed, hsource]
      exact if_pos hroom
    rw [hcopying]
    refine ⟨rfl, fun stdout stderr hended => ?_⟩
    by_cases hempty : source.isEmpty = true
    · simp only [Programs.compiled, echoing, hempty] at hended
      cases hended
    · have hne : place ++ [Workspace.artifactName] ≠ [] := by simp
      dsimp only
      rw [if_neg hempty]
      have hcache : ({ machine with
          tree := machine.tree.put (place ++ [Workspace.artifactName]) (.file 0o755 source) } :
          Machine).cache = machine.cache := rfl
      exact (hfresh.written h hcache hfresh.noDirectory
        (Files.isWritten_put machine.tree hne _)).2.2.2
  executed workspace base place machine artifact h hartifact := by
    unfold printing
    rw [hartifact]

end Obeys

/-- Workspaces are made in a directory that is there. -/
def settings : Settings := ⟨.standard, bytes "/w", false, 0, 0, []⟩

/-- Sources that are not too long fit the standard toolchain. -/
theorem standard_fits {source : Bytes} (h : CacheKey.IsShort source) :
    CacheKey.Fits .standard source :=
  ⟨by decide, by decide, ⟨by decide, nofun⟩, ⟨by decide, nofun⟩, ⟨by decide, nofun⟩, by decide, h⟩

/-- A source that is to be built on a machine. -/
def ask (source : Bytes) : Request Machine :=
  Machine.requestOf settings (bytes "/tmp") [] false copying printing (bytes "job") source

/-- A tree with a directory for workspaces and one for caches. -/
def shelves : Tree where
  here := []
  nodes := [([bytes "w"], .directory 0o755), ([bytes "c"], .directory 0o755)]
  links := []
  fresh := 0

/-- A source that has been built is found in the cache when it is asked for again, and comes to the same
as without it. -/
def FoundAgain (cache : Cache) : Prop :=
  let before := stateAfter [ask (bytes "a")] ⟨shelves, some cache⟩
  ((ask (bytes "a")).run before).1.isCacheHit = true ∧
    ((ask (bytes "a")).run before).1.AgreesButForCache ((ask (bytes "a")).uncached.run before).1

instance (moment : Moment) : Decidable moment.Succeeds := by
  unfold Moment.Succeeds
  split <;> infer_instance

instance (request : Request Machine) (machine : Machine) : Decidable (request.Succeeds machine) :=
  inferInstanceAs (Decidable (∀ moment ∈ historyOf request.host request.toolchain request.keeps
    request.jobId request.source machine, moment.Succeeds))

instance decidableAllSucceed : (requests : List (Request Machine)) → (machine : Machine) →
    Decidable (AllSucceed requests machine)
  | [], _ => inferInstanceAs (Decidable True)
  | request :: rest, machine =>
    have := decidableAllSucceed rest (request.run machine).2
    inferInstanceAs (Decidable (request.Succeeds machine ∧
      AllSucceed rest (request.run machine).2))

/-- The places of caches. -/
def isInCaches (location : Location) : Prop := [bytes "c"] <+: location

/-- The shelves hold the ways of the caches. -/
theorem shelves_holdsWay {more : List Bytes}
    (hplain : ∀ name ∈ bytes "c" :: more, Path.IsPlain name ∧ Path.slash ∉ name) :
    HoldsWay isInCaches true [] (bytes "c" :: more) [] shelves where
  names := ⟨⟨0, bytes "c" :: more, rfl, fun _ => rfl, fun name hname => (hplain name hname).1⟩,
    fun name hname => (hplain name hname).2⟩
  reach := rfl
  directory := ⟨0o755, rfl⟩
  plain name hname := (hplain name hname).1
  ones rest hne hrest := by
    refine ⟨?_, rfl⟩
    rcases hrest with hrest | hrest
    · obtain ⟨first, others, rfl⟩ := List.exists_cons_of_ne_nil hne
      obtain ⟨rfl, -⟩ := List.cons_prefix_cons.1 hrest
      exact List.cons_prefix_cons.2 ⟨rfl, List.nil_prefix⟩
    · exact (List.cons_prefix_cons.2 ⟨rfl, List.nil_prefix⟩).trans hrest

/-- It is so with a cache in memory, with one in a directory and with one in a database. -/
theorem caches_findAgain :
    FoundAgain (.memory []) ∧ FoundAgain (.directory (bytes "/c")) ∧
      FoundAgain (.database ⟨bytes "/c/db", [], true⟩) := by
  have hmem {p : Request Machine → Prop} (h : p (ask (bytes "a"))) :
      ∀ request ∈ [ask (bytes "a"), ask (bytes "a")], p request := by
    simp [h]
  have hproper : shelves.IsProper := by decide
  -- What is to be shown of a kind of caches: that one is of the kind, and is empty.
  have hkind (kind : Cache.Kind) (cache : Cache) (hone : kind.isOne cache)
      (hstands : kind.stands shelves) (hempty : ∀ key, kind.contents cache shelves key = none)
      (hapart : ∀ name more, bytes "job-" <+: name → ¬ kind.isPlace ([bytes "w"] ++ name :: more))
      (hworks : AllSucceed [ask (bytes "a"), ask (bytes "a")] ⟨shelves, some cache⟩ ∧
        (ask (bytes "a")).uncached.Succeeds
          (stateAfter [ask (bytes "a")] ⟨shelves, some cache⟩) ∧
        ((ask (bytes "a")).run
          (stateAfter [ask (bytes "a")] ⟨shelves, some cache⟩)).1.isCacheHit = true) :
    FoundAgain cache := by
    obtain ⟨hsucceed, hplain, hhit⟩ := hworks
    have hready : (Machine.viewOf kind (bytes "/tmp") (bytes "/w") [bytes "w"]).isReady .idle
        ⟨shelves, some cache⟩ :=
      ⟨⟨cache, rfl, hone⟩, hproper, hstands, rfl, 0o755, rfl⟩
    have hreliable := @Machine.requestOf_isReliable _ kind (bytes "/tmp") [bytes "w"] echoing
      settings [] false copying printing (bytes "a") hapart
      (obeys kind (bytes "/tmp") (bytes "/w") [bytes "w"] .standard (bytes "a")) (bytes "job")
    obtain ⟨hbefore, -, hagrees⟩ := cache_transparent _ echoing
      [ask (bytes "a"), ask (bytes "a")] ⟨shelves, some cache⟩ hready
      (fun request _ => hempty request.key) (hmem hreliable) (hmem (standard_fits (by decide)))
      (hmem (hmem fun _ => rfl)) hsucceed [ask (bytes "a")] [] (ask (bytes "a")) rfl
    exact ⟨hhit, hagrees _ hbefore hplain⟩
  have happart : ∀ name more, bytes "job-" <+: name →
      ¬ isInCaches ([bytes "w"] ++ name :: more) := by
    intro name more _ h
    obtain ⟨h, -⟩ := List.cons_prefix_cons.1 h
    cases h
  have hdirectory : Path.IsPlain (bytes "c") ∧ Path.slash ∉ bytes "c" :=
    ⟨⟨by decide, by decide, by decide⟩, by decide⟩
  have hfile : Path.IsPlain (bytes "db") ∧ Path.slash ∉ bytes "db" :=
    ⟨⟨by decide, by decide, by decide⟩, by decide⟩
  refine ⟨?_, ?_, ?_⟩
  · exact hkind .memory (.memory []) trivial trivial (fun _ => rfl) (fun _ _ _ => id)
      (by decide +kernel)
  · refine hkind (.directory isInCaches true [] [bytes "c"] []) _ rfl
      (shelves_holdsWay (List.forall_mem_singleton.2 hdirectory)) (fun key => ?_) happart
      (by decide +kernel)
    have hother : [bytes "c", key.take 2, key ++ bytes ".bin"] ≠ [bytes "c"] := by simp
    have hnone : shelves.content? [bytes "c", key.take 2, key ++ bytes ".bin"] = none := by
      simp [Tree.content?, Tree.get?, shelves, List.lookup_cons, beq_eq_false_iff_ne.2 hother]
    exact (congrArg (fun content => if IsKey key then content else none) hnone).trans (ite_self _)
  · exact hkind (.database (Database.library_isMap artifactsBucket) Database.library_keepsToFile
      isInCaches true [] [bytes "c", bytes "db"] []) _ ⟨rfl, rfl⟩
      (shelves_holdsWay (List.forall_mem_cons.2
        ⟨hdirectory, List.forall_mem_singleton.2 hfile⟩)) (fun _ => rfl) happart
      (by decide +kernel)

end Sample

end Build

end FunctionChain
