import FunctionChain.Proofs.Build.Absolute
import FunctionChain.Proofs.Build.CacheFiles
import FunctionChain.Proofs.Build.Effects
import FunctionChain.Proofs.Files.Region

/-!
# What builds leave behind

A build works in a fresh directory (`IsPlaceFor`) below the one for workspaces, which is made with
those that lead to it. Whatever becomes of its steps, what they change is in that directory or in the
cache (`IsWithin`), as long as the toolchain and the program keep to the workspace
(`Host.IsConfined`). So when the workspace has been taken away, the files are as they were, apart
from the way to it and the cache (`run_leaves`).

On a machine it is enough that launched programs keep to the workspace, and that the cache has a place
of its own without links (`Machine.host_isTidy`).
-/

namespace FunctionChain

open Files (Action Tree Location Node ChangesOnly KeepsWays MakesWay IsWritten WorksAmong HoldsWay)
open Files.Tree (IsPath)

namespace Build

/-! ## Places for workspaces -/

/-- The names along the path of the directory in which workspaces are made. -/
def rootNames (temporary root : Bytes) (tree : Tree) : List Bytes :=
  Path.cleaned (Path.absolute tree.herePath (if root.isEmpty then temporary else root))

/-- Such a path is told by its names. -/
theorem absolute_eq_ofNames_rootNames (temporary root : Bytes) (tree : Tree) :
    Path.AreNames true (rootNames temporary root tree) ∧
      Path.absolute tree.herePath (if root.isEmpty then temporary else root)
        = Path.ofNames true (rootNames temporary root tree) := by
  unfold rootNames
  generalize (if root.isEmpty then temporary else root) = path
  have hhere : Path.isRooted tree.herePath = true := rfl
  obtain ⟨list, hlist, heq⟩ := (Path.isPlaceOf_absolute hhere path).normal.exists_areNames
  rw [heq, Path.cleaned_ofNames hlist]
  exact ⟨hlist, rfl⟩

/-- The name of the source is a plain one. -/
theorem Workspace.isPlain_sourceName : Path.IsPlain Workspace.sourceName :=
  ⟨by decide, by decide, by decide⟩

/-- The name of the artifact is a plain one. -/
theorem Workspace.isPlain_artifactName : Path.IsPlain Workspace.artifactName :=
  ⟨by decide, by decide, by decide⟩

/-- A place for a workspace: in the directory to which the names lead, where nothing has the name with
which the path of the workspace ends. -/
structure IsPlaceFor (names : List Bytes) (workspace : Workspace) (tree : Tree) (place : Location) :
    Prop where
  proper : tree.IsProper
  free : tree.isTaken place = false
  child : ∃ root name, place = root ++ [name] ∧ tree.reach true names = .ok root ∧
    tree.HasDirectory root ∧ Path.IsPlain name ∧ name.length ≤ Tree.longestName ∧
    Path.AreNames true (names ++ [name]) ∧ IsPath workspace.path ∧
    workspace.path = Path.ofNames true (names ++ [name])
  marked : ∃ root name, place = root ++ [name] ∧ bytes "job-" <+: name

/-- A workspace is made in a fresh place, or nothing but a part of the way to it. -/
theorem create_cases {temporary root jobId : Bytes} {tree after : Tree}
    {result : Except Error Workspace} (hproper : tree.IsProper)
    (h : (Workspace.create temporary root jobId).on tree = (result, after)) :
    (∃ error, result = .error error) ∧ MakesWay true (rootNames temporary root tree) tree after ∨
    ∃ workspace base place, result = .ok workspace ∧
      MakesWay true (rootNames temporary root tree) tree base ∧
      IsPlaceFor (rootNames temporary root tree) workspace base place ∧
      IsWritten base place (.directory 0o700) after := by
  obtain ⟨hnames, hpath⟩ := absolute_eq_ofNames_rootNames temporary root tree
  unfold Workspace.create at h
  rw [Files.on_get_bind] at h
  dsimp only at h
  rw [hpath] at h
  generalize rootNames temporary root tree = names at hnames h ⊢
  rw [Action.on_bind, Action.on_labelled] at h
  rcases hmake : (Files.makeDirectories (Path.ofNames true names) 0o755).on tree with ⟨made, base⟩
  have hway := Files.makeDirectories_makesWay hnames hproper hmake
  rw [hmake] at h
  cases made with
  | error error =>
    cases h
    exact .inl ⟨⟨_, rfl⟩, hway⟩
  | ok _ =>
    obtain ⟨_, hmade⟩ := Files.makeDirectoriesWithin_ok hproper hmake
    dsimp only at h
    rw [Action.on_bind, Action.on_labelled] at h
    rcases htemp : (Files.makeTemporaryDirectory (Path.ofNames true names)
      (bytes "job-" ++ jobId ++ bytes "-")).on base with ⟨path, last⟩
    rw [htemp] at h
    rcases Files.makeTemporaryDirectory_cases htemp with
      ⟨⟨error, rfl⟩, hlike⟩ | ⟨name, rfl, hplain, hslash, hmark, place, hplace, hfree, hwritten⟩
    · cases h
      exact .inl ⟨⟨_, rfl⟩, hway.of_alike hlike⟩
    · cases h
      have hlonger := hnames.concat hplain hslash
      rw [Files.inside_ofNames hnames] at hplace ⊢
      obtain ⟨above, habove, hdir, -, hshort, rfl⟩ :=
        Tree.reach_of_locateName hmade.proper hlonger hplace hfree
      exact .inr ⟨_, base, above ++ [name], rfl, hway, ⟨hmade.proper, hfree, ⟨above, name, rfl,
        habove, hdir, hplain, hshort, hlonger, (Tree.locateBy_eq_ok_iff.1 hplace).1, rfl⟩,
        ⟨above, name, rfl, hmark _ (by decide) (by simp)⟩⟩, hwritten⟩

section

variable [DatabaseLibrary]

/-! ## Machines during a build -/

/-- Apart from the workspace and the cache, the files are as they were before. Directories are kept,
and so are links outside of the workspace. -/
structure IsWithin (isFit : Machine → Prop) (isCache : Location → Prop) (base : Tree)
    (place : Location) (machine : Machine) : Prop where
  fit : isFit machine
  changes : ChangesOnly (fun location => place <+: location ∨ isCache location) base machine.tree
  directories : ∀ location, base.HasDirectory location → machine.tree.HasDirectory location
  links : ∀ location, ¬ place <+: location → machine.tree.link? location = base.link? location

/-- The steps of a build in a workspace at a place, any of which may fail. One that succeeds has done
what it does on a machine, and one that fails may have done a part of it. The toolchain and the
program may do anything in the workspace, and what is done in the cache is done at locations of a
class, none of them in the workspace. The machines on which this is so are fit ones, and stay so. -/
structure Host.IsConfined (host : Host Machine) (toolchain : Toolchain) (isFit : Machine → Prop)
    (isCache : Location → Prop) (workspace : Workspace) (base : Tree) (place : Location) :
    Prop where
  apart : ∀ location, place <+: location → ¬ isCache location
  written : ∀ source machine after, IsWithin isFit isCache base place machine →
    host.writeSource workspace source machine = (none, after) →
      isFit after ∧ (workspace.writeSource source).on machine.tree = (.ok (), after.tree)
  unwritten : ∀ source machine error after, IsWithin isFit isCache base place machine →
    host.writeSource workspace source machine = (some error, after) → isFit after ∧
      ChangesOnly (fun location => place <+: location ∧ location ≠ place) machine.tree after.tree
  cached : ∀ access, host.cache = some access → ∀ key artifact machine, IsKey key →
    IsWithin isFit isCache base place machine →
      (isFit (access.lookup key machine).2 ∧
        WorksAmong isCache machine.tree (access.lookup key machine).2.tree) ∧
      isFit (access.store key artifact machine).2 ∧
        WorksAmong isCache machine.tree (access.store key artifact machine).2.tree
  restored : ∀ artifact machine after, IsWithin isFit isCache base place machine →
    host.restoreArtifact workspace artifact machine = (none, after) → isFit after ∧
      (Files.writeFile workspace.artifactPath artifact 0o755).on machine.tree = (.ok (), after.tree)
  unrestored : ∀ artifact machine error after, IsWithin isFit isCache base place machine →
    host.restoreArtifact workspace artifact machine = (some error, after) → isFit after ∧
      ChangesOnly (· = place ++ [Workspace.artifactName]) machine.tree after.tree
  compiled : ∀ machine, IsWithin isFit isCache base place machine →
    isFit (host.compile toolchain workspace machine).2 ∧
      ChangesOnly (place <+: ·) machine.tree (host.compile toolchain workspace machine).2.tree
  read : ∀ machine, IsWithin isFit isCache base place machine →
    isFit (host.readArtifact workspace machine).2 ∧
      (host.readArtifact workspace machine).2.tree = machine.tree
  executed : ∀ machine, IsWithin isFit isCache base place machine →
    isFit (host.execute workspace machine).2 ∧
      ChangesOnly (place <+: ·) machine.tree (host.execute workspace machine).2.tree
  removed : ∀ machine, IsWithin isFit isCache base place machine →
    (host.removeWorkspace workspace machine).1 = none ∧
      (host.removeWorkspace workspace machine).2.tree = (workspace.remove.on machine.tree).2

/-- The toolchain and the program leave what stands in the workspace under these names. -/
def Host.Respects (host : Host Machine) (toolchain : Toolchain) (isFit : Machine → Prop)
    (isCache : Location → Prop) (workspace : Workspace) (base : Tree) (place : Location) (names : List Bytes) : Prop :=
  ∀ machine, IsWithin isFit isCache base place machine →
    (host.compile toolchain workspace machine).2.tree.get? (place ++ names)
      = machine.tree.get? (place ++ names) ∧
    (host.execute workspace machine).2.tree.get? (place ++ names)
      = machine.tree.get? (place ++ names)

/-! ## Builds in a workspace -/

section Workspace

variable {isFit : Machine → Prop} {isCache : Location → Prop} {host : Host Machine}
  {toolchain : Toolchain} {names : List Bytes} {workspace : Workspace} {base : Tree}
  {place : Location}

/-- What the toolchain and the program leave in the workspace is still there, unless it is the
artifact. -/
def Retains (host : Host Machine) (toolchain : Toolchain) (isFit : Machine → Prop)
    (isCache : Location → Prop) (workspace : Workspace) (base : Tree) (place : Location)
    (before after : Machine) : Prop :=
  ∀ more, host.Respects toolchain isFit isCache workspace base place more →
    more ≠ [Workspace.artifactName] →
      after.tree.get? (place ++ more) = before.tree.get? (place ++ more)

/-- One machine becomes another in steps of a build that keep to the workspace. -/
structure Passes (host : Host Machine) (toolchain : Toolchain) (isFit : Machine → Prop)
    (isCache : Location → Prop) (workspace : Workspace) (base : Tree) (place : Location)
    (before after : Machine) : Prop where
  within : IsWithin isFit isCache base place after
  retains : Retains host toolchain isFit isCache workspace base place before after

/-- What passes twice passes. -/
theorem Passes.trans {first second third : Machine}
    (h : Passes host toolchain isFit isCache workspace base place first second)
    (h' : Passes host toolchain isFit isCache workspace base place second third) :
    Passes host toolchain isFit isCache workspace base place first third :=
  ⟨h'.within, fun more hrespects hne =>
    (h'.retains more hrespects hne).trans (h.retains more hrespects hne)⟩

section Steps

variable (hplace : IsPlaceFor names workspace base place)
include hplace

omit [DatabaseLibrary] in
/-- Nothing is in the place of a new workspace, nor below it. -/
theorem IsPlaceFor.not_taken {location : Location} (h : place <+: location) :
    base.isTaken location = false := by
  obtain ⟨more, rfl⟩ := h
  exact hplace.proper.not_taken_below hplace.free more

omit [DatabaseLibrary] in
/-- No directory is in the place of a new workspace, nor below it. -/
theorem IsPlaceFor.not_above {location : Location} (hdir : base.HasDirectory location) :
    ¬ place <+: location :=
  fun h => Bool.noConfusion ((hplace.not_taken h).symm.trans hdir.isTaken)

/-- The machine on which the workspace has just been made. -/
theorem IsPlaceFor.within {machine : Machine} (hfit : isFit machine)
    (h : IsWritten base place (.directory 0o700) machine.tree) :
    IsWithin isFit isCache base place machine where
  fit := hfit
  changes := h.changesOnly.mono fun _ heq => .inl (heq ▸ List.prefix_refl place)
  directories location hdir := h.directories hdir fun heq =>
    hplace.not_above hdir (heq ▸ List.prefix_refl place)
  links location hnot := by
    have hne : location ≠ place := fun heq => hnot (heq ▸ List.prefix_refl place)
    rw [h.links, if_neg hne]

omit [DatabaseLibrary] in
/-- A tree stays proper when something is written into the place. -/
theorem IsPlaceFor.proper_written {node : Node} {after : Tree}
    (h : IsWritten base place node after) : after.IsProper := by
  obtain ⟨root, name, rfl, -, hdir, -⟩ := hplace.child
  refine h.proper hplace.proper (fun hdir => ?_) (hdir.stands name)
  exact Bool.noConfusion (hplace.free.symm.trans hdir.isTaken)

variable {machine : Machine} (hwithin : IsWithin isFit isCache base place machine)
include hwithin

/-- Ways are kept: no link on them is in the workspace. -/
theorem IsWithin.ways : KeepsWays base machine.tree where
  here := hwithin.changes.here
  directories := hwithin.directories
  links location target hlink := by
    refine (hwithin.links location fun hbelow => ?_).trans hlink
    cases (Files.Tree.isTaken_eq_false_iff.1 (hplace.not_taken hbelow)).2.symm.trans hlink
  unlinked location hdir hlink := (hwithin.links location (hplace.not_above hdir)).trans hlink

/-- The path of the workspace names its place still. -/
theorem IsWithin.locateName : machine.tree.locateName workspace.path = .ok place := by
  obtain ⟨root, name, rfl, hroot, hdir, hplain, hshort, hnames, hpath, heq⟩ := hplace.child
  rw [heq] at hpath ⊢
  exact Files.locateBy_of_reach hnames hpath hplain hshort
    ((hwithin.ways hplace).reach hroot hdir) (hwithin.directories root hdir) nofun

/-- A step that changes what is in the workspace. -/
theorem IsWithin.inside {after : Machine} (hfit : isFit after)
    (h : ChangesOnly (place <+: ·) machine.tree after.tree) :
    IsWithin isFit isCache base place after where
  fit := hfit
  changes := hwithin.changes.trans (h.mono fun _ => .inl)
  directories location hdir := by
    obtain ⟨mode, hmode⟩ := hwithin.directories location hdir
    exact ⟨mode, (h.nodes location (hplace.not_above hdir)).trans hmode⟩
  links location hnot := (h.links location hnot).trans (hwithin.links location hnot)

/-- A step that changes the artifact alone. -/
theorem IsWithin.passes_artifact {after : Machine} (hfit : isFit after)
    (h : ChangesOnly (· = place ++ [Workspace.artifactName]) machine.tree after.tree) :
    Passes host toolchain isFit isCache workspace base place machine after where
  within := hwithin.inside hplace hfit
    (h.mono fun _ heq => heq ▸ List.prefix_append place [Workspace.artifactName])
  retains _ _ hne := h.nodes _ fun heq => hne (List.append_cancel_left heq)

variable (hhost : host.IsConfined toolchain isFit isCache workspace base place)
include hhost

omit hplace in
/-- A step that works in the cache. -/
theorem IsWithin.passes_cache {after : Machine} (hfit : isFit after)
    (h : WorksAmong isCache machine.tree after.tree) :
    Passes host toolchain isFit isCache workspace base place machine after where
  within.fit := hfit
  within.changes := hwithin.changes.trans (h.only.mono fun _ => .inr)
  within.directories location hdir := h.directories location (hwithin.directories location hdir)
  within.links location hnot := (h.links location).trans (hwithin.links location hnot)
  retains more _ _ := h.only.nodes _ (hhost.apart _ (List.prefix_append place more))

/-- Compiling passes. -/
theorem IsWithin.passes_compile :
    Passes host toolchain isFit isCache workspace base place machine
      (host.compile toolchain workspace machine).2 := by
  obtain ⟨hfit, hchanges⟩ := hhost.compiled machine hwithin
  exact ⟨hwithin.inside hplace hfit hchanges, fun _ hrespects _ =>
    (hrespects machine hwithin).1⟩

/-- Executing passes. -/
theorem IsWithin.passes_execute :
    Passes host toolchain isFit isCache workspace base place machine
      (host.execute workspace machine).2 := by
  obtain ⟨hfit, hchanges⟩ := hhost.executed machine hwithin
  exact ⟨hwithin.inside hplace hfit hchanges, fun _ hrespects _ =>
    (hrespects machine hwithin).2⟩

omit hplace in
/-- Reading the artifact passes. -/
theorem IsWithin.passes_read :
    Passes host toolchain isFit isCache workspace base place machine
      (host.readArtifact workspace machine).2 := by
  obtain ⟨hfit, htree⟩ := hhost.read machine hwithin
  exact ⟨⟨hfit, htree ▸ hwithin.changes, htree ▸ hwithin.directories, htree ▸ hwithin.links⟩,
    fun _ _ _ => by rw [htree]⟩

/-! ### Bringing the artifact -/

omit hplace in
/-- Keeping an artifact passes. -/
theorem passes_keepArtifact {key : Bytes} (hkey : host.cache ≠ none → IsKey key)
    (artifact : Bytes) : Passes host toolchain isFit isCache workspace base place machine
      (keepArtifact host.cache key artifact machine).2 := by
  cases haccess : host.cache with
  | none => exact ⟨hwithin, fun _ _ _ => rfl⟩
  | some access =>
    have hkey := hkey (by rw [haccess]; nofun)
    obtain ⟨-, hfit, hworks⟩ := hhost.cached access haccess key artifact machine hkey hwithin
    have hstore : Passes host toolchain isFit isCache workspace base place machine
        (access.store key artifact machine).2 := hwithin.passes_cache hhost hfit hworks
    unfold keepArtifact
    dsimp only
    generalize access.store key artifact machine = outcome at hstore ⊢
    obtain ⟨_ | error, stored⟩ := outcome <;> exact hstore

/-- Compiling afresh passes. -/
theorem passes_compileFresh {key : Bytes}
    (hkey : host.cache ≠ none → IsKey key) :
    Passes host toolchain isFit isCache workspace base place machine
      (compileFresh host toolchain key workspace machine).2.2 := by
  have hcompile := hwithin.passes_compile hplace hhost
  have hread := hcompile.trans (hcompile.within.passes_read hhost)
  unfold compileFresh
  rcases hended : host.compile toolchain workspace machine with ⟨ended, compiled⟩
  rw [hended] at hcompile hread
  dsimp only at hcompile hread ⊢
  split
  · exact hcompile
  · rcases hresult : host.readArtifact workspace compiled with ⟨_ | artifact, read⟩
    · rwa [hresult] at hread
    · rw [hresult] at hread
      exact hread.trans (passes_keepArtifact hread.within hhost hkey artifact)

/-- A workspace in which there is no artifact yet. -/
structure IsReady (place : Location) (machine : Machine) : Prop where
  directory : machine.tree.HasDirectory place
  unlinked : machine.tree.link? place = none
  noLink : machine.tree.link? (place ++ [Workspace.artifactName]) = none

omit hplace hwithin hhost in
/-- Work on the cache leaves a workspace ready. -/
theorem IsReady.of_worksAmong {after : Machine} (hready : IsReady place machine)
    (h : WorksAmong isCache machine.tree after.tree) : IsReady place after where
  directory := h.directories place hready.directory
  unlinked := (h.links place).trans hready.unlinked
  noLink := (h.links _).trans hready.noLink

omit hhost in
/-- What is named in a workspace without links stands there. -/
theorem IsWithin.eq_of_locateBy (hready : IsReady place machine) (follows : Bool) {name : Bytes}
    {location : Location} (hplain : Path.IsPlain name) (hslash : Path.slash ∉ name)
    (hshort : name.length ≤ Tree.longestName)
    (hlink : follows = true → machine.tree.link? (place ++ [name]) = none)
    (h : machine.tree.locateBy follows (Path.join [workspace.path, name]) = .ok location) :
    location = place ++ [name] := by
  obtain ⟨root, last, rfl, hroot, hdir, hlast, hlastShort, hnames, -, heq⟩ := hplace.child
  rw [heq, Path.join_ofNames hnames hplain hslash] at h
  have hpath := (Tree.locateBy_eq_ok_iff.1 h).1
  have hreach := Files.reach_concat hlast hlastShort ((hwithin.ways hplace).reach hroot hdir)
    (hwithin.directories root hdir) hready.unlinked
  cases h.symm.trans (Files.locateBy_of_reach (hnames.concat hplain hslash) hpath hplain hshort
    hreach hready.directory hlink)
  rfl

/-- Restoring an artifact passes. -/
theorem passes_restoreArtifact (hready : IsReady place machine) (artifact : Bytes) :
    Passes host toolchain isFit isCache workspace base place machine
      (host.restoreArtifact workspace artifact machine).2 := by
  rcases hrestore : host.restoreArtifact workspace artifact machine with ⟨_ | error, after⟩
  · obtain ⟨hfit, hwritten⟩ := hhost.restored artifact machine after hwithin hrestore
    rcases Files.writeFile_cases hwritten with
      ⟨⟨_, hfailed⟩, -⟩ | ⟨-, location, node, hlocation, -, hwritten⟩
    · cases hfailed
    · obtain rfl := hwithin.eq_of_locateBy hplace hready true Workspace.isPlain_artifactName
        (by decide) (by decide) (fun _ => hready.noLink) hlocation
      exact hwithin.passes_artifact hplace hfit hwritten.changesOnly
  · obtain ⟨hfit, hchanges⟩ := hhost.unrestored artifact machine error after hwithin hrestore
    exact hwithin.passes_artifact hplace hfit hchanges

/-- Obtaining an artifact passes. -/
theorem passes_obtainArtifact (hready : IsReady place machine) (source : Bytes) :
    Passes host toolchain isFit isCache workspace base place machine
      (obtainArtifact host toolchain source workspace machine).2.2 := by
  unfold obtainArtifact
  cases haccess : host.cache with
  | none =>
    exact passes_compileFresh hplace hwithin hhost fun hne => absurd haccess hne
  | some access =>
    dsimp only
    have hkey := isKey_compute toolchain source
    generalize CacheKey.compute toolchain source = key at hkey ⊢
    obtain ⟨⟨hfit, hworks⟩, -⟩ := hhost.cached access haccess key [] machine hkey hwithin
    have hlookup : Passes host toolchain isFit isCache workspace base place machine
        (access.lookup key machine).2 := hwithin.passes_cache hhost hfit hworks
    have hfresh := hlookup.trans
      (passes_compileFresh hplace hlookup.within hhost fun _ => hkey)
    have hready := hready.of_worksAmong hworks
    rcases hfound : access.lookup key machine with ⟨_ | _ | artifact, looked⟩
    · rwa [hfound] at hfresh
    · rwa [hfound] at hfresh
    · rw [hfound] at hlookup hready
      have hrestore := hlookup.trans
        (passes_restoreArtifact hplace hlookup.within hhost hready artifact)
      dsimp only at hrestore ⊢
      rcases hrestored : host.restoreArtifact workspace artifact looked with ⟨_ | cause, restored⟩
      · rwa [hrestored] at hrestore
      · rwa [hrestored] at hrestore

/-! ### From the source to the end -/

/-- What follows compiling passes. -/
theorem passes_afterCompiled :
    Passes host toolchain isFit isCache workspace base place machine
      (afterCompiled host workspace machine).state := by
  have hexecute := hwithin.passes_execute hplace hhost
  unfold afterCompiled
  rcases hended : host.execute workspace machine with ⟨_ | _ | _, executed⟩
  · rw [hended] at hexecute
    dsimp only
    split <;> exact hexecute
  · rwa [hended] at hexecute
  · rwa [hended] at hexecute

/-- What follows writing passes. -/
theorem passes_afterWritten (hready : IsReady place machine) (source : Bytes) :
    Passes host toolchain isFit isCache workspace base place machine
      (afterWritten host toolchain source workspace machine).state := by
  have hobtain := passes_obtainArtifact hplace hwithin hhost hready source
  unfold afterWritten
  rcases hobtained : obtainArtifact host toolchain source workspace machine
    with ⟨journal, _ | error, obtained⟩
  · rw [hobtained] at hobtain
    exact hobtain.trans (passes_afterCompiled hplace hobtain.within hhost)
  · rwa [hobtained] at hobtain

omit hhost in
/-- The source stands in the workspace when it has been written. -/
theorem IsWithin.isWritten_source (hready : IsReady place machine) {source : Bytes} {after : Tree}
    (h : (workspace.writeSource source).on machine.tree = (.ok (), after)) :
    IsWritten machine.tree (place ++ [Workspace.sourceName]) (.file 0o644 source) after := by
  obtain ⟨-, location, hlocation, -, hwritten⟩ := Files.replaceFile_ok h
  obtain rfl := hwithin.eq_of_locateBy hplace hready false Workspace.isPlain_sourceName (by decide)
    (by decide) nofun hlocation
  exact hwritten

/-- What has become of a workspace in a build: it is there, and so is the source if it was written, as
long as the toolchain and the program leave them. -/
structure Holds (host : Host Machine) (toolchain : Toolchain) (isFit : Machine → Prop)
    (isCache : Location → Prop) (workspace : Workspace) (base : Tree) (place : Location)
    (source : Bytes) (hasWritten : Prop) (after : Tree) : Prop where
  directory : host.Respects toolchain isFit isCache workspace base place [] →
    after.HasDirectory place
  source : host.Respects toolchain isFit isCache workspace base place [Workspace.sourceName] →
    hasWritten → after.get? (place ++ [Workspace.sourceName]) = some (.file 0o644 source)

/-- All the work in a workspace stays within it, and leaves the source there. -/
theorem inWorkspace_holds (hready : IsReady place machine)
    (source : Bytes) :
    let work := inWorkspace host toolchain source workspace machine
    IsWithin isFit isCache base place work.state ∧
      Holds host toolchain isFit isCache workspace base place source
        (∃ reason, .entered .written reason ∈ work.journal) work.state.tree := by
  unfold inWorkspace
  rcases hwrite : host.writeSource workspace source machine with ⟨_ | cause, written⟩
  · obtain ⟨hfit, hwritten⟩ := hhost.written source machine written hwithin hwrite
    have hsource := hwithin.isWritten_source hplace hready hwritten
    have hne (names : List Bytes) (hnames : names ≠ [Workspace.sourceName]) :
        place ++ names ≠ place ++ [Workspace.sourceName] := fun heq =>
      hnames (List.append_cancel_left heq)
    have hbelow := hwithin.inside hplace hfit (hsource.changesOnly.mono fun _ heq =>
      heq ▸ List.prefix_append place [Workspace.sourceName])
    have hother : place ≠ place ++ [Workspace.sourceName] := by simp
    have hready : IsReady place written := by
      refine ⟨hsource.directories hready.directory hother, ?_, ?_⟩
      · rw [hsource.links, if_neg hother, hready.unlinked]
      · rw [hsource.links, if_neg (hne _ (by decide)), hready.noLink]
    have hpasses := passes_afterWritten hplace hbelow hhost hready source
    refine ⟨hpasses.within, fun hrespects => ?_, fun hrespects _ => ?_⟩
    · obtain ⟨mode, hmode⟩ := hready.directory
      have hkept := hpasses.retains [] hrespects nofun
      rw [List.append_nil] at hkept
      exact ⟨mode, hkept.trans hmode⟩
    · exact (hpasses.retains _ hrespects (by decide)).trans hsource.get
  · obtain ⟨hfit, hchanges⟩ := hhost.unwritten source machine cause written hwithin hwrite
    refine ⟨hwithin.inside hplace hfit (hchanges.mono fun _ h => h.1), fun _ => ?_, nofun⟩
    obtain ⟨mode, hmode⟩ := hready.directory
    exact ⟨mode, (hchanges.nodes place fun h => h.2 rfl).trans hmode⟩

omit [DatabaseLibrary] hplace hwithin hhost in
/-- The workspace is removed from where its path leads. -/
theorem Workspace.remove_on {tree : Tree} (h : tree.locateName workspace.path = .ok place) :
    workspace.remove.on tree = (.ok (), tree.eraseAll place) := by
  have hpath : workspace.path ≠ [] := (Tree.locateBy_eq_ok_iff.1 h).1.notEmpty
  rw [Workspace.remove, if_neg (by simpa using hpath), Files.removeAll_ok h]

/-- The workspace is gone when it has been cleaned up. -/
theorem IsWithin.changesOnly_removed :
    ChangesOnly isCache base (host.removeWorkspace workspace machine).2.tree := by
  obtain ⟨-, htree⟩ := hhost.removed machine hwithin
  rw [htree, Workspace.remove_on (hwithin.locateName hplace)]
  exact hwithin.changes.eraseAll hplace.proper hplace.free

end Steps

end Workspace

/-! ## Whole builds -/

/-- The steps of a build on a machine, which makes a workspace or a part of the way to it, and keeps
to it. -/
structure Host.IsTidy (host : Host Machine) (settings : Settings) (temporary : Bytes)
    (isFit : Machine → Prop) (isCache : Location → Prop) (jobId : Bytes) (before : Machine) :
    Prop where
  created : ∀ workspace made, host.createWorkspace jobId before = (.ok workspace, made) →
    isFit made ∧ (Workspace.create temporary settings.workspaceRoot jobId).on before.tree
      = (.ok workspace, made.tree)
  uncreated : ∀ error made, host.createWorkspace jobId before = (.error error, made) →
    MakesWay true (rootNames temporary settings.workspaceRoot before.tree) before.tree made.tree
  confined : ∀ workspace base place,
    MakesWay true (rootNames temporary settings.workspaceRoot before.tree) before.tree base →
      IsPlaceFor (rootNames temporary settings.workspaceRoot before.tree) workspace base place →
        host.IsConfined settings.toolchain isFit isCache workspace base place

/-- What is left of a tree by a build that makes its workspace below the directory to which the names
lead. -/
inductive Leaves (host : Host Machine) (toolchain : Toolchain) (isFit : Machine → Prop)
    (isCache : Location → Prop) (keeps : Bool) (names : List Bytes) (source : Bytes)
    (before : Tree) (outcome : Outcome) (after : Tree) : Prop where
  /-- Without a workspace there is no more than a part of the way to it. -/
  | uncreated : outcome.workspace = none → MakesWay true names before after →
      Leaves host toolchain isFit isCache keeps names source before outcome after
  /-- When the workspace has been removed, there is the way to it, and the cache has changed. -/
  | removed (workspace : Workspace) (base : Tree) (place : Location) :
      outcome.workspace = some workspace → MakesWay true names before base →
      IsPlaceFor names workspace base place → before.isTaken place = false → keeps = false →
      ChangesOnly isCache base after →
      Leaves host toolchain isFit isCache keeps names source before outcome after
  /-- When it is kept, there is also what is in this one directory. -/
  | kept (workspace : Workspace) (base : Tree) (place : Location) :
      outcome.workspace = some workspace → MakesWay true names before base →
      IsPlaceFor names workspace base place → before.isTaken place = false → keeps = true →
      ChangesOnly (fun location => place <+: location ∨ isCache location) base after →
      Holds host toolchain isFit isCache workspace base place source
        (outcome.trace.HasEntered .written) after →
      Leaves host toolchain isFit isCache keeps names source before outcome after

omit [DatabaseLibrary] in
/-- A stage that a trace has entered was entered in the journal. -/
theorem exists_entered_of_trace {journal : Journal} {source : Bytes} {stage : Stage}
    (h : (journal.trace source).HasEntered stage) : ∃ reason, .entered stage reason ∈ journal := by
  have hnoted : History.journal (journal.map .noted) = journal := by
    simp [History.journal, List.filterMap_map, Function.comp_def, Moment.note?]
  rw [← hnoted, hasEntered_iff] at h
  obtain ⟨reason, hmem⟩ := h
  exact ⟨reason, by simpa using hmem⟩

omit [DatabaseLibrary] in
/-- A source that a build has written was written before it was concluded. -/
theorem exists_entered_of_conclude {σ : Type} {source : Bytes} {workspace : Option Workspace}
    {work : Work σ} (h : (conclude source workspace work).trace.HasEntered .written) :
    ∃ reason, .entered .written reason ∈ work.journal := by
  cases herror : work.error <;> simp only [conclude, herror] at h <;>
    simpa using exists_entered_of_trace h

omit [DatabaseLibrary] in
/-- Cleaning up removes the workspace, and nothing else is done to the machine. -/
theorem cleanUp_state {σ : Type} (host : Host σ) (workspace : Workspace) (work : Work σ) :
    (cleanUp host false workspace work).state = (host.removeWorkspace workspace work.state).2 := by
  unfold cleanUp
  rcases host.removeWorkspace workspace work.state with ⟨_ | error, removed⟩ <;> rfl

/-- **What builds leave.** -/
theorem run_leaves {host : Host Machine} {settings : Settings} {temporary : Bytes}
    {isFit : Machine → Prop} {isCache : Location → Prop} {jobId : Bytes} {before : Machine}
    (hhost : host.IsTidy settings temporary isFit isCache jobId before)
    (hproper : before.tree.IsProper) (keeps : Bool) (source : Bytes) :
    Leaves host settings.toolchain isFit isCache keeps
      (rootNames temporary settings.workspaceRoot before.tree) source before.tree
      (run host settings.toolchain keeps jobId source before).1
      (run host settings.toolchain keeps jobId source before).2.tree := by
  rw [run_eq_workOf]
  unfold workOf
  rcases hcreate : host.createWorkspace jobId before with ⟨error | workspace, made⟩
  · exact .uncreated (conclude_workspace ..) (hhost.uncreated error made hcreate)
  · obtain ⟨hfit, hmade⟩ := hhost.created workspace made hcreate
    obtain ⟨⟨_, hfailed⟩, -⟩ | ⟨_, base, place, hok, hway, hplace, hwritten⟩ :=
      create_cases hproper hmade
    · cases hfailed
    · cases hok
      have hwithin : IsWithin isFit isCache base place made := hplace.within hfit hwritten
      have hready : IsReady place made := by
        have hnot : place ++ [Workspace.artifactName] ≠ place := by simp
        refine ⟨⟨_, hwritten.get⟩, hwritten.link, ?_⟩
        rw [hwritten.links, if_neg hnot]
        exact (Tree.isTaken_eq_false_iff.1 (hplace.not_taken (List.prefix_append place _))).2
      have hfree := hway.adds.not_taken hplace.free
      have hconfined := hhost.confined workspace base place hway hplace
      obtain ⟨hstate, hholds⟩ := inWorkspace_holds hplace hwithin hconfined hready source
      dsimp only
      cases keeps with
      | false =>
        refine .removed workspace base place (conclude_workspace ..) hway hplace hfree rfl ?_
        rw [cleanUp_state]
        exact hstate.changesOnly_removed hplace hconfined
      | true =>
        exact .kept workspace base place (conclude_workspace ..) hway hplace hfree rfl
          hstate.changes
          ⟨hholds.directory, fun hrespects hentered =>
            hholds.source hrespects (exists_entered_of_conclude hentered)⟩

/-! ## Builds on machines -/

/-- Where a cache keeps its files, if it has any: a directory, or the file of a database. -/
def Cache.path? : Cache → Option Bytes
  | .memory _ => none
  | .directory path => some path
  | .database opened => some (DatabaseLibrary.path opened)

/-- The path of a cache leads to a place of its own, at locations of a class. -/
def HasRoom (isCache : Location → Prop) (path : Bytes) (tree : Tree) : Prop :=
  ∃ rooted front more root, path = Path.ofNames rooted (front ++ more) ∧
    HoldsWay isCache rooted front more root tree

section Cache

variable {isCache : Location → Prop} {tree after : Tree}

/-- Looking up changes no files. -/
theorem Cache.lookup_tree (cache : Cache) (key : Bytes) :
    ((cache.lookup key).on tree).2 = tree := by
  cases cache with
  | memory entries => rfl
  | directory path =>
    have hlooks : Action.Relates Eq ((Cache.directory path).lookup key) := by
      refine Action.relates_get.bind fun tree => ?_
      split
      · exact Action.relates_pure _
      · exact ((Files.contents_looksAt _).keeps.labelled _).bind fun _ => Action.relates_pure _
    exact (hlooks tree).symm
  | database opened =>
    unfold Cache.lookup
    dsimp only
    split
    · rfl
    · next value _ => cases value <;> rfl

/-- An artifact that is stored in a directory. -/
theorem Cache.store_directory_worksAmong {path : Bytes} (hroom : HasRoom isCache path tree)
    (hproper : tree.IsProper) {key artifact : Bytes} (hkey : IsKey key)
    {result : Except Error Cache}
    (h : ((Cache.directory path).store key artifact).on tree = (result, after)) :
    WorksAmong isCache tree after ∧ after.IsProper ∧
      ∀ changed, result = .ok changed → changed = .directory path := by
  obtain ⟨rooted, front, more, root, rfl, hway⟩ := hroom
  have hnames := hway.names
  obtain ⟨hsub, hsubSlash⟩ := hkey.isPlain_take
  obtain ⟨hfile, hfileSlash⟩ := isPlain_entryName _ ⟨key, hkey, rfl⟩
  have hplain : ∀ name ∈ [key.take 2, key ++ bytes ".bin"], Path.IsPlain name := by
    simpa using And.intro hsub hfile
  have hsubNames := hnames.concat hsub hsubSlash
  have hall := hsubNames.concat hfile hfileSlash
  unfold Cache.store at h
  dsimp only at h
  rw [Cache.parent_entryPath _ hkey, Cache.entryPath_eq _ hkey, Path.isRooted_ofNames hnames,
    Path.cleaned_ofNames hnames, Action.on_bind, Action.on_labelled] at h
  rcases hmake : (Files.makeDirectories
    (Path.ofNames rooted (front ++ more ++ [key.take 2])) 0o755).on tree with ⟨made, middle⟩
  rw [hmake] at h
  have hmade := (Files.makeDirectoriesWithin_makesWay hsubNames (by simp) hproper hmake).1
  have hworks : WorksAmong isCache tree middle := by
    refine hmade.worksAmong fun location hon => ?_
    rw [List.append_assoc] at hon
    exact hway.isOne_of_isOnWay (by simpa using hsub) hon
  have hmiddle := hmade.proper hproper
  cases made with
  | error error =>
    cases h
    exact ⟨hworks, hmiddle, nofun⟩
  | ok _ =>
    dsimp only at h
    rw [Action.on_bind, Action.on_labelled] at h
    rcases hreplace : (Files.replaceFile (Path.ofNames rooted
      (front ++ more ++ [key.take 2, key ++ bytes ".bin"])) artifact 0o644).on middle
      with ⟨replaced, last⟩
    rw [hreplace] at h
    cases replaced with
    | error error =>
      cases h
      have hlike := Files.replaceFile_error hreplace
      exact ⟨hworks.trans hlike.worksAmong, hlike.proper hmiddle, nofun⟩
    | ok _ =>
      cases h
      obtain ⟨-, location, hlocation, hdir, hwritten⟩ := Files.replaceFile_ok hreplace
      have hstands := hmiddle.locateBy_stands hlocation
      have hway := hway.keeps hworks.keepsWays fun rest _ => hworks.links _
      rw [List.append_assoc] at hlocation
      have hsome : more ++ [key.take 2, key ++ bytes ".bin"] ≠ [] := by simp
      obtain rfl := hway.eq_of_locateBy hplain hsome (by simpa using hall) hlocation
      obtain ⟨hone, hlink⟩ := hway.begun hsome (List.prefix_refl _)
      exact ⟨hworks.trans (hwritten.worksAmong hone hdir hlink),
        hwritten.proper hmiddle hdir hstands, fun _ heq => by cases heq; rfl⟩

omit [DatabaseLibrary] in
/-- A file that has room for it is written in the places of the cache. -/
theorem writeFile_worksAmong {path content : Bytes} {mode : Nat} (hroom : HasRoom isCache path tree)
    (hproper : tree.IsProper) {result : Except Error Unit}
    (h : (Files.writeFile path content mode).on tree = (result, after)) :
    WorksAmong isCache tree after ∧ after.IsProper := by
  rcases Files.writeFile_cases h with ⟨-, rfl⟩ | ⟨-, location, node, hlocation, hdir, hwritten⟩
  · exact ⟨(Files.Tree.Alike.refl _).worksAmong, hproper⟩
  · have hstands := hproper.locateBy_stands hlocation
    obtain ⟨rooted, front, more, root, rfl, hway⟩ := hroom
    obtain ⟨hone, hlink⟩ := hway.of_locate hlocation hdir
    exact ⟨hwritten.worksAmong hone hdir hlink, hwritten.proper hproper hdir hstands⟩

/-- **Caches.** Storing an artifact changes nothing but what is in the place of the cache. -/
theorem Cache.store_worksAmong (hfile : DatabaseLibrary.KeepsToFile) {cache : Cache}
    (hroom : ∀ path, cache.path? = some path → HasRoom isCache path tree)
    (hproper : tree.IsProper) {key artifact : Bytes} (hkey : IsKey key)
    {result : Except Error Cache} (h : (cache.store key artifact).on tree = (result, after)) :
    WorksAmong isCache tree after ∧ after.IsProper ∧
      ∀ changed, result = .ok changed → changed.path? = cache.path? := by
  cases cache with
  | memory entries =>
    cases h
    exact ⟨(Files.Tree.Alike.refl tree).worksAmong, hproper, fun _ heq => by cases heq; rfl⟩
  | directory path =>
    obtain ⟨hworks, hafter, hchanged⟩ :=
      Cache.store_directory_worksAmong (hroom path rfl) hproper hkey h
    exact ⟨hworks, hafter, fun changed heq => by rw [hchanged changed heq]⟩
  | database opened =>
    unfold Cache.store at h
    dsimp only at h
    rw [Action.on_bind, Action.on_labelled] at h
    rcases hput : (DatabaseLibrary.put opened artifactsBucket key artifact).on tree
      with ⟨put, last⟩
    obtain ⟨htree, hpath⟩ := hfile hput
    have hlast : WorksAmong isCache tree last ∧ last.IsProper := by
      rcases htree with rfl | ⟨content, mode, rfl⟩
      · exact ⟨(Files.Tree.Alike.refl _).worksAmong, hproper⟩
      · exact writeFile_worksAmong (hroom _ rfl) hproper rfl
    rw [hput] at h
    cases put with
    | error error =>
      cases h
      exact ⟨hlast.1, hlast.2, nofun⟩
    | ok changed =>
      cases h
      exact ⟨hlast.1, hlast.2, fun _ heq => by
        cases heq
        exact congrArg some (hpath changed rfl)⟩

end Cache

/-- The cache keeps its room while a build stays within its workspace. -/
theorem HasRoom.of_isWithin {isFit : Machine → Prop} {isCache : Location → Prop} {path : Bytes}
    {names : List Bytes} {workspace : Workspace} {before base : Tree} {place : Location}
    {machine : Machine} (h : HasRoom isCache path before) (hway : MakesWay true names before base)
    (hplace : IsPlaceFor names workspace base place) (hcache : ¬ isCache place)
    (hwithin : IsWithin isFit isCache base place machine) : HasRoom isCache path machine.tree := by
  obtain ⟨rooted, front, more, root, heq, h⟩ := h
  refine ⟨rooted, front, more, root, heq,
    h.keeps (hway.adds.keepsWays.trans (hwithin.ways hplace)) fun rest hrest => ?_⟩
  have hroot := hplace.not_above (hway.adds.directories root h.directory)
  exact (hwithin.links _ (h.not_above hcache hroot hrest)).trans (hway.adds.links _)

namespace Machine

/-- What is done to the files leaves the cache. -/
theorem act_eq {α : Type} {action : Action α} {machine after : Machine} {result : Except Error α}
    (h : machine.act action = (result, after)) :
    after.cache = machine.cache ∧ action.on machine.tree = (result, after.tree) := by
  cases h
  exact ⟨rfl, rfl⟩

/-- An attempt that succeeds is what was done to the files. -/
theorem attempt_eq_none {action : Action Unit} {machine after : Machine}
    (h : machine.attempt action = (none, after)) :
    after.cache = machine.cache ∧ action.on machine.tree = (.ok (), after.tree) := by
  unfold attempt act at h
  rcases hresult : action.on machine.tree with ⟨_ | _, tree⟩
  · rw [hresult] at h
    cases h
  · rw [hresult] at h
    cases h
    exact ⟨rfl, rfl⟩

/-- So is one that fails. -/
theorem attempt_eq_some {action : Action Unit} {machine after : Machine} {error : Error}
    (h : machine.attempt action = (some error, after)) :
    after.cache = machine.cache ∧ action.on machine.tree = (.error error, after.tree) := by
  unfold attempt act at h
  rcases hresult : action.on machine.tree with ⟨_ | _, tree⟩
  · rw [hresult] at h
    cases h
    exact ⟨rfl, rfl⟩
  · rw [hresult] at h
    cases h

/-- The machines that come about as a host is asked. -/
inductive IsReached (host : Host Machine) (before : Machine) : Machine → Prop where
  | start : IsReached host before before
  | answer (ask : Ask) {machine : Machine} : IsReached host before machine →
      IsReached host before (host.answer ask machine).2

/-- What an answer leaves is reached. -/
theorem IsReached.of_answer {host : Host Machine} {before machine after : Machine} (ask : Ask)
    {answer : ask.Answer} (h : IsReached host before machine)
    (hanswer : host.answer ask machine = (answer, after)) : IsReached host before after := by
  have hreached := h.answer ask
  rwa [hanswer] at hreached

/-- A machine that comes about as a host is asked, on which everything stands in a directory, and whose
cache is where it was before. -/
structure IsHoused (host : Host Machine) (before machine : Machine) : Prop where
  reached : IsReached host before machine
  proper : machine.tree.IsProper
  path : machine.cache.bind Cache.path? = before.cache.bind Cache.path?

/-- The host of builds on a machine, with another toolchain and other programs. -/
def hostWith (settings : Settings) (temporary : Bytes) (environment : List Bytes)
    (hasCache isCancelled : Bool) (compile : Toolchain → Workspace → Machine → Ended × Machine)
    (execute : Workspace → Machine → Ended × Machine) : Host Machine :=
  { host settings temporary environment hasCache isCancelled with compile, execute }

/-- The compiler that a build launches. -/
def compilerOf (settings : Settings) (environment : List Bytes) (workspace : Workspace) :
    Launch.Request :=
  ⟨settings.toolchain.command,
    settings.toolchain.arguments Workspace.sourceName Workspace.artifactName, workspace.path,
    environment⟩

/-- The program that a build launches. -/
def programOf (settings : Settings) (workspace : Workspace) : Launch.Request :=
  ⟨workspace.artifactPath, [], workspace.path, isolatedEnvironment settings.runEnvironment⟩

/-- Something has been done to a machine that has changed only what is at a place. -/
structure KeepsTo (place : Location) (before after : Machine) : Prop where
  proper : after.tree.IsProper
  path : after.cache.bind Cache.path? = before.cache.bind Cache.path?
  only : ChangesOnly (place <+: ·) before.tree after.tree

section Host

variable {settings : Settings} {temporary : Bytes} {environment : List Bytes} {isCancelled : Bool}
  {isCache : Location → Prop} {before : Machine}

/-- What is done in the cache of a machine is done in its place. -/
theorem cacheAccess_worksAmong (hfile : DatabaseLibrary.KeepsToFile) {machine : Machine}
    (hproper : machine.tree.IsProper)
    (hroom : ∀ path, machine.cache.bind Cache.path? = some path →
      HasRoom isCache path machine.tree) {key : Bytes} (hkey : IsKey key) (artifact : Bytes) :
    (cacheAccess.lookup key machine).2 = machine ∧
    WorksAmong isCache machine.tree (cacheAccess.store key artifact machine).2.tree ∧
    (cacheAccess.store key artifact machine).2.tree.IsProper ∧
    (cacheAccess.store key artifact machine).2.cache.bind Cache.path?
      = machine.cache.bind Cache.path? := by
  obtain ⟨tree, cache⟩ := machine
  unfold cacheAccess
  cases cache with
  | none => exact ⟨rfl, (Files.Tree.Alike.refl tree).worksAmong, hproper, rfl⟩
  | some cache =>
    refine ⟨congrArg (Machine.mk · (some cache)) (cache.lookup_tree key), ?_⟩
    dsimp only
    rcases hstore : act ⟨tree, some cache⟩ (cache.store key artifact) with ⟨result, stored⟩
    obtain ⟨hsame, hstored⟩ := act_eq hstore
    obtain ⟨hworks, hafter, hchanged⟩ := Cache.store_worksAmong hfile hroom hproper hkey hstored
    cases result with
    | error error => exact ⟨hworks, hafter, by rw [hsame]⟩
    | ok changed => exact ⟨hworks, hafter, hchanged changed rfl⟩

/-- A step that leaves the cache, and everything in a directory, leaves the machine housed. -/
theorem IsHoused.of_answer {host : Host Machine} {machine after : Machine}
    (h : IsHoused host before machine) (ask : Ask) {answer : ask.Answer}
    (hanswer : host.answer ask machine = (answer, after)) (hcache : after.cache = machine.cache)
    (hproper : after.tree.IsProper) : IsHoused host before after :=
  ⟨h.reached.of_answer ask hanswer, hproper, by rw [hcache, h.path]⟩

section With

variable {compile : Toolchain → Workspace → Machine → Ended × Machine}
  {execute : Workspace → Machine → Ended × Machine}

/-- The steps of a build on a machine keep to the workspace, if the toolchain and the program do. -/
theorem hostWith_isConfined (hfile : DatabaseLibrary.KeepsToFile)
    (hcache : ∀ path, before.cache.bind Cache.path? = some path → HasRoom isCache path before.tree)
    {workspace : Workspace} {base : Tree} {place : Location}
    (hway : MakesWay true (rootNames temporary settings.workspaceRoot before.tree) before.tree base)
    (hplace : IsPlaceFor (rootNames temporary settings.workspaceRoot before.tree) workspace base
      place)
    (hapart : ∀ location, place <+: location → ¬ isCache location)
    (hlaunch : ∀ machine,
      IsWithin (IsHoused (hostWith settings temporary environment before.cache.isSome isCancelled
        compile execute) before) isCache base place machine →
        KeepsTo place machine (compile settings.toolchain workspace machine).2 ∧
        KeepsTo place machine (execute workspace machine).2) :
    (hostWith settings temporary environment before.cache.isSome isCancelled compile
      execute).IsConfined settings.toolchain (IsHoused (hostWith settings temporary environment
        before.cache.isSome isCancelled compile execute) before) isCache workspace base place where
  apart := hapart
  written source machine after hwithin h := by
    obtain ⟨hcache, hwritten⟩ := attempt_eq_none h
    obtain ⟨-, location, hlocation, hdir, hput⟩ := Files.replaceFile_ok hwritten
    have hproper := hwithin.fit.proper
    exact ⟨hwithin.fit.of_answer (.writeSource workspace source) h hcache
      (hput.proper hproper hdir (hproper.locateBy_stands hlocation)), hwritten⟩
  unwritten source machine error after hwithin h := by
    obtain ⟨hcache, hfailed⟩ := attempt_eq_some h
    have hlike := Files.replaceFile_error hfailed
    exact ⟨hwithin.fit.of_answer (.writeSource workspace source) h hcache
      (hlike.proper hwithin.fit.proper), hlike.changesOnly⟩
  cached access haccess key artifact machine hkey hwithin := by
    have hroom (path : Bytes) (hpath : machine.cache.bind Cache.path? = some path) :
        HasRoom isCache path machine.tree :=
      (hcache path (hwithin.fit.path ▸ hpath)).of_isWithin hway hplace
        (hapart place (List.prefix_refl place)) hwithin
    have hreached := hwithin.fit.reached.answer (.store key artifact)
    simp only [Host.answer, haccess] at hreached
    obtain ⟨-, rfl⟩ : before.cache.isSome ∧ cacheAccess = access := by
      simpa [hostWith, host] using haccess
    obtain ⟨hlookup, hworks, hproper, hpath⟩ :=
      cacheAccess_worksAmong hfile hwithin.fit.proper hroom hkey artifact
    refine ⟨?_, ⟨hreached, hproper, hpath.trans hwithin.fit.path⟩, hworks⟩
    rw [hlookup]
    exact ⟨hwithin.fit, (Files.Tree.Alike.refl machine.tree).worksAmong⟩
  restored artifact machine after hwithin h := by
    obtain ⟨hcache, hwritten⟩ := attempt_eq_none h
    obtain ⟨⟨_, hfailed⟩, -⟩ | ⟨-, location, node, hlocation, hdir, hput⟩ :=
      Files.writeFile_cases hwritten
    · cases hfailed
    · have hproper := hwithin.fit.proper
      exact ⟨hwithin.fit.of_answer (.restoreArtifact workspace artifact) h hcache
        (hput.proper hproper hdir (hproper.locateBy_stands hlocation)), hwritten⟩
  unrestored artifact machine error after hwithin h := by
    obtain ⟨hcache, hfailed⟩ := attempt_eq_some h
    obtain ⟨-, htree⟩ | ⟨hok, -⟩ := Files.writeFile_cases hfailed
    · exact ⟨hwithin.fit.of_answer (.restoreArtifact workspace artifact) h hcache
        (htree ▸ hwithin.fit.proper), htree ▸ .refl _⟩
    · cases hok
  compiled machine hwithin := by
    have hkeeps := (hlaunch machine hwithin).1
    exact ⟨⟨hwithin.fit.reached.answer (.compile settings.toolchain workspace), hkeeps.proper,
      hkeeps.path.trans hwithin.fit.path⟩, hkeeps.only⟩
  read machine hwithin := by
    have htree : (machine.act (Files.contents workspace.artifactPath)).2.tree = machine.tree :=
      ((Files.contents_looksAt workspace.artifactPath).keeps machine.tree).symm
    have hproper : (machine.act (Files.contents workspace.artifactPath)).2.tree.IsProper :=
      htree ▸ hwithin.fit.proper
    exact ⟨⟨hwithin.fit.reached.answer (.readArtifact workspace), hproper, hwithin.fit.path⟩, htree⟩
  executed machine hwithin := by
    have hkeeps := (hlaunch machine hwithin).2
    exact ⟨⟨hwithin.fit.reached.answer (.execute workspace), hkeeps.proper,
      hkeeps.path.trans hwithin.fit.path⟩, hkeeps.only⟩
  removed machine hwithin := by
    change (machine.attempt workspace.remove).1 = none ∧
      (machine.attempt workspace.remove).2.tree = (workspace.remove.on machine.tree).2
    rcases hremove : machine.attempt workspace.remove with ⟨_ | error, after⟩
    · obtain ⟨-, hremoved⟩ := attempt_eq_none hremove
      rw [hremoved]
      exact ⟨rfl, rfl⟩
    · -- The workspace is still where it was made, so it can be removed.
      obtain ⟨-, hfailed⟩ := attempt_eq_some hremove
      cases (Workspace.remove_on (hwithin.locateName hplace)).symm.trans hfailed

/-- **Machines.** A build on a machine is tidy, with any toolchain and programs that keep to the
workspace, if the cache has a place of its own. -/
theorem hostWith_isTidy (hfile : DatabaseLibrary.KeepsToFile) (hproper : before.tree.IsProper)
    (hcache : ∀ path, before.cache.bind Cache.path? = some path → HasRoom isCache path before.tree)
    (hapart : ∀ workspace base place,
      MakesWay true (rootNames temporary settings.workspaceRoot before.tree) before.tree base →
      IsPlaceFor (rootNames temporary settings.workspaceRoot before.tree) workspace base place →
        ∀ location, place <+: location → ¬ isCache location)
    (hlaunch : ∀ workspace base place machine,
      MakesWay true (rootNames temporary settings.workspaceRoot before.tree) before.tree base →
      IsPlaceFor (rootNames temporary settings.workspaceRoot before.tree) workspace base place →
      IsWithin (IsHoused (hostWith settings temporary environment before.cache.isSome isCancelled
        compile execute) before) isCache base place machine →
        KeepsTo place machine (compile settings.toolchain workspace machine).2 ∧
        KeepsTo place machine (execute workspace machine).2)
    (jobId : Bytes) :
    (hostWith settings temporary environment before.cache.isSome isCancelled compile execute).IsTidy
      settings temporary (IsHoused (hostWith settings temporary environment before.cache.isSome
        isCancelled compile execute) before) isCache jobId before where
  created workspace made h := by
    have hreached := IsReached.start.of_answer (.createWorkspace jobId) h
    change before.act (Workspace.create temporary settings.workspaceRoot jobId) = _ at h
    obtain ⟨hcache, hmade⟩ := act_eq h
    obtain ⟨⟨_, hfailed⟩, -⟩ | ⟨_, base, place, -, -, hplace, hwritten⟩ :=
      create_cases hproper hmade
    · cases hfailed
    · exact ⟨⟨hreached, hplace.proper_written hwritten, by rw [hcache]⟩, hmade⟩
  uncreated error made h := by
    change before.act (Workspace.create temporary settings.workspaceRoot jobId) = _ at h
    obtain ⟨-, hway⟩ | ⟨_, _, _, hok, -⟩ := create_cases hproper (act_eq h).2
    · exact hway
    · cases hok
  confined workspace base place hway hplace :=
    hostWith_isConfined hfile hcache hway hplace (hapart workspace base place hway hplace)
      fun machine => hlaunch workspace base place machine hway hplace

end With

/-- A build that launches programs is tidy if these keep to the workspace. -/
theorem host_isTidy (hfile : DatabaseLibrary.KeepsToFile) (hproper : before.tree.IsProper)
    (hcache : ∀ path, before.cache.bind Cache.path? = some path → HasRoom isCache path before.tree)
    (hapart : ∀ workspace base place,
      MakesWay true (rootNames temporary settings.workspaceRoot before.tree) before.tree base →
      IsPlaceFor (rootNames temporary settings.workspaceRoot before.tree) workspace base place →
        ∀ location, place <+: location → ¬ isCache location)
    (hlaunch : ∀ workspace base place machine request timeout,
      MakesWay true (rootNames temporary settings.workspaceRoot before.tree) before.tree base →
      IsPlaceFor (rootNames temporary settings.workspaceRoot before.tree) workspace base place →
      IsWithin (IsHoused (host settings temporary environment before.cache.isSome isCancelled)
        before) isCache base place machine →
      request ∈ [compilerOf settings environment workspace, programOf settings workspace] →
        (machine.launch isCancelled request timeout).2.tree.IsProper ∧
          ChangesOnly (place <+: ·) machine.tree
            (machine.launch isCancelled request timeout).2.tree)
    (jobId : Bytes) :
    (host settings temporary environment before.cache.isSome isCancelled).IsTidy settings temporary
      (IsHoused (host settings temporary environment before.cache.isSome isCancelled) before)
      isCache jobId before := by
  have htidy := @hostWith_isTidy _ settings temporary environment isCancelled isCache before
    (host settings temporary environment before.cache.isSome isCancelled).compile
    (host settings temporary environment before.cache.isSome isCancelled).execute
  refine htidy hfile hproper hcache hapart
    (fun workspace base place machine hway hplace hwithin => ?_) jobId
  have hkeeps (request : Launch.Request) (timeout : Duration)
      (hrequest : request ∈
        [compilerOf settings environment workspace, programOf settings workspace]) :
      KeepsTo place machine (machine.launch isCancelled request timeout).2 := by
    obtain ⟨hproper, honly⟩ :=
      hlaunch workspace base place machine request timeout hway hplace hwithin hrequest
    exact ⟨hproper, by rw [launch_cache], honly⟩
  exact ⟨hkeeps (compilerOf settings environment workspace) _ (by simp),
    hkeeps (programOf settings workspace) _ (by simp)⟩

end Host

end Machine

end

end Build

end FunctionChain
