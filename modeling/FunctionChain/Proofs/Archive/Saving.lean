import FunctionChain.Archive.Store
import FunctionChain.Proofs.Archive.Codec
import FunctionChain.Proofs.Files.Writing

/-!
# Saving files in the archive

The files of a job stand side by side in its directory, which is made when the first of them is
saved. A saved file is found at its path because the path of the directory still leads to the
directory after the file has been written (`HasSaved.stat`): it leads somewhere, since the directory
is opened once more at the end, and elsewhere only if it has ended in a link that the file replaces.
What the directory holds is told by name, and saving one more file changes just that (`Holds`).
-/

namespace FunctionChain

namespace Archive

open Files (Action Tree Node Location)
open Files.Tree (IsPath)

/-! ## Paths of the archive -/

/-- The names of the files of a job. -/
def IsFileName (name : Bytes) : Prop :=
  name = bytes "job.json" ∨ name = bytes "failure.json" ∨ name = bytes "trace.json"

/-- The name of a file of the archive is a plain one, and short enough. -/
theorem IsFileName.isPlain {name : Bytes} (h : IsFileName name) :
    Path.IsPlain name ∧ Path.slash ∉ name ∧ name.length ≤ Tree.longestName := by
  rcases h with rfl | rfl | rfl <;> exact ⟨⟨by decide, by decide, by decide⟩, by decide, by decide⟩

/-- The id of a job is a plain name. -/
theorem IsJobId.isPlain {id : Bytes} (h : IsJobId id) : Path.IsPlain id := by
  refine ⟨?_, h.notSame, h.notUp⟩
  rintro rfl
  cases h.notBlank

namespace Store

/-- The path of one of a job's files. -/
def filePath (store : Store) (id name : Bytes) : Bytes := Path.join [store.directory id, name]

/-- The names along the path of a job's directory. -/
def names (store : Store) (id : Bytes) : List Bytes :=
  Path.cleanNames (Path.isRooted store.base) (Path.names store.base) ++ [bytes "jobs"] ++ [id]

/-- The directory of a job has a name. -/
theorem names_ne_nil (store : Store) (id : Bytes) : store.names id ≠ [] := by simp [names]

section Paths

variable (store : Store) {id : Bytes} (hid : IsJobId id)
include hid

/-- The path of a directory of a job is made of names. -/
theorem areNames : Path.AreNames (Path.isRooted store.base) (store.names id) := by
  have hjobs : Path.IsPlain (bytes "jobs") := ⟨by decide, by decide, by decide⟩
  exact ((Path.areNames_cleanNames _ store.base).concat hjobs (by decide)).concat hid.isPlain
    hid.noSlash

/-- The path of the directory of a job by its names. -/
theorem directory_eq :
    store.directory id = Path.ofNames (Path.isRooted store.base) (store.names id) := by
  have hjobs : Path.IsPlain (bytes "jobs") := ⟨by decide, by decide, by decide⟩
  have hbase := Path.areNames_cleanNames (Path.isRooted store.base) store.base
  rw [directory, jobsPath, Path.join_name _ hjobs (by decide),
    Path.join_ofNames (hbase.concat hjobs (by decide)) hid.isPlain hid.noSlash]
  rfl

/-- The path of a file of a job by its names. -/
theorem filePath_eq {name : Bytes} (hname : IsFileName name) :
    store.filePath id name
      = Path.ofNames (Path.isRooted store.base) (store.names id ++ [name]) := by
  obtain ⟨hplain, hslash, -⟩ := hname.isPlain
  rw [filePath, store.directory_eq hid, Path.join_ofNames (store.areNames hid) hplain hslash]

/-- A file of a job is in its directory. -/
theorem filePath_append {name : Bytes} (hname : IsFileName name) :
    store.filePath id name = store.directory id ++ Path.slash :: name := by
  rw [store.filePath_eq hid hname, store.directory_eq hid,
    Path.ofNames_concat (store.names_ne_nil id)]

/-- The path of a directory of a job is not empty. -/
theorem directory_ne_nil : store.directory id ≠ [] := by
  rw [store.directory_eq hid]
  exact Path.ofNames_ne_nil (store.areNames hid)

/-- The directory around a file of a job is that of the job. -/
theorem parent_filePath {name : Bytes} (hname : IsFileName name) :
    Path.parent (store.filePath id name) = store.directory id := by
  obtain ⟨-, hslash, -⟩ := hname.isPlain
  rw [store.filePath_append hid hname, Path.parent_append (store.directory_ne_nil hid) hslash,
    store.directory_eq hid, Path.clean_ofNames (store.areNames hid)]

/-- The temporary file beside a file of a job has the longer path, and one longer than those of the
other files: where it can be written they can be looked for. -/
theorem isPath_filePath {name : Bytes} (hname : IsFileName name) {number : Nat}
    (h : IsPath (Files.inside (Path.parent (store.filePath id name))
      (Path.base (store.filePath id name) ++ bytes ".tmp." ++ Decimal.ofNat number)))
    {other : Bytes} (hother : IsFileName other) : IsPath (store.filePath id other) := by
  obtain ⟨hplain, hslash, -⟩ := hname.isPlain
  rw [store.parent_filePath hid hname, store.filePath_append hid hname,
    Path.base_append hplain.notEmpty hslash] at h
  rw [store.filePath_append hid hother]
  have hlong : name.length + 6 ≤ (name ++ bytes ".tmp." ++ Decimal.ofNat number).length := by
    have hnumber := List.length_pos_iff.2 (Decimal.ofNat_ne_nil number)
    have hmark : (bytes ".tmp.").length = 5 := by decide
    simp only [List.length_append, hmark]
    omega
  have hlengths : other.length < name.length + 6 := by
    rcases hname with rfl | rfl | rfl <;> rcases hother with rfl | rfl | rfl <;> decide
  have hzero : (0 : UInt8) ∉ Path.slash :: other := by
    rcases hother with rfl | rfl | rfl <;> decide
  obtain ⟨hnoZero, -, hshort⟩ := h
  refine ⟨?_, List.append_ne_nil_of_left_ne_nil (store.directory_ne_nil hid) _, ?_⟩
  · rw [List.mem_append, not_or]
    refine ⟨fun hmem => hnoZero ?_, hzero⟩
    unfold Files.inside
    split <;> exact List.mem_append_left _ hmem
  · unfold Files.inside at hshort
    split at hshort <;> simp only [List.length_append, List.length_cons] at hshort hlong ⊢ <;> omega

/-- The files of a job stand in its directory. -/
theorem locateBy_filePath {name : Bytes} (hname : IsFileName name) {tree : Tree} {place : Location}
    (hplace : tree.locate (store.directory id) = .ok place) (hdir : tree.HasDirectory place)
    (hpath : IsPath (store.filePath id name)) {follows : Bool}
    (hlink : follows = true → tree.link? (place ++ [name]) = none) :
    tree.locateBy follows (store.filePath id name) = .ok (place ++ [name]) := by
  obtain ⟨hplain, hslash, hshort⟩ := hname.isPlain
  rw [store.directory_eq hid] at hplace
  rw [store.filePath_eq hid hname] at hpath ⊢
  exact Tree.locateBy_ofNames_concat (store.areNames hid) (store.names_ne_nil id) hplain hslash
    hshort hplace hdir hpath hlink

end Paths

/-! ## Saving a file -/

/-- A directory that was ensured is there, with all above it. -/
theorem ensureDirectory_ok {store : Store} {id : Bytes} {tree after : Tree}
    (hproper : tree.IsProper) (h : (store.ensureDirectory id).on tree = (.ok (), after)) :
    ∃ place, Files.HasMade tree after (store.directory id) place := by
  obtain ⟨_, middle, hmake, hsync⟩ := Files.bind_eq_ok (Files.labelled_eq_ok h)
  obtain ⟨_, _, hdirectory, hparent⟩ := Files.bind_eq_ok hsync
  obtain ⟨rfl, -⟩ := Files.syncDirectory_ok hdirectory
  obtain ⟨rfl, -⟩ := Files.syncDirectory_ok hparent
  exact Files.makeDirectoriesWithin_ok hproper hmake

/-- Write one of the files of a job into its directory, which is made if it is not there. -/
def saveFile (store : Store) (id name label content : Bytes) : Action Unit := do
  store.ensureDirectory id
  (writeFile (store.filePath id name) content).labelled label

/-- `HasSaved store id name content before after place`: the file stands in the job's directory,
which is at `place`, and everything else is as it was once that directory had been made. The path of
the directory leads to something still. -/
structure HasSaved (store : Store) (id name content : Bytes) (before after : Tree)
    (place : Location) : Prop where
  paths : ∀ {other}, IsFileName other → IsPath (store.filePath id other)
  written : ∃ middle, Files.HasMade before middle (store.directory id) place ∧
    ¬ middle.HasDirectory (place ++ [name]) ∧
    Files.IsWritten middle (place ++ [name]) (.file 0o644 content) after
  synced : ∃ node, after.stat (store.directory id) = .ok node

section Saved

variable {store : Store} {id name content : Bytes} (hid : IsJobId id) (hname : IsFileName name)
  {tree after : Tree}
include hid hname

/-- A file that was saved is in its place, in the directory of the job. -/
theorem hasSaved (hproper : tree.IsProper) {label : Bytes}
    (h : (store.saveFile id name label content).on tree = (.ok (), after)) :
    ∃ place, HasSaved store id name content tree after place := by
  obtain ⟨_, middle, hensure, hsave⟩ := Files.bind_eq_ok h
  obtain ⟨place, hmade⟩ := ensureDirectory_ok hproper hensure
  obtain ⟨_, _, hwrite, hsync⟩ := Files.bind_eq_ok (Files.labelled_eq_ok hsave)
  obtain ⟨rfl, hsynced⟩ := Files.syncDirectory_ok hsync
  rw [store.parent_filePath hid hname] at hsynced
  obtain ⟨⟨number, htemporary⟩, location, hlocation, hdir, hwritten⟩ := Files.replaceFile_ok hwrite
  have hpath := (Tree.locateBy_eq_ok_iff.1 hlocation).1
  have hplace : middle.locateName (store.filePath id name) = .ok (place ++ [name]) :=
    store.locateBy_filePath hid hname hmade.leads hmade.directory hpath nofun
  cases hlocation.symm.trans hplace
  exact ⟨place, store.isPath_filePath hid hname htemporary, ⟨_, hmade, hdir, hwritten⟩, hsynced⟩

/-- The path of the directory leads to the directory, also after a file has been saved. -/
theorem HasSaved.leads {place : Location} (h : HasSaved store id name content tree after place)
    (hway : ¬ tree.EndsInLink (store.directory id) (store.filePath id name)) :
    after.locate (store.directory id) = .ok place ∧ after.HasDirectory place := by
  obtain ⟨hpaths, ⟨middle, hmade, hdir, hwritten⟩, node, hsynced⟩ := h
  refine ⟨?_, hwritten.directories hmade.directory (by simp)⟩
  by_cases hlink : middle.link? (place ++ [name]) = none
  · exact (hwritten.keeps hdir hlink).locateBy hmade.leads
  -- A link is gone. What the path leads to now, it has led to, or it has ended in the link.
  obtain ⟨now, hnow, -⟩ := Files.stat_eq_ok_iff.1 hsynced
  rcases hwritten.locate_back rfl hnow with hbefore | rfl
  · cases hmade.leads.symm.trans hbefore
    exact hnow
  · rcases hmade.fresh with rfl | ⟨-, hempty⟩
    · have hplace : middle.locateName (store.filePath id name) = .ok (place ++ [name]) :=
        store.locateBy_filePath hid hname hmade.leads hmade.directory (hpaths hname) nofun
      have hends := (hwritten.keeps_erase rfl (by simp)).locateBy hnow
      exact absurd ⟨_, hplace, hlink, hends⟩ hway
    · exact absurd (Tree.isTaken_eq_false_iff.1 (hempty name)).2 hlink

/-- A saved file is found at its path. -/
theorem HasSaved.stat {place : Location} (h : HasSaved store id name content tree after place)
    (hway : ¬ tree.EndsInLink (store.directory id) (store.filePath id name)) :
    after.stat (store.filePath id name) = .ok (.file 0o644 content) := by
  obtain ⟨hleads, hplace⟩ := h.leads hid hname hway
  obtain ⟨hpaths, ⟨middle, -, -, hwritten⟩, -⟩ := h
  refine Files.stat_eq_ok_iff.2 ⟨place ++ [name], ?_, hwritten.get⟩
  exact store.locateBy_filePath hid hname hleads hplace (hpaths hname) fun _ => hwritten.link

end Saved

/-! ## The directory of a job -/

/-- `Holds store id tree place files`: the directory of the job is at `place`, and it holds the
files of these names with their contents and nothing else. -/
structure Holds (store : Store) (id : Bytes) (tree : Tree) (place : Location)
    (files : Bytes → Option Bytes) : Prop where
  proper : tree.IsProper
  leads : tree.locate (store.directory id) = .ok place
  directory : tree.HasDirectory place
  links : ∀ name, tree.link? (place ++ [name]) = none
  nodes : ∀ name, tree.get? (place ++ [name]) = (files name).map (.file 0o644)

namespace Holds

variable {store : Store} {id : Bytes} {tree after : Tree} {place : Location}
  {files : Bytes → Option Bytes}

/-- There are no directories among the files that a job holds. -/
theorem not_hasDirectory (h : Holds store id tree place files) (name : Bytes) :
    ¬ tree.HasDirectory (place ++ [name]) := by
  rintro ⟨mode, hmode⟩
  rw [h.nodes] at hmode
  cases hfile : files name <;> rw [hfile] at hmode <;> cases hmode

/-- A job that holds files has a directory. -/
theorem isThere (h : Holds store id tree place files) :
    tree.isThere (store.directory id) = true := by
  obtain ⟨mode, hmode⟩ := h.directory
  have hstat : tree.stat (store.directory id) = .ok (.directory mode) :=
    Files.stat_eq_ok_iff.2 ⟨place, h.leads, hmode⟩
  simp [Tree.isThere, hstat]

/-- A directory that has just been made holds nothing. -/
theorem of_made (h : Files.HasMade tree after (store.directory id) place)
    (hfresh : tree.isThere (store.directory id) = false) :
    Holds store id after place fun _ => none := by
  have hempty : ∀ name, after.isTaken (place ++ [name]) = false := by
    rcases h.fresh with rfl | ⟨-, hempty⟩
    · obtain ⟨mode, hmode⟩ := h.directory
      have hstat := Files.stat_eq_ok_iff.2 ⟨place, h.leads, hmode⟩
      simp [Tree.isThere, hstat] at hfresh
    · exact hempty
  exact ⟨h.proper, h.leads, h.directory, fun name => (Tree.isTaken_eq_false_iff.1 (hempty name)).2,
    fun name => (Tree.isTaken_eq_false_iff.1 (hempty name)).1⟩

/-- A file that is written into the directory is one more there, or takes the place of another. -/
theorem written (h : Holds store id tree place files) {name content : Bytes}
    (hwritten : Files.IsWritten tree (place ++ [name]) (.file 0o644 content) after) :
    Holds store id after place (Function.update files name (some content)) := by
  have hdir := h.not_hasDirectory name
  refine ⟨hwritten.proper h.proper hdir (h.directory.stands name), ?_,
    hwritten.directories h.directory (by simp), fun other => ?_, fun other => ?_⟩
  · exact (hwritten.keeps hdir (h.links name)).locateBy h.leads
  · rw [hwritten.links, h.links, ite_self]
  · rw [hwritten.nodes, h.nodes]
    by_cases hother : other = name
    · simp [hother]
    · simp [hother]

/-- What is found at the path of a file. -/
theorem stat (h : Holds store id tree place files) (hid : IsJobId id) {name : Bytes}
    (hname : IsFileName name) (hpath : IsPath (store.filePath id name)) :
    tree.stat (store.filePath id name) = match files name with
      | some content => .ok (.file 0o644 content)
      | none => .error .notFound := by
  have hlocate : tree.locate (store.filePath id name) = .ok (place ++ [name]) :=
    store.locateBy_filePath hid hname h.leads h.directory hpath fun _ => h.links name
  rw [Tree.stat, hlocate]
  dsimp only
  rw [h.nodes]
  cases files name <;> rfl

end Holds

/-- The first file of a job is alone in the directory. -/
theorem HasSaved.holds_first {store : Store} {id name content : Bytes} {tree after : Tree}
    {place : Location} (h : HasSaved store id name content tree after place)
    (hfresh : tree.isThere (store.directory id) = false) :
    Holds store id after place (Function.update (fun _ => none) name (some content)) := by
  obtain ⟨-, ⟨middle, hmade, -, hwritten⟩, -⟩ := h
  exact (Holds.of_made hmade hfresh).written hwritten

/-- A further file of a job stands beside the others. -/
theorem HasSaved.holds_next {store : Store} {id name content : Bytes} {tree after : Tree}
    {place other : Location} (h : HasSaved store id name content tree after other)
    {files : Bytes → Option Bytes} (hholds : Holds store id tree place files) :
    Holds store id after place (Function.update files name (some content)) := by
  obtain ⟨-, ⟨middle, hmade, -, hwritten⟩, -⟩ := h
  rcases hmade.fresh with rfl | ⟨hmissing, -⟩
  · cases hmade.leads.symm.trans hholds.leads
    exact hholds.written hwritten
  · cases hmissing.symm.trans hholds.isThere

end Store

end Archive

end FunctionChain
