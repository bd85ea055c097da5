import FunctionChain.Build.Toolchain
import FunctionChain.Proofs.Files.Path
import Mathlib.Data.List.Forall2

/-!
# Toolchains with absolute paths

Making a path absolute follows its names from the root or from the current directory, on the text
alone (`Path.LeadsTo`), and writes down the names of the place that is reached. Such a path is told by
its names and is its own cleaned form, so it is left as it is wherever it is made absolute again, and
so is a toolchain (`absolute_settles`).
-/

namespace FunctionChain

namespace Path

/-! ## Following names on the text -/

/-- `LeadsTo place names found`: the names lead from one place to another, each place being the names
from the root down to it. Nothing is above the root. -/
inductive LeadsTo : List Bytes → List Bytes → List Bytes → Prop where
  | done (place : List Bytes) : LeadsTo place [] place
  | empty {place rest found : List Bytes} : LeadsTo place rest found →
      LeadsTo place ([] :: rest) found
  | same {place rest found : List Bytes} : LeadsTo place rest found →
      LeadsTo place (same :: rest) found
  | up {place rest found : List Bytes} : LeadsTo place.dropLast rest found →
      LeadsTo place (up :: rest) found
  | name {place rest found : List Bytes} {name : Bytes} : IsPlain name →
      LeadsTo (place ++ [name]) rest found → LeadsTo place (name :: rest) found

/-- The way up from a place with plain names takes its last name off. -/
theorem push_up_reverse {place : List Bytes} (h : ∀ name ∈ place, IsPlain name) :
    push true place.reverse up = place.dropLast.reverse := by
  rcases List.eq_nil_or_concat place with rfl | ⟨above, last, rfl⟩
  · rfl
  · have hlast : last ≠ up := (h last (by simp)).notUp
    rw [List.concat_eq_append, List.reverse_concat, List.dropLast_concat, push_up_cons hlast]

/-- Cleaning the names of a rooted path is following them. -/
theorem leadsTo_foldl_push {place : List Bytes} (h : ∀ name ∈ place, IsPlain name)
    (names : List Bytes) :
    LeadsTo place names (names.foldl (push true) place.reverse).reverse := by
  induction names generalizing place with
  | nil =>
    rw [List.foldl_nil, List.reverse_reverse]
    exact .done place
  | cons name rest ih =>
    rw [List.foldl_cons]
    by_cases hempty : name = []
    · rw [hempty, push_empty]
      exact .empty (ih h)
    by_cases hsame : name = same
    · rw [hsame, push_same]
      exact .same (ih h)
    by_cases hup : name = up
    · rw [hup, push_up_reverse h]
      exact .up (ih fun other hmem => h other (List.dropLast_subset _ hmem))
    · have hname : IsPlain name := ⟨hempty, hsame, hup⟩
      have hlonger : ∀ other ∈ place ++ [name], IsPlain other := by
        rw [List.forall_mem_append, List.forall_mem_singleton]
        exact ⟨h, hname⟩
      have hstack : name :: place.reverse = (place ++ [name]).reverse := by simp
      rw [push_plain hname, hstack]
      exact .name hname (ih hlonger)

/-- Cleaned names lead where the names have led. -/
theorem leadsTo_cleanNames (names : List Bytes) : LeadsTo [] names (cleanNames true names) :=
  @leadsTo_foldl_push [] nofun names

/-! ## Absolute paths -/

/-- The path starts at the root, and none of its names is empty, `.` or `..`. -/
def IsNormal (path : Bytes) : Prop :=
  ∃ names, path = slash :: Bytes.joined [slash] names ∧
    ∀ name ∈ names, IsPlain name ∧ slash ∉ name

/-- The normal path of the place to which a path leads when it is read in a directory. -/
structure IsPlaceOf (here path found : Bytes) : Prop where
  normal : IsNormal found
  leads : ∃ place, found = slash :: Bytes.joined [slash] place ∧
    LeadsTo [] (if isRooted path then names path else names here ++ names path) place

/-- A rooted path of names is normal. -/
theorem AreNames.isNormal {list : List Bytes} (h : AreNames true list) :
    IsNormal (ofNames true list) := by
  obtain ⟨k, below, rfl, hrooted, hbelow⟩ := h.clean
  obtain rfl := hrooted rfl
  exact ⟨below, rfl, fun name hmem => ⟨hbelow name hmem, h.noSlash name hmem⟩⟩

/-- A normal path is made of names. -/
theorem IsNormal.exists_areNames {path : Bytes} (h : IsNormal path) :
    ∃ list, AreNames true list ∧ path = ofNames true list := by
  obtain ⟨list, rfl, hlist⟩ := h
  refine ⟨list, ⟨⟨0, list, rfl, fun _ => rfl, fun name hmem => (hlist name hmem).1⟩,
    fun name hmem => (hlist name hmem).2⟩, rfl⟩

/-- A normal path is absolute already, wherever it is read. -/
theorem IsNormal.absolute_eq {path : Bytes} (h : IsNormal path) (here : Bytes) :
    absolute here path = path := by
  obtain ⟨list, hlist, rfl⟩ := h.exists_areNames
  rw [absolute, if_pos (isRooted_ofNames hlist), clean_ofNames hlist]

/-- The names of an absolute path are those that are left of the names on the way to it. -/
theorem absolute_eq_ofNames {here : Bytes} (hhere : isRooted here = true) (path : Bytes) :
    absolute here path = ofNames true
      (cleanNames true (if isRooted path then names path else names here ++ names path)) := by
  unfold absolute
  split
  · next hrooted => rw [clean, hrooted]
  · have hne : here ≠ [] := by
      rintro rfl
      cases hhere
    by_cases hpath : path = []
    · subst hpath
      have hnames : cleanNames true (names here ++ names []) = cleanNames true (names here) := by
        rw [cleanNames, List.foldl_append]
        rfl
      have hjoin : join [here, []] = clean here := by simp [join, hne, Bytes.joined]
      rw [hnames, hjoin, clean, hhere]
    · have hjoin : join [here, path] = clean (here ++ slash :: path) := by
        simp [join, hne, hpath, Bytes.joined]
      rw [hjoin, clean, isRooted_append hne, hhere, names_append]

/-- **Absolute paths.** A path is made absolute by following it from the root or from a directory. -/
theorem isPlaceOf_absolute {here : Bytes} (hhere : isRooted here = true) (path : Bytes) :
    IsPlaceOf here path (absolute here path) := by
  have hnames (list : List Bytes) (h : ∀ name ∈ list, slash ∉ name) :
      AreNames true (cleanNames true list) :=
    ⟨isClean_cleanNames true list, fun name hmem => h name (mem_of_mem_cleanNames hmem)⟩
  rw [absolute_eq_ofNames hhere]
  refine ⟨(hnames _ fun name hmem => ?_).isNormal, _, rfl, leadsTo_cleanNames _⟩
  split at hmem
  · exact Bytes.not_mem_of_mem_splitOn hmem
  · exact (List.mem_append.1 hmem).elim Bytes.not_mem_of_mem_splitOn Bytes.not_mem_of_mem_splitOn

end Path

/-! ## Toolchains -/

namespace Build

namespace Toolchain

/-- **Toolchains are made absolute once and for all.** The include directories become, one for one
and in order, the normal paths of the places they lead to, and so does a command that is a relative
path; a command that is rooted or to be looked up stays as it is, and so does everything else. Made
absolute again in whatever directory, such a toolchain is the same and has the same cache keys. -/
theorem absolute_settles (toolchain : Toolchain) {here : Bytes}
    (hhere : Path.isRooted here = true) :
    let made := toolchain.absolute here
    (made.optimisation = toolchain.optimisation ∧ made.compileArgs = toolchain.compileArgs ∧
      made.linkArgs = toolchain.linkArgs ∧ made.libraryVersion = toolchain.libraryVersion) ∧
    List.Forall₂ (Path.IsPlaceOf here) toolchain.includeDirs made.includeDirs ∧
    (Path.slash ∉ toolchain.command ∨ Path.isRooted toolchain.command = true →
      made.command = toolchain.command) ∧
    (Path.slash ∈ toolchain.command → Path.isRooted toolchain.command = false →
      Path.IsPlaceOf here toolchain.command made.command) ∧
    ∀ there, made.absolute there = made ∧
      ∀ source, CacheKey.compute (made.absolute there) source = CacheKey.compute made source := by
  intro made
  have hmade : made.includeDirs = toolchain.includeDirs.map (Path.absolute here) := rfl
  have hdirs : List.Forall₂ (Path.IsPlaceOf here) toolchain.includeDirs made.includeDirs := by
    rw [hmade, List.forall₂_map_right_iff, List.forall₂_same]
    exact fun dir _ => Path.isPlaceOf_absolute hhere dir
  have hkept : Path.slash ∉ toolchain.command ∨ Path.isRooted toolchain.command = true →
      made.command = toolchain.command := by
    rintro (hslash | hrooted)
    · simp [made, absolute, hslash]
    · simp [made, absolute, hrooted]
  have hplaced : Path.slash ∈ toolchain.command → Path.isRooted toolchain.command = false →
      Path.IsPlaceOf here toolchain.command made.command := by
    intro hslash hrooted
    have hcommand : made.command = Path.absolute here toolchain.command := by
      simp [made, absolute, hslash, hrooted]
    exact hcommand ▸ Path.isPlaceOf_absolute hhere _
  refine ⟨⟨rfl, rfl, rfl, rfl⟩, hdirs, hkept, hplaced, fun there => ?_⟩
  have hcommand : Path.slash ∉ made.command ∨ Path.isRooted made.command = true := by
    by_cases hsettled : Path.slash ∉ toolchain.command ∨ Path.isRooted toolchain.command = true
    · rwa [hkept hsettled]
    · rw [not_or, not_not, Bool.not_eq_true] at hsettled
      obtain ⟨_, hnormal, -⟩ := (hplaced hsettled.1 hsettled.2).normal
      exact .inr (by rw [hnormal]; rfl)
  have hsame : made.includeDirs.map (Path.absolute there) = made.includeDirs := by
    rw [hmade, List.map_map]
    exact List.map_congr_left fun dir _ =>
      (Path.isPlaceOf_absolute hhere dir).normal.absolute_eq there
  have hagain : made.absolute there = made := by
    rcases hcommand with hslash | hrooted
    · simp [absolute, hslash, hsame]
    · simp [absolute, hrooted, hsame]
  exact ⟨hagain, fun source => by rw [hagain]⟩

/-- A current directory that is not clean, and include directories that are empty, lead above the root
or go back and forth. -/
theorem absolute_settles_oddPaths :
    let toolchain : Toolchain := { Toolchain.standard with
      command := bytes "./tools//../cc"
      includeDirs := [[], bytes "../../..//x/./", bytes "/../y//b/..", bytes "../v"] }
    let made := toolchain.absolute (bytes "/w//./v/../u/")
    Path.isRooted (bytes "/w//./v/../u/") = true ∧ made.command = bytes "/w/u/cc" ∧
      made.includeDirs = [bytes "/w/u", bytes "/x", bytes "/y", bytes "/w/v"] ∧
      made.absolute (bytes "/elsewhere") = made ∧
      CacheKey.compute (made.absolute (bytes "/elsewhere")) (bytes "s")
        = CacheKey.compute made (bytes "s") := by
  intro toolchain made
  have hhere : Path.isRooted (bytes "/w//./v/../u/") = true := by decide
  obtain ⟨hagain, hkey⟩ := (absolute_settles toolchain hhere).2.2.2.2 (bytes "/elsewhere")
  exact ⟨hhere, by decide, by decide, hagain, hkey _⟩

end Toolchain

end Build

end FunctionChain
