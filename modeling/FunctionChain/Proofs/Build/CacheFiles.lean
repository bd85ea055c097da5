import FunctionChain.Build.Cache
import FunctionChain.Proofs.Files.Shelf
import FunctionChain.Proofs.Text.Decimal

/-!
# Caches in directories

A cache in a directory keeps one file for each key, in a directory for keys that start alike.
Different keys have different files, and the temporary file that is made for one of them is the file
of none (`temporary_ne_entryPath`). The cache directory is a shelf, so storing an artifact spares the
files of all other keys: what is found at them is what was last stored (`Stocks`).
-/

namespace FunctionChain

namespace Hex

/-- A byte is written by two hexadecimal digits. -/
theorem length_ofBytes (text : Bytes) : (ofBytes text).length = 2 * text.length := by
  induction text with
  | nil => rfl
  | cons b rest ih =>
    have hcons : ofBytes (b :: rest) = padded b.toNat 2 ++ ofBytes rest := rfl
    rw [hcons, List.length_append, ih, List.length_cons]
    simp [padded]
    omega

end Hex

namespace Build

open Files (Action Tree Node Location IsShelf Spares AddsDirectories IsWritten)
open Files.Action (FailsByFault)
open Files.Tree (Alike)

/-! ## Keys -/

/-- Sixty-four hexadecimal digits in lower case. -/
structure IsKey (key : Bytes) : Prop where
  length : key.length = 64
  digits : ∀ b ∈ key, byte '0' ≤ b ∧ b ≤ byte '9' ∨ byte 'a' ≤ b ∧ b ≤ byte 'f'

instance (key : Bytes) : Decidable (IsKey key) :=
  decidable_of_iff (key.length = 64 ∧ (key.all fun b =>
      byte '0' ≤ b && b ≤ byte '9' || byte 'a' ≤ b && b ≤ byte 'f') = true)
    ⟨fun ⟨length, digits⟩ => ⟨length, by simpa using digits⟩,
      fun h => ⟨h.length, by simpa using h.digits⟩⟩

/-- Hexadecimal digits are decimal ones or small letters. -/
theorem digit_isHex (n : Nat) :
    byte '0' ≤ Hex.digit n ∧ Hex.digit n ≤ byte '9' ∨
      byte 'a' ≤ Hex.digit n ∧ Hex.digit n ≤ byte 'f' := by
  have hdigits : ∀ digit < 16, byte '0' ≤ Hex.digit digit ∧ Hex.digit digit ≤ byte '9' ∨
      byte 'a' ≤ Hex.digit digit ∧ Hex.digit digit ≤ byte 'f' := by decide
  have hdigit : Hex.digit n = Hex.digit (n % 16) := by simp [Hex.digit]
  rw [hdigit]
  exact hdigits (n % 16) (Nat.mod_lt n (by decide))

/-- The key of a source is one. -/
theorem isKey_compute (toolchain : Toolchain) (source : Bytes) :
    IsKey (CacheKey.compute toolchain source) := by
  refine ⟨Hex.length_ofBytes _, fun b hb => ?_⟩
  obtain ⟨digest, -, hdigits⟩ := List.mem_flatMap.1 hb
  have hdigits : b = Hex.digit (digest.toNat / 16) ∨ b = Hex.digit digest.toNat := by
    simpa [Hex.padded] using hdigits
  rcases hdigits with rfl | rfl <;> exact digit_isHex _

namespace IsKey

variable {key : Bytes} (h : IsKey key)
include h

/-- There is no slash in a key. -/
theorem slash_not_mem : Path.slash ∉ key := fun hmem =>
  absurd (h.digits _ hmem) (by decide)

/-- There is no dot in a key. -/
theorem dot_not_mem : byte '.' ∉ key := fun hmem =>
  absurd (h.digits _ hmem) (by decide)

/-- A key is long enough to have a beginning of two digits. -/
theorem length_take : (key.take 2).length = 2 := by
  rw [List.length_take, h.length]
  rfl

/-- The directory for keys that start like this one. -/
theorem isPlain_take : Path.IsPlain (key.take 2) ∧ Path.slash ∉ key.take 2 := by
  have hlength := h.length_take
  refine ⟨⟨?_, ?_, ?_⟩, fun hmem => h.slash_not_mem (List.mem_of_mem_take hmem)⟩
  · intro hnil
    rw [hnil] at hlength
    cases hlength
  · intro hsame
    rw [hsame] at hlength
    cases hlength
  · intro hup
    have hdot : byte '.' ∈ key.take 2 := by
      rw [hup]
      exact List.mem_cons_self
    exact h.dot_not_mem (List.mem_of_mem_take hdot)

end IsKey

/-- The name of the file for a key. -/
def IsEntryName (name : Bytes) : Prop := ∃ key, IsKey key ∧ name = key ++ bytes ".bin"

/-- The name of an entry is as long as a key and its ending. -/
theorem IsEntryName.length {name : Bytes} (h : IsEntryName name) : name.length = 68 := by
  obtain ⟨key, hkey, rfl⟩ := h
  rw [List.length_append, hkey.length]
  rfl

/-- The name of an entry is a plain one. -/
theorem isPlain_entryName (name : Bytes) (h : IsEntryName name) :
    Path.IsPlain name ∧ Path.slash ∉ name := by
  have hlength := h.length
  obtain ⟨key, hkey, rfl⟩ := h
  refine ⟨⟨?_, ?_, ?_⟩, ?_⟩
  · intro hnil
    rw [hnil] at hlength
    cases hlength
  · intro hsame
    rw [hsame] at hlength
    cases hlength
  · intro hup
    rw [hup] at hlength
    cases hlength
  · rw [List.mem_append, not_or]
    exact ⟨hkey.slash_not_mem, by decide⟩

namespace Cache

/-! ## The files of keys -/

/-- How long a path is depends on how long its last name is. -/
theorem length_ofNames_concat (rooted : Bool) (names : List Bytes) {first second : Bytes}
    (h : first.length = second.length) :
    (Path.ofNames rooted (names ++ [first])).length
      = (Path.ofNames rooted (names ++ [second])).length := by
  by_cases hne : names = []
  · subst hne
    cases rooted <;> simp [Path.ofNames, Bytes.joined, h]
  · rw [Path.ofNames_concat hne, Path.ofNames_concat hne]
    simp [h]

section Entry

variable (directory : Bytes) {key : Bytes} (h : IsKey key)
include h

/-- The path of an entry by its names. -/
theorem entryPath_eq :
    entryPath directory key = Path.ofNames (Path.isRooted directory)
      (Path.cleaned directory ++ [key.take 2, key ++ bytes ".bin"]) := by
  have hlong : ¬ key.length < 2 := by
    rw [h.length]
    decide
  have hnames := isPlain_entryName _ ⟨key, h, rfl⟩
  rw [entryPath, if_neg hlong, Path.join_names directory (List.cons_ne_nil _ _)
    (Files.forall_isPlain_file isPlain_entryName h.isPlain_take.1 ⟨key, h, rfl⟩)]
  · rfl
  · simpa using And.intro h.isPlain_take.2 hnames.2

/-- The path of an entry ends in its name. -/
theorem entryPath_append :
    entryPath directory key = Path.ofNames (Path.isRooted directory)
      (Path.cleaned directory ++ [key.take 2]) ++ Path.slash :: (key ++ bytes ".bin") := by
  rw [entryPath_eq directory h, List.append_cons, Path.ofNames_concat (by simp)]

/-- An entry is in the directory of the beginning of its key. -/
theorem parent_entryPath :
    Path.parent (entryPath directory key) = Path.ofNames (Path.isRooted directory)
      (Path.cleaned directory ++ [key.take 2]) := by
  have hnames := (Path.areNames_cleaned directory).concat h.isPlain_take.1 h.isPlain_take.2
  have hslash := (isPlain_entryName _ ⟨key, h, rfl⟩).2
  rw [entryPath_append directory h, Path.parent_append (Path.ofNames_ne_nil hnames) hslash,
    Path.clean_ofNames hnames]

/-- The last name in the path of an entry. -/
theorem base_entryPath : Path.base (entryPath directory key) = key ++ bytes ".bin" := by
  obtain ⟨hplain, hslash⟩ := isPlain_entryName _ ⟨key, h, rfl⟩
  rw [entryPath_append directory h, Path.base_append hplain.notEmpty hslash]

/-- Different keys have different files. -/
theorem entryPath_inj {other : Bytes} (hother : IsKey other)
    (heq : entryPath directory key = entryPath directory other) : key = other := by
  have hbase := congrArg Path.base heq
  rw [base_entryPath directory h, base_entryPath directory hother] at hbase
  exact List.append_cancel_right hbase

/-- The temporary file beside the file of a key is not the file of any key. -/
theorem temporary_ne_entryPath {other : Bytes} (hother : IsKey other) (number : Nat) :
    Files.inside (Path.parent (entryPath directory key))
      (Path.base (entryPath directory key) ++ bytes ".tmp." ++ Decimal.ofNat number)
        ≠ entryPath directory other := by
  intro heq
  -- The directories have names of one length, and the temporary name is longer than the others.
  have hlength := congrArg List.length heq
  have hdirectories := length_ofNames_concat (Path.isRooted directory) (Path.cleaned directory)
    (h.length_take.trans hother.length_take.symm)
  have hname := IsEntryName.length ⟨key, h, rfl⟩
  have hotherName := IsEntryName.length ⟨other, hother, rfl⟩
  have hnumber := List.length_pos_iff.2 (Decimal.ofNat_ne_nil number)
  have hmark : (bytes ".tmp.").length = 5 := by decide
  rw [parent_entryPath directory h, base_entryPath directory h, entryPath_append directory hother]
    at hlength
  unfold Files.inside at hlength
  split at hlength <;>
    simp only [List.length_append, List.length_cons, hmark] at hlength hname hotherName <;> omega

end Entry

/-! ## What a cache directory has -/

/-- `Stocks directory tree known`: the cache directory has the artifacts that are known, each in the
file of its key, and no others. -/
structure Stocks (directory : Bytes) (tree : Tree) (known : Bytes → Option Bytes) : Prop where
  shelf : IsShelf IsEntryName (Path.isRooted directory) (Path.cleaned directory) tree
  found : ∀ key, IsKey key → ∀ node, tree.stat (entryPath directory key) = .ok node ↔
    (known key).map (.file 0o644) = some node

/-- There is nothing in the cache directory, if there is one. -/
structure IsVacant (directory : Bytes) (tree : Tree) : Prop where
  proper : tree.IsProper
  empty : ∀ root, tree.reach (Path.isRooted directory) (Path.cleaned directory) = .ok root →
    ∀ name, tree.isTaken (root ++ [name]) = false

variable {directory : Bytes} {tree after : Tree} {known : Bytes → Option Bytes}

/-- The path of an entry leads to its place below the directory of the cache. -/
theorem reach_of_locateBy_entry {key : Bytes} (hkey : IsKey key)
    (hshelf : IsShelf IsEntryName (Path.isRooted directory) (Path.cleaned directory) tree)
    {follows : Bool} {location : Location}
    (h : tree.locateBy follows (entryPath directory key) = .ok location) :
    ∃ root, tree.reach (Path.isRooted directory) (Path.cleaned directory) = .ok root ∧
      location = root ++ [key.take 2, key ++ bytes ".bin"] := by
  rw [entryPath_eq directory hkey] at h
  exact Files.reach_of_locateBy_file (Path.areNames_cleaned directory) isPlain_entryName
    hkey.isPlain_take.1 hkey.isPlain_take.2 ⟨key, hkey, rfl⟩ hshelf h

/-- A vacant directory stocks nothing. -/
theorem IsVacant.stocks (h : IsVacant directory tree) : Stocks directory tree fun _ => none := by
  have hshelf : IsShelf IsEntryName (Path.isRooted directory) (Path.cleaned directory) tree :=
    ⟨h.proper, fun root hroot sub file _ =>
      h.proper.isLinkFree_of_not_taken (h.empty root hroot sub) [file]⟩
  refine ⟨hshelf, fun key hkey node => iff_of_false (fun hstat => ?_) nofun⟩
  obtain ⟨location, hlocation, hnode⟩ := Files.stat_eq_ok_iff.1 hstat
  obtain ⟨root, hroot, rfl⟩ := reach_of_locateBy_entry hkey hshelf hlocation
  rw [List.append_cons] at hnode
  have htaken : tree.isTaken (root ++ [key.take 2] ++ [key ++ bytes ".bin"]) = true := by
    rw [Tree.isTaken, hnode]
    rfl
  exact Bool.noConfusion ((h.empty root hroot _).symm.trans (h.proper _ _ htaken).isTaken)

/-- What a cache directory answers is what stands at the file of the key. -/
theorem lookup_of_stat [DatabaseLibrary] {key content : Bytes} {mode : Nat}
    (hstat : tree.stat (entryPath directory key) = .ok (.file mode content)) :
    ((Cache.directory directory).lookup key).on tree = (.ok (some content), tree) := by
  unfold Cache.lookup
  dsimp only
  rw [Files.on_get_bind, hstat]
  dsimp only
  rw [Action.on_bind, Action.on_labelled, Files.on_contents hstat]
  rfl

/-- Nothing is found of an entry that is not there. -/
theorem lookup_of_missing [DatabaseLibrary] {key : Bytes}
    (hstat : tree.stat (entryPath directory key) = .error .notFound) :
    ((Cache.directory directory).lookup key).on tree = (.ok none, tree) := by
  unfold Cache.lookup
  dsimp only
  rw [Files.on_get_bind, hstat]
  rfl

/-- An entry that cannot be reached is an error. -/
theorem lookup_of_error [DatabaseLibrary] {key : Bytes} {reason : Files.Reason}
    (hstat : tree.stat (entryPath directory key) = .error reason) (hreason : reason ≠ .notFound) :
    ((Cache.directory directory).lookup key).on tree
      = (.error (.wrap (bytes "reading cache entry")
          (.file ⟨bytes "open", [entryPath directory key], reason⟩)), tree) := by
  have hcontents : (Files.contents (entryPath directory key)).on tree
      = (.error (.file ⟨bytes "open", [entryPath directory key], reason⟩), tree) := by
    rw [Files.contents, Files.on_get_bind, hstat]
    rfl
  unfold Cache.lookup
  dsimp only
  rw [Files.on_get_bind, hstat]
  split
  · next heq => cases heq; exact absurd rfl hreason
  · rw [Action.on_bind, Action.on_labelled, hcontents]

/-- If a lookup does not fail, nothing stands at the path of the key, or the file that is found. -/
theorem lookup_ok [DatabaseLibrary] {key : Bytes} {found : Option Bytes}
    (h : ((Cache.directory directory).lookup key).on tree = (.ok found, after)) :
    tree.stat (entryPath directory key) = .error .notFound ∧ found = none ∨
      ∃ mode content, tree.stat (entryPath directory key) = .ok (.file mode content) ∧
        found = some content := by
  unfold Cache.lookup at h
  dsimp only at h
  rw [Files.on_get_bind] at h
  split at h
  · next hstat =>
    cases h
    exact .inl ⟨hstat, rfl⟩
  · obtain ⟨content, middle, hcontents, hlast⟩ := Files.bind_eq_ok h
    obtain ⟨-, mode, hstat⟩ := Files.contents_ok (Files.labelled_eq_ok hcontents)
    cases hlast
    exact .inr ⟨mode, content, hstat, rfl⟩

/-- A lookup gives what is known, or a file operation fails. -/
theorem Stocks.lookup [DatabaseLibrary] (h : Stocks directory tree known) {key : Bytes}
    (hkey : IsKey key) :
    ((Cache.directory directory).lookup key).on tree = (.ok (known key), tree) ∨
      ∃ error, ((Cache.directory directory).lookup key).on tree = (.error error, tree) ∧
        error.IsFault := by
  have hfound := h.found key hkey
  cases hknown : known key with
  | some content =>
    rw [hknown] at hfound
    exact .inl (lookup_of_stat ((hfound (.file 0o644 content)).2 rfl))
  | none =>
    rw [hknown] at hfound
    cases hstat : tree.stat (entryPath directory key) with
    | ok node => cases (hfound node).1 hstat
    | error reason =>
      by_cases hreason : reason = .notFound
      · exact .inl (lookup_of_missing (hreason ▸ hstat))
      · exact .inr ⟨_, lookup_of_error hstat hreason, trivial⟩

/-! ## Storing an artifact -/

/-- The files of the keys of a kind, by the names of their directories and their own. -/
def AreEntries (isOne : Bytes → Prop) (sub name : Bytes) : Prop :=
  ∃ key, IsKey key ∧ isOne key ∧ sub = key.take 2 ∧ name = key ++ bytes ".bin"

/-- The names of entries and their directories are plain. -/
theorem AreEntries.isPlain {isOne : Bytes → Prop} (sub name : Bytes)
    (h : AreEntries isOne sub name) :
    Path.IsPlain sub ∧ Path.slash ∉ sub ∧ IsEntryName name := by
  obtain ⟨key, hkey, -, rfl, rfl⟩ := h
  exact ⟨hkey.isPlain_take.1, hkey.isPlain_take.2, key, hkey, rfl⟩

/-- What is spared of the keys of a kind is found as before. -/
theorem stat_of_spares {isOne : Bytes → Prop} {key : Bytes} (hkey : IsKey key) (hone : isOne key)
    (hshelf : IsShelf IsEntryName (Path.isRooted directory) (Path.cleaned directory) tree)
    (h : Spares IsEntryName (Path.isRooted directory) (Path.cleaned directory) (AreEntries isOne)
      tree after) (node : Node) :
    after.stat (entryPath directory key) = .ok node ↔
      tree.stat (entryPath directory key) = .ok node := by
  rw [entryPath_eq directory hkey]
  exact ((h hshelf).2 _ _ ⟨key, hkey, hone, rfl, rfl⟩).found node

/-- The directory for a key holds nothing if it has just been made, and nothing stood below its path
before. -/
theorem stat_ne_ok_of_made {key : Bytes} (hkey : IsKey key) {place : Location}
    (hmade : Files.HasMade tree after (Path.parent (entryPath directory key)) place)
    (hempty : ∀ name, after.isTaken (place ++ [name]) = false)
    (hmissing : tree.isThere (Path.parent (entryPath directory key)) = false) (node : Node) :
    tree.stat (entryPath directory key) ≠ .ok node ∧
      after.stat (entryPath directory key) ≠ .ok node := by
  have hnames := (Path.areNames_cleaned directory).concat hkey.isPlain_take.1 hkey.isPlain_take.2
  obtain ⟨hplain, hslash⟩ := isPlain_entryName _ ⟨key, hkey, rfl⟩
  have hpath := entryPath_eq directory hkey
  rw [List.append_cons] at hpath
  rw [parent_entryPath directory hkey] at hmade hmissing
  rw [hpath]
  constructor
  · intro hstat
    obtain ⟨location, hlocation, -⟩ := Files.stat_eq_ok_iff.1 hstat
    obtain ⟨above, habove, ⟨mode, hmode⟩, -⟩ :=
      Tree.locate_of_locateBy_concat hnames (by simp) hplain hslash hlocation
    have hthere := Files.stat_eq_ok_iff.2 ⟨above, habove, hmode⟩
    simp [Tree.isThere, hthere] at hmissing
  · intro hstat
    obtain ⟨location, hlocation, hnode⟩ := Files.stat_eq_ok_iff.1 hstat
    obtain ⟨hfree, hlink⟩ := Tree.isTaken_eq_false_iff.1 (hempty (key ++ bytes ".bin"))
    obtain rfl := Tree.eq_of_locateBy_concat hnames (by simp) hplain hslash hlocation hmade.leads
      hlink
    cases hfree.symm.trans hnode

/-- Making the directory for a key leaves what is known. -/
theorem Stocks.makeDirectories (h : Stocks directory tree known) {key : Bytes} (hkey : IsKey key)
    (hmake : (Files.makeDirectories (Path.parent (entryPath directory key)) 0o755).on tree
      = (.ok (), after)) : Stocks directory after known := by
  have hspares : Spares IsEntryName (Path.isRooted directory) (Path.cleaned directory)
      (AreEntries fun other => other.take 2 ≠ key.take 2) tree after := by
    have hrelates := Files.makeDirectoriesWithin_spares (Path.areNames_cleaned directory)
      isPlain_entryName (@AreEntries.isPlain fun other => other.take 2 ≠ key.take 2)
      hkey.isPlain_take.1 hkey.isPlain_take.2 ?_ 0o755
      ((Path.parent (entryPath directory key)).length + 1) (List.prefix_refl _) (by simp) tree
    · rw [← parent_entryPath directory hkey] at hrelates
      rw [Files.makeDirectories] at hmake
      rwa [hmake] at hrelates
    · rintro _ _ ⟨other, -, hne, rfl, rfl⟩ hprefix
      exact hne (List.cons_prefix_cons.1 hprefix).1.symm
  refine ⟨(hspares h.shelf).1, fun other hother node => ?_⟩
  rw [← h.found other hother]
  by_cases htake : other.take 2 = key.take 2
  · obtain ⟨place, hmade⟩ := Files.makeDirectoriesWithin_ok h.shelf.proper hmake
    rcases hmade.fresh with rfl | ⟨hmissing, hempty⟩
    · rfl
    · have hparent : Path.parent (entryPath directory key)
          = Path.parent (entryPath directory other) := by
        rw [parent_entryPath directory hkey, parent_entryPath directory hother, htake]
      rw [hparent] at hmade hmissing
      obtain ⟨hbefore, hafter⟩ := stat_ne_ok_of_made hother hmade hempty hmissing node
      exact iff_of_false hafter hbefore
  · exact stat_of_spares hother htake h.shelf hspares node

/-- Writing the file of a key makes its artifact known. -/
theorem Stocks.replaceFile (h : Stocks directory tree known) {key artifact : Bytes}
    (hkey : IsKey key)
    (hreplace : (Files.replaceFile (entryPath directory key) artifact 0o644).on tree
      = (.ok (), after)) : Stocks directory after (Function.update known key (some artifact)) := by
  have hspares : Spares IsEntryName (Path.isRooted directory) (Path.cleaned directory)
      (AreEntries (· ≠ key)) tree after := by
    have hrelates := Files.replaceFile_spares (Path.areNames_cleaned directory)
      isPlain_entryName (@AreEntries.isPlain (· ≠ key)) hkey.isPlain_take.1 hkey.isPlain_take.2
      ⟨key, hkey, rfl⟩ ?_ artifact 0o644 tree
    · rwa [← entryPath_eq directory hkey, hreplace] at hrelates
    · rintro _ _ ⟨other, -, hne, rfl, rfl⟩ hprefix
      obtain ⟨-, hname⟩ := List.cons_prefix_cons.1 hprefix
      exact hne (List.append_cancel_right (List.cons_prefix_cons.1 hname).1).symm
  refine ⟨(hspares h.shelf).1, fun other hother node => ?_⟩
  by_cases heq : other = key
  · subst heq
    obtain ⟨-, location, hlocation, hdir, hwritten⟩ := Files.replaceFile_ok hreplace
    obtain ⟨root, hroot, rfl⟩ := reach_of_locateBy_entry hkey h.shelf hlocation
    have hlink : tree.link? (root ++ [other.take 2, other ++ bytes ".bin"]) = none := by
      simpa using (h.shelf.links root hroot _ _ ⟨other, hkey, rfl⟩).2.1
    have hlocate := Tree.locate_of_locateName ((hwritten.keeps hdir hlink).locateBy hlocation)
      hwritten.link
    rw [Files.stat_eq_ok_iff.2 ⟨_, hlocate, hwritten.get⟩, Function.update_self, Option.map_some,
      Except.ok.injEq, Option.some.injEq]
  · rw [Function.update_of_ne heq, ← h.found other hother]
    exact stat_of_spares hother heq h.shelf hspares node

/-- An artifact that has been stored is known from then on. -/
theorem Stocks.store [DatabaseLibrary] (h : Stocks directory tree known) {key artifact : Bytes}
    (hkey : IsKey key) {changed : Cache}
    (hstore : ((Cache.directory directory).store key artifact).on tree = (.ok changed, after)) :
    changed = .directory directory ∧
      Stocks directory after (Function.update known key (some artifact)) := by
  obtain ⟨_, middle, hmake, hrest⟩ := Files.bind_eq_ok hstore
  obtain ⟨_, _, hreplace, hlast⟩ := Files.bind_eq_ok hrest
  cases hlast
  have hmiddle := h.makeDirectories hkey (Files.labelled_eq_ok hmake)
  exact ⟨rfl, hmiddle.replaceFile hkey (Files.labelled_eq_ok hreplace)⟩

/-- Storing in a directory fails by a fault at most. -/
theorem store_failsByFault [DatabaseLibrary] (directory key artifact : Bytes) :
    FailsByFault ((Cache.directory directory).store key artifact) :=
  ((Files.makeDirectoriesWithin_failsByFault _ _ _).labelled _).bind fun _ =>
    ((Files.replaceFile_failsByFault _ _ _).labelled _).bind fun _ =>
      Files.Action.failsByFault_pure _

/-- **What storing changes.** Whatever stood there before, directories aside nothing has changed but
the file that the path of the key names; and not even that if storing fails. -/
theorem store_changes [DatabaseLibrary] {key artifact : Bytes} {result : Except Error Cache}
    (hstore : ((Cache.directory directory).store key artifact).on tree = (result, after)) :
    ∃ middle, AddsDirectories tree middle ∧
      ((∃ error, result = .error error) ∧ Alike middle after ∨
        result = .ok (.directory directory) ∧
        ∃ location, middle.locateName (entryPath directory key) = .ok location ∧
          IsWritten middle location (.file 0o644 artifact) after) := by
  unfold Cache.store at hstore
  dsimp only at hstore
  rw [Action.on_bind, Action.on_labelled] at hstore
  rcases hmake : (Files.makeDirectories (Path.parent (entryPath directory key)) 0o755).on tree
    with ⟨made, middle⟩
  have hadds : AddsDirectories tree middle := by
    have hrelates := Files.makeDirectoriesWithin_adds 0o755
      ((Path.parent (entryPath directory key)).length + 1) (Path.parent (entryPath directory key))
      tree
    rw [Files.makeDirectories] at hmake
    rwa [hmake] at hrelates
  rw [hmake] at hstore
  refine ⟨middle, hadds, ?_⟩
  cases made with
  | error error =>
    cases hstore
    exact .inl ⟨⟨_, rfl⟩, .refl _⟩
  | ok _ =>
    dsimp only at hstore
    rw [Action.on_bind, Action.on_labelled] at hstore
    rcases hreplace : (Files.replaceFile (entryPath directory key) artifact 0o644).on middle
      with ⟨replaced, last⟩
    rw [hreplace] at hstore
    cases replaced with
    | error error =>
      cases hstore
      exact .inl ⟨⟨_, rfl⟩, Files.replaceFile_error hreplace⟩
    | ok _ =>
      cases hstore
      obtain ⟨-, location, hlocation, -, hwritten⟩ := Files.replaceFile_ok hreplace
      exact .inr ⟨rfl, location, hlocation, hwritten⟩

end Cache

end Build

end FunctionChain
