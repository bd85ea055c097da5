import FunctionChain.Build.Toolchain
import Mathlib.Algebra.Ring.Nat

/-!
# Cache keys tell inputs apart

What is digested for a cache key is written so that it can be read back: whatever follows a text
that stands after its length, the text and what follows it can be told apart (`field_append_inj`),
and so can a list of texts after its number (`fields_append_inj`). Lengths and numbers are written
in eight bytes, so all this holds of what is shorter than `2 ^ 64`.
-/

namespace FunctionChain

namespace Sha256

/-- A length is written by eight bytes. -/
theorem length_bigEndian64 (n : Nat) : (bigEndian64 n).length = 8 := rfl

/-- Numbers that agree above a byte and in it agree from it on. -/
theorem shiftRight_inj_of_byte (k : Nat) {m n : Nat} (habove : m >>> (k + 8) = n >>> (k + 8))
    (hbyte : (m >>> k).toUInt8 = (n >>> k).toUInt8) : m >>> k = n >>> k := by
  have hbyte : m >>> k % 256 = n >>> k % 256 := by simpa using congrArg UInt8.toNat hbyte
  have habove : m >>> k / 256 = n >>> k / 256 := by
    simpa [Nat.shiftRight_add, Nat.shiftRight_eq_div_pow _ 8] using habove
  omega

/-- A number below `2 ^ 64` is told by its eight bytes. -/
theorem bigEndian64_inj {m n : Nat} (hm : m < 2 ^ 64) (hn : n < 2 ^ 64)
    (h : bigEndian64 m = bigEndian64 n) : m = n := by
  simp only [bigEndian64, List.cons.injEq, and_true] at h
  obtain ⟨h56, h48, h40, h32, h24, h16, h8, h0⟩ := h
  have h64 : m >>> 64 = n >>> 64 := by
    rw [Nat.shiftRight_eq_div_pow, Nat.shiftRight_eq_div_pow, Nat.div_eq_of_lt hm,
      Nat.div_eq_of_lt hn]
  have h56 := shiftRight_inj_of_byte 56 h64 h56
  have h48 := shiftRight_inj_of_byte 48 h56 h48
  have h40 := shiftRight_inj_of_byte 40 h48 h40
  have h32 := shiftRight_inj_of_byte 32 h40 h32
  have h24 := shiftRight_inj_of_byte 24 h32 h24
  have h16 := shiftRight_inj_of_byte 16 h24 h16
  have h8 := shiftRight_inj_of_byte 8 h16 h8
  exact shiftRight_inj_of_byte 0 h8 h0

end Sha256

namespace Build

namespace CacheKey

open Sha256 (bigEndian64 bigEndian64_inj length_bigEndian64)

/-- Short enough for its length to be written in eight bytes. -/
def IsShort {α : Type} (list : List α) : Prop := list.length < 2 ^ 64

instance {α : Type} (list : List α) : Decidable (IsShort list) :=
  inferInstanceAs (Decidable (list.length < 2 ^ 64))

/-- Two lists that stand after their numbers have the same length. -/
theorem count_append_inj {α : Type} {s t : List α} (hs : IsShort s) (ht : IsShort t) {x y : Bytes}
    (h : bigEndian64 s.length ++ x = bigEndian64 t.length ++ y) : s.length = t.length ∧ x = y := by
  obtain ⟨hl, hr⟩ := List.append_inj h (by rw [length_bigEndian64, length_bigEndian64])
  exact ⟨bigEndian64_inj hs ht hl, hr⟩

/-- A text after its length can be told from what follows. -/
theorem field_append_inj {s t : Bytes} (hs : IsShort s) (ht : IsShort t) {x y : Bytes}
    (h : field s ++ x = field t ++ y) : s = t ∧ x = y := by
  simp only [field, List.append_assoc] at h
  obtain ⟨hl, hr⟩ := count_append_inj hs ht h
  exact List.append_inj hr hl

/-- A list of texts after its number can be told from what follows. -/
theorem fields_append_inj {s t : List Bytes} (hs : IsShort s) (ht : IsShort t)
    (hss : ∀ text ∈ s, IsShort text) (hts : ∀ text ∈ t, IsShort text) {x y : Bytes}
    (h : fields s ++ x = fields t ++ y) : s = t ∧ x = y := by
  simp only [fields, List.append_assoc] at h
  obtain ⟨hl, hr⟩ := count_append_inj hs ht h
  clear h hs ht
  -- The lists are equally long, so that they are gone through together.
  induction s generalizing t with
  | nil =>
    obtain rfl := List.length_eq_zero_iff.1 hl.symm
    exact ⟨rfl, hr⟩
  | cons a s ih =>
    cases t with
    | nil => cases hl
    | cons b t =>
      simp only [List.flatMap_cons, List.append_assoc] at hr
      simp only [List.forall_mem_cons] at hss hts
      obtain ⟨hab, hrest⟩ := field_append_inj hss.1 hts.1 hr
      obtain ⟨hst, hxy⟩ := ih hss.2 hts.2 (Nat.succ.inj hl) hrest
      exact ⟨by rw [hab, hst], hxy⟩

/-- All that is digested for a key is short enough for its length to be written, as everything is
that has a place in memory. -/
structure Fits (toolchain : Toolchain) (source : Bytes) : Prop where
  command : IsShort toolchain.command
  optimisation : IsShort toolchain.optimisation
  includeDirs : IsShort toolchain.includeDirs ∧ ∀ text ∈ toolchain.includeDirs, IsShort text
  compileArgs : IsShort toolchain.compileArgs ∧ ∀ text ∈ toolchain.compileArgs, IsShort text
  linkArgs : IsShort toolchain.linkArgs ∧ ∀ text ∈ toolchain.linkArgs, IsShort text
  libraryVersion : IsShort toolchain.libraryVersion
  source : IsShort source

instance (toolchain : Toolchain) (source : Bytes) : Decidable (Fits toolchain source) :=
  decidable_of_iff
    (IsShort toolchain.command ∧ IsShort toolchain.optimisation ∧
      (IsShort toolchain.includeDirs ∧ ∀ text ∈ toolchain.includeDirs, IsShort text) ∧
      (IsShort toolchain.compileArgs ∧ ∀ text ∈ toolchain.compileArgs, IsShort text) ∧
      (IsShort toolchain.linkArgs ∧ ∀ text ∈ toolchain.linkArgs, IsShort text) ∧
      IsShort toolchain.libraryVersion ∧ IsShort source)
    ⟨fun ⟨a, b, c, d, e, f, g⟩ => ⟨a, b, c, d, e, f, g⟩,
      fun ⟨a, b, c, d, e, f, g⟩ => ⟨a, b, c, d, e, f, g⟩⟩

/-- What is digested tells the toolchain and the source. -/
theorem input_inj {t u : Toolchain} {s r : Bytes} (ht : Fits t s) (hu : Fits u r)
    (h : input t s = input u r) : t = u ∧ s = r := by
  rw [← List.append_nil (input t s), ← List.append_nil (input u r)] at h
  simp only [input, List.append_assoc] at h
  obtain ⟨hcommand, h⟩ := field_append_inj ht.command hu.command h
  obtain ⟨hoptimisation, h⟩ := field_append_inj ht.optimisation hu.optimisation h
  obtain ⟨hincludeDirs, h⟩ :=
    fields_append_inj ht.includeDirs.1 hu.includeDirs.1 ht.includeDirs.2 hu.includeDirs.2 h
  obtain ⟨hcompileArgs, h⟩ :=
    fields_append_inj ht.compileArgs.1 hu.compileArgs.1 ht.compileArgs.2 hu.compileArgs.2 h
  obtain ⟨hlinkArgs, h⟩ :=
    fields_append_inj ht.linkArgs.1 hu.linkArgs.1 ht.linkArgs.2 hu.linkArgs.2 h
  obtain ⟨hversion, h⟩ := field_append_inj ht.libraryVersion hu.libraryVersion h
  obtain ⟨hsource, -⟩ := field_append_inj ht.source hu.source h
  refine ⟨?_, hsource⟩
  cases t
  cases u
  simp_all only

/-- **Cache keys are unambiguous.** What is digested for a key tells the toolchain, field by field
and list by list, and the source: whatever the texts hold, no two inputs are written alike. -/
theorem input_unambiguous {t u : Toolchain} {s r : Bytes} (ht : Fits t s) (hu : Fits u r)
    (h : input t s = input u r) :
    t.command = u.command ∧ t.optimisation = u.optimisation ∧ t.includeDirs = u.includeDirs ∧
      t.compileArgs = u.compileArgs ∧ t.linkArgs = u.linkArgs ∧
      t.libraryVersion = u.libraryVersion ∧ s = r := by
  obtain ⟨rfl, rfl⟩ := input_inj ht hu h
  exact ⟨rfl, rfl, rfl, rfl, rfl, rfl, rfl⟩

/-- Two arguments are told from the one that they make up together. A command that is looked up is
digested the same wherever the toolchain is made absolute. -/
theorem input_tells_arguments :
    let two : Toolchain := { Toolchain.standard with compileArgs := [bytes "-a", bytes "b"] }
    let one : Toolchain := { Toolchain.standard with compileArgs := [bytes "-ab"] }
    input two (bytes "s") ≠ input one (bytes "s") ∧
      one.command = (one.absolute (bytes "/work")).command := by
  intro two one
  have htwo : Fits two (bytes "s") := by decide
  have hone : Fits one (bytes "s") := by decide
  have habsolute : Fits (one.absolute (bytes "/work")) (bytes "s") := by decide
  have hsame : input one (bytes "s") = input (one.absolute (bytes "/work")) (bytes "s") := rfl
  refine ⟨fun h => ?_, (input_unambiguous hone habsolute hsame).1⟩
  have hargs := (input_unambiguous htwo hone h).2.2.2.1
  exact absurd hargs (by decide)

end CacheKey

end Build

end FunctionChain
