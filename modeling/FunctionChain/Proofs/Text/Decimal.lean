import FunctionChain.Text.Decimal
import FunctionChain.Text.Integer
import Mathlib.Algebra.Ring.Nat

/-!
# Numerals read back

A number that is written in decimal is read as itself, also when zeros stand before it, and its
digits without leading zeros are a numeral of the grammar. Hexadecimal digits likewise stand for the
number they were written for.
-/

namespace FunctionChain

/-- The integers of a machine word. -/
def Word.IsSigned (n : Int) : Prop := -(Word.half : Int) ≤ n ∧ n < Word.half

instance (n : Int) : Decidable (Word.IsSigned n) := inferInstanceAs (Decidable (_ ∧ _))

/-- Zero is a signed number. -/
theorem Word.isSigned_zero : Word.IsSigned 0 := by decide

namespace Decimal

/-! ## Digits -/

/-- A digit as a byte. -/
theorem toNat_digit (n : Nat) : (digit n).toNat = 48 + n % 10 := by
  have h : 48 + n % 10 < 256 := by omega
  simpa [digit] using h

/-- The digits stand in a row. -/
theorem isDigit_iff {b : UInt8} : Bytes.isDigit b = true ↔ 48 ≤ b.toNat ∧ b.toNat ≤ 57 := by
  have h₀ : byte '0' = 48 := rfl
  have h₉ : byte '9' = 57 := rfl
  simp [Bytes.isDigit, h₀, h₉, UInt8.le_iff_toNat_le]

/-- The digit of a number is one. -/
theorem isDigit_digit (n : Nat) : Bytes.isDigit (digit n) = true := by
  rw [isDigit_iff, toNat_digit]
  omega

/-- A small number is one digit. -/
theorem ofNat_of_lt {n : Nat} (h : n < 10) : ofNat n = [digit n] := by
  rw [ofNat, if_pos h]

/-- Any other has its last digit behind the others. -/
theorem ofNat_of_not_lt {n : Nat} (h : ¬ n < 10) : ofNat n = ofNat (n / 10) ++ [digit n] := by
  rw [ofNat, if_neg h]

/-! ## Reading digits -/

/-- Digits are read from left to right. -/
theorem readDigits_append (acc : Nat) (s t : Bytes) :
    readDigits acc (s ++ t) = (readDigits acc s).bind fun acc => readDigits acc t := by
  induction s generalizing acc with
  | nil => rfl
  | cons b s ih =>
    simp only [List.cons_append, readDigits]
    split
    · exact ih _
    · rfl

/-- One more digit gives ten times as much and itself. -/
theorem readDigits_digit (acc n : Nat) : readDigits acc [digit n] = some (acc * 10 + n % 10) := by
  simp [readDigits, isDigit_digit, toNat_digit]

/-- The digits of a number are read as the number. -/
theorem readDigits_ofNat (n : Nat) : readDigits 0 (ofNat n) = some n := by
  induction n using ofNat.induct with
  | case1 n hn =>
    rw [ofNat_of_lt hn, readDigits_digit]
    simp [Nat.mod_eq_of_lt hn]
  | case2 n hn ih =>
    rw [ofNat_of_not_lt hn, readDigits_append, ih, Option.bind_some, readDigits_digit]
    congr 1
    omega

/-- A number has a digit at least. -/
theorem ofNat_ne_nil (n : Nat) : ofNat n ≠ [] := by
  rw [ofNat]
  split <;> simp

/-- A text that is not empty is read by its digits. -/
theorem toNat?_eq_readDigits {text : Bytes} (h : text ≠ []) : toNat? text = readDigits 0 text := by
  cases text with
  | nil => exact absurd rfl h
  | cons b rest => rfl

/-- A number that is written is read back. -/
theorem toNat?_ofNat (n : Nat) : toNat? (ofNat n) = some n := by
  rw [toNat?_eq_readDigits (ofNat_ne_nil n), readDigits_ofNat]

/-- All bytes of a numeral are digits. -/
theorem isDigit_of_mem_ofNat {n : Nat} {b : UInt8} (h : b ∈ ofNat n) : Bytes.isDigit b = true := by
  induction n using ofNat.induct with
  | case1 n hn =>
    rw [ofNat_of_lt hn, List.mem_singleton] at h
    exact h ▸ isDigit_digit n
  | case2 n hn ih =>
    rw [ofNat_of_not_lt hn, List.mem_append, List.mem_singleton] at h
    rcases h with h | rfl
    · exact ih h
    · exact isDigit_digit n

/-- A number other than zero is written with another first digit than zero. -/
theorem head?_ofNat {n : Nat} (h : n ≠ 0) : (ofNat n).head? ≠ some (byte '0') := by
  induction n using ofNat.induct with
  | case1 n hn =>
    rw [ofNat_of_lt hn, List.head?_cons, ne_eq, Option.some.injEq, ← UInt8.toNat_inj, toNat_digit]
    have h₀ : (byte '0').toNat = 48 := rfl
    omega
  | case2 n hn ih =>
    rw [ofNat_of_not_lt hn, List.head?_append, List.head?_eq_some_head (ofNat_ne_nil _),
      Option.some_or, ← List.head?_eq_some_head]
    exact ih (by omega)

/-- Different integers are written differently. -/
theorem ofInt_inj {m n : Int} (h : ofInt m = ofInt n) : m = n := by
  have hnat {k l : Nat} (h : ofNat k = ofNat l) : k = l := by
    have hread := congrArg (readDigits 0) h
    rwa [readDigits_ofNat, readDigits_ofNat, Option.some.injEq] at hread
  have hsign {k l : Nat} (h : ofNat k = byte '-' :: ofNat l) : False := by
    have hdigit : Bytes.isDigit (byte '-') = true := isDigit_of_mem_ofNat (n := k) (by simp [h])
    exact absurd hdigit (by decide)
  cases m with
  | ofNat k =>
    cases n with
    | ofNat l => exact congrArg Int.ofNat (hnat h)
    | negSucc l => exact (hsign h).elim
  | negSucc k =>
    cases n with
    | ofNat l => exact (hsign h.symm).elim
    | negSucc l => exact congrArg Int.negSucc (Nat.succ.inj (hnat (List.cons.inj h).2))

/-! ## Leading zeros -/

/-- A small number padded to one digit. -/
theorem padded_one {n : Nat} (h : n < 10) : padded n 1 = [digit n] := by
  simp [padded, ofNat, h]

/-- With room for at least two digits, the last one can be taken off. -/
theorem padded_succ (n width : Nat) :
    padded n (width + 2) = padded (n / 10) (width + 1) ++ [digit n] := by
  by_cases h : n < 10
  · have h₀ : digit 0 = byte '0' := rfl
    simp [padded, ofNat, h, Nat.div_eq_of_lt h, List.replicate_succ', h₀]
  · rw [padded, padded, ofNat_of_not_lt h, List.length_append, List.length_singleton,
      List.append_assoc, Nat.add_sub_add_right (width + 1) 1]

/-- A number padded to two digits. -/
theorem padded_two {n : Nat} (h : n < 100) : padded n 2 = [digit (n / 10), digit n] := by
  rw [padded_succ, padded_one (by omega)]
  rfl

/-- A number padded to four digits. -/
theorem padded_four {n : Nat} (h : n < 10000) :
    padded n 4 = [digit (n / 1000), digit (n / 100), digit (n / 10), digit n] := by
  rw [padded_succ, padded_succ, padded_two (by omega)]
  simp [Nat.div_div_eq_div_mul]

/-- Leading zeros do not count. -/
theorem readDigits_padded (n width : Nat) : readDigits 0 (padded n width) = some n := by
  have hzeros (k : Nat) : readDigits 0 (List.replicate k (byte '0')) = some 0 := by
    induction k with
    | zero => rfl
    | succ k ih => exact ih
  rw [padded, readDigits_append, hzeros, Option.bind_some, readDigits_ofNat]

/-- Padding adds digits only. -/
theorem isDigit_of_mem_padded {n width : Nat} {b : UInt8} (h : b ∈ padded n width) :
    Bytes.isDigit b = true := by
  rcases List.mem_append.1 h with h | h
  · rw [List.eq_of_mem_replicate h]
    rfl
  · exact isDigit_of_mem_ofNat h

/-- A number that is not too large has the width it is padded to. -/
theorem length_padded {n : Nat} (width : Nat) (h : n < 10 ^ (width + 1)) :
    (padded n (width + 1)).length = width + 1 := by
  induction width generalizing n with
  | zero => rw [padded_one (by simpa using h)]; rfl
  | succ width ih =>
    rw [padded_succ, List.length_append, ih (by rw [Nat.pow_succ] at h; omega)]
    rfl

end Decimal

namespace Hex

/-- A hexadecimal digit is read as the number it was written for. -/
theorem value?_digit (n : Nat) : value? (digit n) = some (n % 16) := by
  have hdigit : digit n = digit (n % 16) := by simp [digit]
  have hall : ∀ m < 16, value? (digit m) = some m := by decide
  rw [hdigit, hall _ (Nat.mod_lt _ (by decide))]

/-- Hexadecimal digits are ASCII. -/
theorem low_of_mem_ofBytes {text : Bytes} {b : UInt8} (h : b ∈ ofBytes text) : b.toNat < 0x80 := by
  have hdigit (n : Nat) : (digit n).toNat < 0x80 := by
    have hall : ∀ m < 16, (digit m).toNat < 0x80 := by decide
    have hmod : digit n = digit (n % 16) := by simp [digit]
    rw [hmod]
    exact hall _ (Nat.mod_lt _ (by decide))
  obtain ⟨a, -, hb⟩ := List.mem_flatMap.1 h
  simp only [padded, List.nil_append, List.cons_append, List.mem_cons, List.not_mem_nil,
    or_false] at hb
  rcases hb with rfl | rfl <;> exact hdigit _

/-- A number padded to four hexadecimal digits. -/
theorem padded_four (n : Nat) :
    padded n 4 = [digit (n / 4096), digit (n / 256), digit (n / 16), digit n] := by
  simp [padded, Nat.div_div_eq_div_mul]

end Hex

end FunctionChain
