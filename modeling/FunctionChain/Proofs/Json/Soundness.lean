import FunctionChain.Json.Scan
import FunctionChain.Proofs.Json.Grammar

/-!
# What the scanner has read

The scanner is a machine that looks at one byte at a time, so what it has read so far is rarely a
value. `Reads` says what it is: a text that has opened the machine's frames, each with the items or
members it holds, and after it the beginning of whatever the machine is reading. One step keeps
this relation (`step_sound`), so a run does (`scanFrom_sound`), and a run that ends with a value has
read white space and a text that spells the value.

The bound on nesting is part of the relation: a frame is opened only below `maxDepth` others, so
whatever is completed inside it is not nested too deep.
-/

namespace FunctionChain

namespace Json

/-! ## Letters

The machine tests bytes by functions of its own; they accept the letters of the grammar.
-/

/-- The blanks of the scanner are those of the grammar. -/
theorem isSpace_iff {b : UInt8} : isSpace b = true ↔ Space b := by
  simp only [isSpace, Space, Bool.or_eq_true, beq_iff_eq]
  grind

/-- The digits of the scanner are those of the grammar. -/
theorem isDigit_iff {b : UInt8} : Bytes.isDigit b = true ↔ Digit b := by
  rw [Bytes.isDigit, Bool.and_eq_true, decide_eq_true_eq, decide_eq_true_eq]
  rfl

/-- Hexadecimal digits are those that have a value. -/
theorem hexValue_isSome_iff {b : UInt8} : (Hex.value? b).isSome = true ↔ HexDigit b := by
  rw [Hex.value?, HexDigit, ← isDigit_iff]
  have lower : (byte 'a' ≤ b && b ≤ byte 'f') = true ↔ 0x61 ≤ b ∧ b ≤ 0x66 := by
    rw [Bool.and_eq_true, decide_eq_true_eq, decide_eq_true_eq]
    rfl
  have upper : (byte 'A' ≤ b && b ≤ byte 'F') = true ↔ 0x41 ≤ b ∧ b ≤ 0x46 := by
    rw [Bool.and_eq_true, decide_eq_true_eq, decide_eq_true_eq]
    rfl
  split
  · simp [*]
  · rw [← lower, ← upper]
    split
    · simp [*]
    · split <;> simp [*]

/-- The letters of escapes are those of the grammar. -/
theorem escapeLetters_contains_iff {b : UInt8} :
    (bytes "bfnrt\\/\"").contains b = true ↔ b ∈ escapeLetters := by
  have same : bytes "bfnrt\\/\"" = [0x62, 0x66, 0x6E, 0x72, 0x74, 0x5C, 0x2F, 0x22] := rfl
  rw [same, List.contains_iff_mem]
  simp only [escapeLetters, List.mem_cons, List.not_mem_nil, or_false]
  grind

/-! ## Inside strings -/

/-- What has been read of a string, by the part that is being read. -/
inductive StringRead : StringPart → Bytes → Prop where
  | plain {t : Bytes} : Characters t → StringRead .plain t
  | escape {t : Bytes} : Characters t → StringRead .escape (t ++ [0x5C])
  | hex {t ds : Bytes} {missing : Nat} : Characters t → (∀ d ∈ ds, HexDigit d) →
      ds.length + missing = 4 → 0 < missing → StringRead (.hex missing) (t ++ 0x5C :: 0x75 :: ds)

/-- Four digits make a code unit. -/
theorem Characters.concat_codeUnit {t ds : Bytes} (ht : Characters t) (hds : ∀ d ∈ ds, HexDigit d)
    (hlen : ds.length = 4) : Characters (t ++ 0x5C :: 0x75 :: ds) := by
  obtain ⟨a, b, c, d, rfl⟩ : ∃ a b c d, ds = [a, b, c, d] := by
    match ds, hlen with
    | [a, b, c, d], _ => exact ⟨a, b, c, d, rfl⟩
  simp only [List.forall_mem_cons] at hds
  obtain ⟨ha, hb, hc, hd, -⟩ := hds
  exact ht.append (.codeUnit ha hb hc hd .nil)

/-- One more byte of a string. -/
theorem stringStep_some {part part' : StringPart} {t : Bytes} {b : UInt8}
    (h : StringRead part t) (hs : stringStep part b = .ok (some part')) :
    StringRead part' (t ++ [b]) := by
  cases h with
  | plain ht =>
    simp only [stringStep] at hs
    split at hs
    · cases hs
    · next hq =>
      split at hs
      · next hb =>
        cases hs
        rw [eq_of_beq hb]
        exact .escape ht
      · next hb =>
        split at hs
        · cases hs
        · next hc =>
          cases hs
          refine .plain (ht.append (.plain (UInt8.not_lt.1 hc) ?_ ?_ .nil))
          · simpa using hq
          · simpa using hb
  | @escape t ht =>
    simp only [stringStep] at hs
    split at hs
    · next hu =>
      cases hs
      rw [eq_of_beq hu, List.append_assoc]
      exact .hex ht (by simp) rfl (by decide)
    · split at hs
      · next hl =>
        cases hs
        rw [List.append_assoc]
        exact .plain (ht.append (.escape (escapeLetters_contains_iff.1 hl) .nil))
      · cases hs
  | @hex t ds missing ht hds hlen hpos =>
    simp only [stringStep] at hs
    split at hs
    · next value hv =>
      have hb : HexDigit b := hexValue_isSome_iff.1 (by simp [hv])
      have hds' : ∀ d ∈ ds ++ [b], HexDigit d := by
        simp only [List.forall_mem_append, List.forall_mem_singleton]
        exact ⟨hds, hb⟩
      cases hs
      rw [List.append_assoc, List.cons_append, List.cons_append]
      split
      · next hm => exact .plain (ht.concat_codeUnit hds' (by simp; omega))
      · next hm => exact .hex ht hds' (by simp; omega) (by omega)
    · cases hs

/-- A string ends with a quote, between two characters. -/
theorem stringStep_none {part : StringPart} {t : Bytes} {b : UInt8}
    (h : StringRead part t) (hs : stringStep part b = .ok none) : b = 0x22 ∧ Characters t := by
  cases h with
  | plain ht =>
    simp only [stringStep] at hs
    split at hs
    · next hq => exact ⟨eq_of_beq hq, ht⟩
    · split at hs
      · cases hs
      · split at hs <;> cases hs
  | escape ht =>
    simp only [stringStep] at hs
    split at hs
    · cases hs
    · split at hs <;> cases hs
  | hex ht =>
    simp only [stringStep] at hs
    split at hs <;> cases hs

/-! ## Inside numbers -/

/-- What has been read of a number, by the part that is being read. -/
inductive NumberRead : NumberPart → Bytes → Prop where
  | minus : NumberRead .minus [0x2D]
  | zero {sign : Bytes} : Sign sign → NumberRead .zero (sign ++ [0x30])
  | integer {sign rest : Bytes} {b : UInt8} : Sign sign → Digit b → b ≠ 0x30 →
      (∀ d ∈ rest, Digit d) → NumberRead .integer (sign ++ b :: rest)
  | point {sign whole : Bytes} : Sign sign → Whole whole →
      NumberRead .point (sign ++ (whole ++ [0x2E]))
  | fraction {sign whole ds : Bytes} : Sign sign → Whole whole → Digits ds →
      NumberRead .fraction (sign ++ (whole ++ 0x2E :: ds))
  | exponent {sign whole fraction : Bytes} {e : UInt8} : Sign sign → Whole whole →
      Fraction fraction → e = 0x65 ∨ e = 0x45 →
      NumberRead .exponent (sign ++ (whole ++ (fraction ++ [e])))
  | exponentSign {sign whole fraction : Bytes} {e plus : UInt8} : Sign sign → Whole whole →
      Fraction fraction → e = 0x65 ∨ e = 0x45 → plus = 0x2B ∨ plus = 0x2D →
      NumberRead .exponentSign (sign ++ (whole ++ (fraction ++ [e, plus])))
  | exponentDigits {sign whole fraction exponent : Bytes} : Sign sign → Whole whole →
      Fraction fraction → Exponent exponent → exponent ≠ [] →
      NumberRead .exponentDigits (sign ++ (whole ++ (fraction ++ exponent)))

/-- A digit is a run of digits. -/
theorem Digits.singleton {b : UInt8} (hb : Digit b) : Digits [b] := by simp [Digits, hb]

/-- A run of digits with one more is one. -/
theorem Digits.concat {ds : Bytes} {b : UInt8} (hds : Digits ds) (hb : Digit b) :
    Digits (ds ++ [b]) := by
  refine ⟨by simp, ?_⟩
  simp only [List.forall_mem_append, List.forall_mem_singleton]
  exact ⟨hds.2, hb⟩

/-- An exponent with one more digit is one. -/
theorem Exponent.concat {text : Bytes} {b : UInt8} (h : Exponent text) (hne : text ≠ [])
    (hb : Digit b) : Exponent (text ++ [b]) := by
  cases h with
  | none => exact absurd rfl hne
  | digits he hds => exact .digits he (hds.concat hb)
  | signed he hp hds => exact .signed he hp (hds.concat hb)

/-- A number may end where its part says so. -/
theorem NumberRead.number {part : NumberPart} {t : Bytes} (h : NumberRead part t)
    (hc : part.isComplete = true) : Number t := by
  cases h with
  | minus | point | exponent | exponentSign => cases hc
  | zero hs => simpa using Number.mk hs .zero .none .none
  | integer hs hb h0 hds => simpa using Number.mk hs (.digits hb h0 hds) .none .none
  | fraction hs hw hds => simpa using Number.mk hs hw (.digits hds) .none
  | exponentDigits hs hw hf he _ => exact .mk hs hw hf he

/-- What has been read before the exponent letter is the whole part and the fraction. -/
theorem exponentLetter {sign whole fraction : Bytes} {b : UInt8} (hs : Sign sign)
    (hw : Whole whole) (hf : Fraction fraction) (hb : (b == byte 'e' || b == byte 'E') = true) :
    NumberRead .exponent (sign ++ (whole ++ (fraction ++ [b]))) := by
  rw [Bool.or_eq_true, beq_iff_eq, beq_iff_eq] at hb
  exact .exponent hs hw hf hb

/-- One more byte of a number. -/
theorem numberStep_some {part part' : NumberPart} {t : Bytes} {b : UInt8}
    (h : NumberRead part t) (hs : numberStep part b = .ok (some part')) :
    NumberRead part' (t ++ [b]) := by
  cases h with
  | minus =>
    simp only [numberStep] at hs
    split at hs
    · next h0 => cases hs; rw [eq_of_beq h0]; exact .zero .minus
    · next h0 =>
      split at hs
      · next hd =>
        cases hs
        exact .integer .minus (isDigit_iff.1 hd) (fun h => h0 (beq_iff_eq.2 h)) (by simp)
      · cases hs
  | zero hsign =>
    simp only [numberStep] at hs
    split at hs
    · next hp => cases hs; rw [eq_of_beq hp, List.append_assoc]; exact .point hsign .zero
    · split at hs
      · next he =>
        cases hs
        simpa using exponentLetter hsign .zero .none he
      · cases hs
  | @integer sign rest c hsign hc h0 hds =>
    have hw : Whole (c :: rest) := .digits hc h0 hds
    simp only [numberStep] at hs
    split at hs
    · next hd =>
      cases hs
      rw [List.append_assoc, List.cons_append]
      refine .integer hsign hc h0 ?_
      simp only [List.forall_mem_append, List.forall_mem_singleton]
      exact ⟨hds, isDigit_iff.1 hd⟩
    · split at hs
      · next hp => cases hs; rw [eq_of_beq hp, List.append_assoc]; exact .point hsign hw
      · split at hs
        · next he =>
          cases hs
          simpa using exponentLetter hsign hw .none he
        · cases hs
  | point hsign hw =>
    simp only [numberStep] at hs
    split at hs
    · next hd =>
      cases hs
      simpa using NumberRead.fraction hsign hw (Digits.singleton (isDigit_iff.1 hd))
    · cases hs
  | fraction hsign hw hds =>
    simp only [numberStep] at hs
    split at hs
    · next hd =>
      cases hs
      simpa using NumberRead.fraction hsign hw (hds.concat (isDigit_iff.1 hd))
    · split at hs
      · next he =>
        cases hs
        simpa using exponentLetter hsign hw (.digits hds) he
      · cases hs
  | exponent hsign hw hf he =>
    simp only [numberStep] at hs
    split at hs
    · next hp =>
      cases hs
      rw [Bool.or_eq_true, beq_iff_eq, beq_iff_eq] at hp
      simpa using NumberRead.exponentSign hsign hw hf he hp
    · split at hs
      · next hd =>
        cases hs
        simpa using NumberRead.exponentDigits hsign hw hf
          (.digits he (.singleton (isDigit_iff.1 hd))) (by simp)
      · cases hs
  | exponentSign hsign hw hf he hp =>
    simp only [numberStep] at hs
    split at hs
    · next hd =>
      cases hs
      simpa using NumberRead.exponentDigits hsign hw hf
        (.signed he hp (.singleton (isDigit_iff.1 hd))) (by simp)
    · cases hs
  | exponentDigits hsign hw hf he hne =>
    simp only [numberStep] at hs
    split at hs
    · next hd =>
      cases hs
      simpa using NumberRead.exponentDigits hsign hw hf (he.concat hne (isDigit_iff.1 hd)) (by simp)
    · cases hs

/-- A number that a byte cannot continue may end before it. -/
theorem numberStep_none {part : NumberPart} {b : UInt8} (hs : numberStep part b = .ok none) :
    part.isComplete = true := by
  cases part with
  | minus | point | exponent | exponentSign =>
    simp only [numberStep] at hs
    repeat' split at hs
    all_goals cases hs
  | zero | integer | fraction | exponentDigits => rfl

/-! ## Open containers -/

/-- What stands in an array when an item is due: nothing but white space, or items and a comma. -/
inductive ItemDue : List Json → Bytes → Prop where
  | first {s : Bytes} : Spaces s → ItemDue [] s
  | next {items : List Json} {text s : Bytes} :
      SpellsItems items text → Spaces s → ItemDue items (text ++ 0x2C :: s)

/-- What stands in an object when a name is due: nothing but white space, or members and a comma. -/
inductive NameDue : List (Bytes × Json) → Bytes → Prop where
  | first {s : Bytes} : Spaces s → NameDue [] s
  | next {members : List (Bytes × Json)} {text s : Bytes} :
      SpellsMembers members text → Spaces s → NameDue members (text ++ 0x2C :: s)

/-- An element is due after a blank too. -/
theorem ItemDue.space {items : List Json} {body : Bytes} {b : UInt8} (h : ItemDue items body)
    (hb : Space b) : ItemDue items (body ++ [b]) := by
  cases h with
  | first hs => exact .first (hs.concat hb)
  | next ht hs => simpa using ItemDue.next ht (hs.concat hb)

/-- A name is due after a blank too. -/
theorem NameDue.space {members : List (Bytes × Json)} {body : Bytes} {b : UInt8}
    (h : NameDue members body) (hb : Space b) : NameDue members (body ++ [b]) := by
  cases h with
  | first hs => exact .first (hs.concat hb)
  | next ht hs => simpa using NameDue.next ht (hs.concat hb)

/-- Before the first item there is nothing but white space. -/
theorem ItemDue.spaces {body : Bytes} (h : ItemDue [] body) : Spaces body := by
  cases h with
  | first hs => exact hs
  | next ht => cases ht

/-- Before the first member there is nothing but white space. -/
theorem NameDue.spaces {body : Bytes} (h : NameDue [] body) : Spaces body := by
  cases h with
  | first hs => exact hs
  | next ht => cases ht

/-- The item that was due has come. -/
theorem ItemDue.items {items : List Json} {body : Bytes} {v : Json} {t s : Bytes}
    (h : ItemDue items body) (ht : Spells v t) (hs : Spaces s) :
    SpellsItems (items ++ [v]) (body ++ (t ++ s)) := by
  cases h with
  | first h₁ => exact .last h₁ ht hs
  | next hi h₁ => simpa using hi.concat h₁ ht hs

/-- The member that was due has come. -/
theorem NameDue.members {members : List (Bytes × Json)} {body name : Bytes} {v : Json}
    {s₂ s₃ t s₄ : Bytes} (h : NameDue members body) (hn : Characters name) (h₂ : Spaces s₂)
    (h₃ : Spaces s₃) (ht : Spells v t) (h₄ : Spaces s₄) :
    SpellsMembers (members ++ [(name, v)])
      (body ++ 0x22 :: (name ++ 0x22 :: (s₂ ++ 0x3A :: (s₃ ++ (t ++ s₄))))) := by
  cases h with
  | first h₁ => exact .last h₁ hn h₂ h₃ ht h₄
  | next hm h₁ => simpa using hm.concat h₁ hn h₂ h₃ ht h₄

mutual

/-- `Due frames read`: what was read has opened the frames, and a value is due. Whatever the frames
hold fits below the bound on nesting. -/
inductive Due : List Frame → Bytes → Prop where
  | top {s : Bytes} : Spaces s → Due [] s
  | item {outer : List Frame} {items : List Json} {read body : Bytes} :
      Due outer read → outer.length < maxDepth →
      (∀ item ∈ items, depth item + outer.length < maxDepth) → ItemDue items.reverse body →
      Due (.array items :: outer) (read ++ 0x5B :: body)
  | member {outer : List Frame} {members : List (Bytes × Json)} {read name name' s₁ s₂ : Bytes} :
      Naming (.object members name' :: outer) read → Characters name → Spaces s₁ → Spaces s₂ →
      Due (.object members name :: outer)
        (read ++ 0x22 :: (name ++ 0x22 :: (s₁ ++ 0x3A :: s₂)))

/-- `Naming frames read`: what was read has opened the frames, and a name is due in the innermost,
which is an object. -/
inductive Naming : List Frame → Bytes → Prop where
  | mk {outer : List Frame} {members : List (Bytes × Json)} {read name body : Bytes} :
      Due outer read → outer.length < maxDepth →
      (∀ member ∈ members, depth member.2 + outer.length < maxDepth) →
      NameDue members.reverse body →
      Naming (.object members name :: outer) (read ++ 0x7B :: body)

end

/-- A value is due after a blank too. -/
theorem Due.space {frames : List Frame} {read : Bytes} {b : UInt8} (h : Due frames read)
    (hb : Space b) : Due frames (read ++ [b]) := by
  cases h with
  | top hs => exact .top (hs.concat hb)
  | item ho hl hd hi => simpa using Due.item ho hl hd (hi.space hb)
  | member hn hc h₁ h₂ => simpa using Due.member hn hc h₁ (h₂.concat hb)

/-- A member is named after a blank too. -/
theorem Naming.space {frames : List Frame} {read : Bytes} {b : UInt8} (h : Naming frames read)
    (hb : Space b) : Naming frames (read ++ [b]) := by
  cases h with
  | mk ho hl hd hn => simpa using Naming.mk ho hl hd (hn.space hb)

/-- No more frames are open than the bound allows. -/
theorem Due.length_le {frames : List Frame} {read : Bytes} (h : Due frames read) :
    frames.length ≤ maxDepth := by
  cases h with
  | top => exact Nat.zero_le _
  | item _ hl => exact hl
  | member hn => cases hn with | mk _ hl => exact hl

/-! ## The machine -/

/-- `Reads scanner read`: the machine may be in this state after reading this text. -/
inductive Reads : Scanner → Bytes → Prop where
  | value {frames : List Frame} {read : Bytes} : Due frames read → Reads ⟨frames, .value⟩ read
  | firstElement {outer : List Frame} {read : Bytes} :
      Due (.array [] :: outer) read → Reads ⟨.array [] :: outer, .firstElement⟩ read
  | firstName {outer : List Frame} {name read : Bytes} :
      Naming (.object [] name :: outer) read → Reads ⟨.object [] name :: outer, .firstName⟩ read
  | name {frames : List Frame} {read : Bytes} : Naming frames read → Reads ⟨frames, .name⟩ read
  | inName {frames : List Frame} {read written : Bytes} {part : StringPart} :
      Naming frames read → StringRead part written.reverse →
      Reads ⟨frames, .inName part written⟩ (read ++ 0x22 :: written.reverse)
  | colon {frames : List Frame} {read name s : Bytes} :
      Naming frames read → Characters name → Spaces s →
      Reads ⟨frames, .colon name⟩ (read ++ 0x22 :: (name ++ 0x22 :: s))
  | inString {frames : List Frame} {read written : Bytes} {part : StringPart} :
      Due frames read → StringRead part written.reverse →
      Reads ⟨frames, .inString part written⟩ (read ++ 0x22 :: written.reverse)
  | inNumber {frames : List Frame} {read literal : Bytes} {part : NumberPart} :
      Due frames read → NumberRead part literal.reverse →
      Reads ⟨frames, .inNumber part literal⟩ (read ++ literal.reverse)
  | inWord {frames : List Frame} {read word letters missing : Bytes} {v : Json} :
      Due frames read → Spells v (letters ++ missing) → depth v = 0 → missing ≠ [] →
      Reads ⟨frames, .inWord word missing v⟩ (read ++ letters)
  | afterValue {frames : List Frame} {read t s : Bytes} {v : Json} :
      Due frames read → Spells v t → depth v + frames.length ≤ maxDepth → Spaces s →
      frames ≠ [] → Reads ⟨frames, .afterValue v⟩ (read ++ (t ++ s))

/-- A text that is white space and then a value that is not nested too deep. -/
def SpellsTop (v : Json) (text : Bytes) : Prop :=
  ∃ s t, text = s ++ t ∧ Spaces s ∧ Spells v t ∧ depth v ≤ maxDepth

/-- What the outcome of a step on a byte says about the text read before it. -/
def Step.Sound (read : Bytes) (b : UInt8) : Step → Prop
  | .next scanner => Reads scanner (read ++ [b])
  | .done v => SpellsTop v (read ++ [b])
  | .doneBefore v => SpellsTop v read
  | .fault _ => True

/-- Where a document is due its text is spelled. -/
theorem Due.spellsTop {read t : Bytes} {v : Json} (h : Due [] read) (ht : Spells v t)
    (hd : depth v ≤ maxDepth) : SpellsTop v (read ++ t) := by
  cases h with
  | top hs => exact ⟨read, t, rfl, hs, ht, hd⟩

/-- A value that ends with the byte at hand. -/
theorem complete_sound {frames : List Frame} {before read t : Bytes} {v : Json} {b : UInt8}
    (h : Due frames before) (ht : Spells v t) (hd : depth v + frames.length ≤ maxDepth)
    (hread : read ++ [b] = before ++ t) : (complete frames v).Sound read b := by
  unfold complete
  split
  · rw [Step.Sound, hread]
    exact h.spellsTop ht hd
  · rw [Step.Sound, hread]
    simpa using Reads.afterValue h ht hd Spaces.nil (by simp)

/-- A container that is closed by the byte at hand. -/
theorem Due.close {outer : List Frame} {before read body : Bytes} {v : Json} {b opening : UInt8}
    (h : Due outer before) (ht : Spells v (opening :: (body ++ [b])))
    (hd : depth v + outer.length ≤ maxDepth) (hread : read = before ++ opening :: body) :
    (complete outer v).Sound read b :=
  complete_sound h ht hd (by simp [hread])

/-- The byte after a complete item: white space, a comma, or the end of the array. -/
theorem afterItem_sound {outer : List Frame} {items : List Json} {before t s : Bytes} {v : Json}
    {b : UInt8} (h : Due (.array items :: outer) before) (ht : Spells v t)
    (hd : depth v + outer.length < maxDepth) (hs : Spaces s) :
    (Json.afterValue (.array items :: outer) v b).Sound (before ++ (t ++ s)) b := by
  cases h with
  | @item _ _ read body ho hl hdi hi =>
  have hall : SpellsItems (v :: items).reverse (body ++ (t ++ s)) := by
    rw [List.reverse_cons]
    exact hi.items ht hs
  have hdv : ∀ item ∈ v :: items, depth item + outer.length < maxDepth :=
    List.forall_mem_cons.2 ⟨hd, hdi⟩
  simp only [Json.afterValue]
  split
  · next hb =>
    simpa [Step.Sound] using
      Reads.afterValue (.item ho hl hdi hi) ht hd (hs.concat (isSpace_iff.1 hb)) (by simp)
  · split
    · next hb =>
      obtain rfl : b = 0x2C := eq_of_beq hb
      simpa [Step.Sound] using Reads.value (.item ho hl hdv (.next hall Spaces.nil))
    · split
      · next hb =>
        obtain rfl : b = 0x5D := eq_of_beq hb
        exact ho.close (.array hall)
          (depth_array_add_le_iff.2 ⟨hl, fun item hi => hdv item (List.mem_reverse.1 hi)⟩) (by simp)
      · trivial

/-- The byte after a complete member: white space, a comma, or the end of the object. -/
theorem afterMember_sound {outer : List Frame} {members : List (Bytes × Json)}
    {before name t s : Bytes} {v : Json} {b : UInt8}
    (h : Due (.object members name :: outer) before) (ht : Spells v t)
    (hd : depth v + outer.length < maxDepth) (hs : Spaces s) :
    (Json.afterValue (.object members name :: outer) v b).Sound (before ++ (t ++ s)) b := by
  have hdue := h
  cases h with
  | @member _ _ _ _ _ s₁ s₂ hn hc h₁ h₂ =>
  cases hn with
  | @mk _ _ read _ body ho hl hdm hm =>
  have hall : SpellsMembers ((name, v) :: members).reverse
      (body ++ 0x22 :: (name ++ 0x22 :: (s₁ ++ 0x3A :: (s₂ ++ (t ++ s))))) := by
    rw [List.reverse_cons]
    exact hm.members hc h₁ h₂ ht hs
  have hdv : ∀ member ∈ (name, v) :: members, depth member.2 + outer.length < maxDepth :=
    List.forall_mem_cons.2 ⟨hd, hdm⟩
  simp only [Json.afterValue]
  split
  · next hb =>
    simpa [Step.Sound] using
      Reads.afterValue hdue ht hd (hs.concat (isSpace_iff.1 hb)) (by simp)
  · split
    · next hb =>
      obtain rfl : b = 0x2C := eq_of_beq hb
      simpa [Step.Sound] using Reads.name (.mk ho hl hdv (.next hall Spaces.nil))
    · split
      · next hb =>
        obtain rfl : b = 0x7D := eq_of_beq hb
        exact ho.close (.object hall)
          (depth_object_add_le_iff.2 ⟨hl, fun member hm => hdv member (List.mem_reverse.1 hm)⟩)
          (by simp)
      · trivial

/-- The byte after a complete value, which is the text's own when no container is open. -/
theorem afterValue_sound {frames : List Frame} {before t s : Bytes} {v : Json} {b : UInt8}
    (h : Due frames before) (ht : Spells v t) (hd : depth v + frames.length ≤ maxDepth)
    (hs : Spaces s) (htop : frames = [] → s = []) :
    (Json.afterValue frames v b).Sound (before ++ (t ++ s)) b := by
  match frames with
  | [] =>
    rw [htop rfl, List.append_nil]
    exact h.spellsTop ht hd
  | .array _ :: _ => exact afterItem_sound h ht hd hs
  | .object _ _ :: _ => exact afterMember_sound h ht hd hs

/-- A container that the byte at hand opens. -/
theorem push_sound {frames : List Frame} {frame : Frame} {expect : Expect} {read : Bytes}
    {b : UInt8} (h : frames.length < maxDepth → Reads ⟨frame :: frames, expect⟩ (read ++ [b])) :
    (push b frames frame expect).Sound read b := by
  unfold push
  split
  · next hl => exact h hl
  · trivial

/-- A word that starts with the byte at hand. -/
theorem word_sound {frames : List Frame} {read word letters : Bytes} {v : Json} {b : UInt8}
    (h : Due frames read) (hv : Spells v (b :: letters)) (hd : depth v = 0) (hne : letters ≠ []) :
    (Step.next ⟨frames, .inWord word letters v⟩).Sound read b :=
  .inWord h hv hd hne

/-- The byte with which a value starts. -/
theorem startValue_sound {frames : List Frame} {read : Bytes} {b : UInt8} (h : Due frames read) :
    (startValue frames b).Sound read b := by
  unfold startValue
  split
  · next hb =>
    obtain rfl : b = 0x7B := eq_of_beq hb
    exact push_sound fun hl => .firstName (.mk h hl (by simp) (.first Spaces.nil))
  split
  · next hb =>
    obtain rfl : b = 0x5B := eq_of_beq hb
    exact push_sound fun hl => .firstElement (.item h hl (by simp) (.first Spaces.nil))
  split
  · next hb =>
    obtain rfl : b = 0x22 := eq_of_beq hb
    exact Reads.inString h (.plain .nil)
  split
  · next hb =>
    obtain rfl : b = 0x2D := eq_of_beq hb
    exact Reads.inNumber h .minus
  split
  · next hb =>
    obtain rfl : b = 0x30 := eq_of_beq hb
    exact Reads.inNumber h (.zero .none)
  split
  · next h0 hd =>
    exact Reads.inNumber h
      (.integer .none (isDigit_iff.1 hd) (fun hb => h0 (beq_iff_eq.2 hb)) (by simp))
  split
  · next hb =>
    obtain rfl : b = 0x74 := eq_of_beq hb
    exact word_sound h .true rfl (by decide)
  split
  · next hb =>
    obtain rfl : b = 0x66 := eq_of_beq hb
    exact word_sound h .false rfl (by decide)
  split
  · next hb =>
    obtain rfl : b = 0x6E := eq_of_beq hb
    exact word_sound h .null rfl (by decide)
  · trivial

/-- An array that is closed before its first item. -/
theorem closeArray_sound {outer : List Frame} {read : Bytes} (h : Due (.array [] :: outer) read) :
    (complete outer (.array [])).Sound read 0x5D := by
  cases h with
  | item ho hl _ hi =>
    exact ho.close (.emptyArray hi.spaces) (depth_array_add_le_iff.2 ⟨hl, by simp⟩) rfl

/-- An object that is closed before its first name. -/
theorem closeObject_sound {outer : List Frame} {name read : Bytes}
    (h : Naming (.object [] name :: outer) read) :
    (closeObject (.object [] name :: outer) 0x7D).Sound read 0x7D := by
  cases h with
  | mk ho hl _ hm =>
    exact ho.close (.emptyObject hm.spaces) (depth_object_add_le_iff.2 ⟨hl, by simp⟩) rfl

/-- The colon after a name. -/
theorem enterMember_sound {frames : List Frame} {read name s : Bytes} (h : Naming frames read)
    (hn : Characters name) (hs : Spaces s) :
    (enterMember frames name 0x3A).Sound (read ++ 0x22 :: (name ++ 0x22 :: s)) 0x3A := by
  have hnaming := h
  cases h with
  | mk => simpa [Step.Sound, enterMember] using Reads.value (.member hnaming hn hs Spaces.nil)

/-- **One step of the machine.** Whatever the byte does, what was read with it is still what the
machine says it is. -/
theorem step_sound {scanner : Scanner} {read : Bytes} {b : UInt8} (h : Reads scanner read) :
    (step scanner b).Sound read b := by
  cases h with
  | value hd =>
    simp only [step]
    split
    · next hb => exact .value (hd.space (isSpace_iff.1 hb))
    · exact startValue_sound hd
  | firstElement hd =>
    simp only [step]
    split
    · next hb => exact .firstElement (hd.space (isSpace_iff.1 hb))
    · split
      · next hb =>
        obtain rfl : b = 0x5D := eq_of_beq hb
        exact closeArray_sound hd
      · exact startValue_sound hd
  | firstName hn =>
    simp only [step]
    split
    · next hb => exact .firstName (hn.space (isSpace_iff.1 hb))
    · split
      · next hb =>
        obtain rfl : b = 0x7D := eq_of_beq hb
        exact closeObject_sound hn
      · split
        · next hb =>
          obtain rfl : b = 0x22 := eq_of_beq hb
          exact Reads.inName hn (.plain .nil)
        · trivial
  | name hn =>
    simp only [step]
    split
    · next hb => exact .name (hn.space (isSpace_iff.1 hb))
    · split
      · next hb =>
        obtain rfl : b = 0x22 := eq_of_beq hb
        exact Reads.inName hn (.plain .nil)
      · trivial
  | inName hn hr =>
    simp only [step]
    split
    · trivial
    · next hs =>
      obtain ⟨rfl, hc⟩ := stringStep_none hr hs
      simpa [Step.Sound] using Reads.colon hn hc Spaces.nil
    · next hs =>
      have := stringStep_some hr hs
      rw [← List.reverse_cons] at this
      simpa [Step.Sound] using Reads.inName hn this
  | colon hn hc hs =>
    simp only [step]
    split
    · next hb => simpa [Step.Sound] using Reads.colon hn hc (hs.concat (isSpace_iff.1 hb))
    · split
      · next hb =>
        obtain rfl : b = 0x3A := eq_of_beq hb
        exact enterMember_sound hn hc hs
      · trivial
  | inString hd hr =>
    simp only [step]
    split
    · trivial
    · next hs =>
      obtain ⟨rfl, hc⟩ := stringStep_none hr hs
      exact complete_sound hd (.string hc) (by simpa [depth] using hd.length_le) (by simp)
    · next hs =>
      have := stringStep_some hr hs
      rw [← List.reverse_cons] at this
      simpa [Step.Sound] using Reads.inString hd this
  | inNumber hd hr =>
    simp only [step]
    split
    · trivial
    · next hs =>
      have := numberStep_some hr hs
      rw [← List.reverse_cons] at this
      simpa [Step.Sound] using Reads.inNumber hd this
    · next hs =>
      have hn := hr.number (numberStep_none hs)
      simpa using afterValue_sound (b := b) hd (.number hn)
        (by simpa [depth] using hd.length_le) Spaces.nil (fun _ => rfl)
  | @inWord frames _ word letters missing v hd hv hz hne =>
    simp only [step]
    split
    · exact absurd rfl hne
    · next expected rest =>
      split
      · trivial
      · next hb =>
        obtain rfl : b = expected := by simpa using hb
        split
        · next hr =>
          rw [List.isEmpty_iff.1 hr] at hv
          refine complete_sound hd hv ?_ (by simp)
          rw [hz, Nat.zero_add]
          exact hd.length_le
        · next hr =>
          rw [List.isEmpty_iff] at hr
          rw [List.append_cons] at hv
          have hreads : Reads ⟨frames, .inWord word rest v⟩ _ := .inWord hd hv hz hr
          simpa [Step.Sound] using hreads
  | afterValue hd ht hb hs hne =>
    exact afterValue_sound hd ht hb hs (fun h => absurd h hne)

/-! ## Whole runs -/

/-- What the outcome of a run says about the whole text. -/
def Scanned.Sound (text : Bytes) : Scanned → Prop
  | .value v rest => ∃ t, SpellsTop v t ∧ text = t ++ rest
  | .blank => Spaces text
  | .truncated | .fault _ => True

/-- The end of the text. -/
theorem finish_sound {scanner : Scanner} {read : Bytes} (h : Reads scanner read) :
    scanner.finish.Sound read := by
  unfold Scanner.finish
  split
  · next ho he =>
    cases h <;> cases he
    next hd =>
    cases ho
    cases hd with
    | top hs => exact hs
  · next part literal ho he =>
    split
    · next hc =>
      cases h <;> cases he
      next hd hr =>
      cases ho
      exact ⟨_, hd.spellsTop (.number (hr.number hc)) (Nat.zero_le _), by simp⟩
    · trivial
  · trivial

/-- **A run of the machine.** Its outcome is true of what was read before and the text together. -/
theorem scanFrom_sound {scanner : Scanner} {read text : Bytes} (h : Reads scanner read) :
    (scanFrom scanner text).Sound (read ++ text) := by
  induction text generalizing scanner read with
  | nil =>
    rw [List.append_nil]
    exact finish_sound h
  | cons b rest ih =>
    have hs := step_sound (b := b) h
    rw [List.append_cons, scanFrom]
    split
    · next hstep =>
      rw [hstep] at hs
      exact ih hs
    · next hstep =>
      rw [hstep] at hs
      exact ⟨_, hs, rfl⟩
    · next hstep =>
      rw [hstep] at hs
      exact ⟨_, hs, by simp⟩
    · trivial

/-- What `scan` finds at the front of a text is there. -/
theorem scan_sound (text : Bytes) : (scan text).Sound text :=
  scanFrom_sound (.value (.top Spaces.nil))

end Json

end FunctionChain
