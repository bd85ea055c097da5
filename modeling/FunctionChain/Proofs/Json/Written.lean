import FunctionChain.Json.Decode
import FunctionChain.Json.Written
import FunctionChain.Proofs.Json.Completeness
import FunctionChain.Proofs.Text.Cutting
import FunctionChain.Proofs.Text.Decimal
import FunctionChain.Proofs.Text.Utf8
import Mathlib.Data.List.Forall2

/-!
# Written JSON

What is written is of the grammar and is read back. A text stands between its quotes in one of three
ways piece by piece: as it is spelled, as a letter after a backslash, or as the four digits of its
number; whichever it is, reading gives the character again, and a replacement for every stray byte
(`unquoted_escaped`). A record, whether it is written one member a line or without white space, is
an object of the grammar with its members in order.

Arrays and objects may be laid out in one of two ways (`Layout`): without white space, or with every
item on a line of its own, which is indented by the containers around it. Either way a container is of
the grammar when what stands in it is.
-/

namespace FunctionChain

namespace Json

open Utf8 (Spelling)

/-! ## Texts -/

/-- The two forms of an escaped character. -/
inductive Escaped : Nat → Bytes → Prop where
  | letter {letter : UInt8} :
      letter ∈ escapeLetters → letter ≠ 0x75 → (letterEscape letter).toNat < 0x80 →
      Escaped (letterEscape letter).toNat [0x5C, letter]
  | digits {code : Nat} :
      code < 0x10000 → Utf8.IsScalar code → Escaped code (0x5C :: 0x75 :: Hex.padded code 4)

/-- Every escape has one of the two forms. -/
theorem escaped_of_escape? {code : Nat} {text : Bytes} (h : escape? code = some text) :
    Escaped code text := by
  have hletter (letter : UInt8) (hcode : code = (letterEscape letter).toNat)
      (htext : some [0x5C, letter] = some text) (hknown : letter ∈ escapeLetters ∧ letter ≠ 0x75 ∧
        (letterEscape letter).toNat < 0x80) : Escaped code text := by
    cases htext
    rw [hcode]
    exact .letter hknown.1 hknown.2.1 hknown.2.2
  have hdigits (hcode : code < 0xD800) :
      Escaped code (bytes "\\u" ++ Hex.padded code 4) :=
    .digits (Nat.lt_trans hcode (by decide)) (.inl hcode)
  unfold escape? at h
  simp only [beq_iff_eq] at h
  split at h
  · next hcode => exact hletter 0x22 hcode h (by decide)
  split at h
  · next hcode => exact hletter 0x5C hcode h (by decide)
  split at h
  · next hcode => exact hletter 0x62 hcode h (by decide)
  split at h
  · next hcode => exact hletter 0x66 hcode h (by decide)
  split at h
  · next hcode => exact hletter 0x6E hcode h (by decide)
  split at h
  · next hcode => exact hletter 0x72 hcode h (by decide)
  split at h
  · next hcode => exact hletter 0x74 hcode h (by decide)
  split at h
  · next hcode =>
    cases h
    simp only [Bool.or_eq_true, decide_eq_true_eq, beq_iff_eq] at hcode
    exact hdigits (by omega)
  · cases h

/-- The four digits of a code unit are read as it. -/
theorem codeUnit?_padded {code : Nat} (h : code < 0x10000) :
    codeUnit? (Hex.digit (code / 4096)) (Hex.digit (code / 256)) (Hex.digit (code / 16))
      (Hex.digit code) = some code := by
  simp only [codeUnit?, Hex.value?_digit]
  congr 1
  omega

/-- A byte that is no backslash stands for itself. -/
theorem unescapeFrom_plain {b : UInt8} (h : b ≠ 0x5C) (done rest : Bytes) :
    unescapeFrom none done (b :: rest) = unescapeFrom none (b :: done) rest := by
  rw [unescapeFrom.eq_3]
  · rfl
  all_goals simp_all

/-- An escape is read as its character. -/
theorem Escaped.unescapeFrom_append {code : Nat} {text : Bytes} (h : Escaped code text)
    (done rest : Bytes) :
    unescapeFrom none done (text ++ rest)
      = unescapeFrom none ((Utf8.encode code).reverse ++ done) rest := by
  cases h with
  | @letter letter hmem hne hlow =>
    have hencode : Utf8.encode (letterEscape letter).toNat = [letterEscape letter] := by
      simp [Utf8.encode, hlow]
    rw [hencode]
    exact unescapeFrom.eq_2 _ _ _ _ (by rintro _ _ _ _ _ rfl; exact absurd rfl hne)
  | digits hunit hscalar =>
    have hhigh : isHighSurrogate code = false := by
      simp only [isHighSurrogate, Bool.and_eq_false_iff, decide_eq_false_iff_not]
      unfold Utf8.IsScalar at hscalar
      omega
    rw [Hex.padded_four]
    simp [unescapeFrom, codeUnit?_padded hunit, takeUnit, hhigh]

/-- What is escaped is made of characters of a string. -/
theorem Escaped.characters {code : Nat} {text : Bytes} (h : Escaped code text) :
    Characters text := by
  cases h with
  | letter hmem => exact .escape hmem .nil
  | digits =>
    have hdigit (n : Nat) : HexDigit (Hex.digit n) := by
      rw [← hexValue_isSome_iff, Hex.value?_digit]
      rfl
    rw [Hex.padded_four]
    exact .codeUnit (hdigit _) (hdigit _) (hdigit _) (hdigit _) .nil

/-- A character that is not escaped has no byte with a meaning of its own. -/
theorem plain_of_escape? {code : Nat} {spelling : Bytes} (h : Spelling code spelling)
    (hnone : escape? code = none) {b : UInt8} (hb : b ∈ spelling) :
    0x20 ≤ b ∧ b ≠ 0x22 ∧ b ≠ 0x5C := by
  simp only [UInt8.le_iff_toNat_le, ne_eq, ← UInt8.toNat_inj, UInt8.reduceToNat]
  rcases h.high_of_mem hb with ⟨rfl, -⟩ | hhigh
  · unfold escape? at hnone
    simp only [beq_iff_eq, Bool.or_eq_true, decide_eq_true_eq] at hnone
    grind
  · omega

/-- The bytes of a character stand for themselves. -/
theorem unescapeFrom_spelling {spelling : Bytes} (h : ∀ b ∈ spelling, b ≠ 0x5C)
    (done rest : Bytes) :
    unescapeFrom none done (spelling ++ rest) =
      unescapeFrom none (spelling.reverse ++ done) rest := by
  induction spelling generalizing done with
  | nil => rfl
  | cons b spelling ih =>
    rw [List.forall_mem_cons] at h
    rw [List.cons_append, unescapeFrom_plain h.1, ih h.2]
    simp

/-- A piece that is well spelled. -/
def IsSpelled : Utf8.Piece → Prop
  | .char code spelling => Spelling code spelling
  | .stray _ => True

/-- The pieces of a text are spelled. -/
theorem isSpelled_of_mem_pieces {text : Bytes} {piece : Utf8.Piece} (h : piece ∈ Utf8.pieces text) :
    IsSpelled piece := by
  cases piece with
  | char code spelling => exact Utf8.spelling_of_mem_pieces h
  | stray b => trivial

/-- A written piece is read as the piece, a stray byte as the replacement character. -/
theorem unescapeFrom_escapePiece {piece : Utf8.Piece} (h : IsSpelled piece) (done rest : Bytes) :
    unescapeFrom none done (escapePiece piece ++ rest)
      = unescapeFrom none (piece.clean.reverse ++ done) rest := by
  cases piece with
  | stray b =>
    have hescaped : Escaped Utf8.replacement (bytes "\\ufffd") :=
      .digits (by decide) Utf8.isScalar_replacement
    exact hescaped.unescapeFrom_append done rest
  | char code spelling =>
    have h : Spelling code spelling := h
    cases hescape : escape? code with
    | some text =>
      simp only [escapePiece, hescape, Option.getD_some, Utf8.Piece.clean]
      rw [(escaped_of_escape? hescape).unescapeFrom_append, h.encode_eq]
    | none =>
      simp only [escapePiece, hescape, Option.getD_none, Utf8.Piece.clean]
      exact unescapeFrom_spelling (fun b hb => (plain_of_escape? h hescape hb).2.2) done rest

/-- Bytes that need no escape are characters of a string. -/
theorem characters_of_plain {text : Bytes} (h : ∀ b ∈ text, 0x20 ≤ b ∧ b ≠ 0x22 ∧ b ≠ 0x5C) :
    Characters text := by
  induction text with
  | nil => exact .nil
  | cons b rest ih =>
    obtain ⟨⟨hlow, hquote, hslash⟩, hrest⟩ := List.forall_mem_cons.1 h
    exact .plain hlow hquote hslash (ih hrest)

/-- A piece is escaped into characters of a string. -/
theorem characters_escapePiece {piece : Utf8.Piece} (h : IsSpelled piece) :
    Characters (escapePiece piece) := by
  cases piece with
  | stray b => exact (Escaped.digits (by decide) Utf8.isScalar_replacement).characters
  | char code spelling =>
    have h : Spelling code spelling := h
    cases hescape : escape? code with
    | some text =>
      simp only [escapePiece, hescape, Option.getD_some]
      exact (escaped_of_escape? hescape).characters
    | none =>
      simp only [escapePiece, hescape, Option.getD_none]
      exact characters_of_plain fun b hb => plain_of_escape? h hescape hb

/-- What stands between the quotes of a written text is of the grammar. -/
theorem characters_escaped (text : Bytes) : Characters (escaped text) := by
  have hpieces (piece : Utf8.Piece) (h : piece ∈ Utf8.pieces text) := isSpelled_of_mem_pieces h
  unfold escaped
  generalize Utf8.pieces text = pieces at hpieces
  induction pieces with
  | nil => exact .nil
  | cons piece rest ih =>
    rw [List.forall_mem_cons] at hpieces
    exact (characters_escapePiece hpieces.1).append (ih hpieces.2)

/-- What is escaped is read back, with stray bytes replaced. -/
theorem unescaped_escaped (text : Bytes) : unescaped (escaped text) = Utf8.sanitized text := by
  have hpieces (piece : Utf8.Piece) (h : piece ∈ Utf8.pieces text) := isSpelled_of_mem_pieces h
  suffices h : ∀ done, unescapeFrom none done ((Utf8.pieces text).flatMap escapePiece)
      = done.reverse ++ (Utf8.pieces text).flatMap Utf8.Piece.clean from h []
  generalize Utf8.pieces text = pieces at hpieces
  induction pieces with
  | nil =>
    intro done
    simp [unescapeFrom, flushPending]
  | cons piece rest ih =>
    intro done
    rw [List.forall_mem_cons] at hpieces
    rw [List.flatMap_cons, unescapeFrom_escapePiece hpieces.1, ih hpieces.2]
    simp

/-- **Texts.** A written text is read back with every stray byte replaced. -/
theorem unquoted_escaped (text : Bytes) : unquoted (escaped text) = Utf8.sanitized text := by
  rw [unquoted, unescaped_escaped, Utf8.sanitized_sanitized]

/-- Texts that are UTF-8 are written differently when they are different. -/
theorem escaped_inj {s t : Bytes} (hs : Utf8.isValid s = true) (ht : Utf8.isValid t = true)
    (h : escaped s = escaped t) : s = t := by
  have hread := congrArg unquoted h
  rwa [unquoted_escaped, unquoted_escaped, Utf8.sanitized_of_isValid hs,
    Utf8.sanitized_of_isValid ht] at hread

/-- A text is spelled by what is written for it. -/
theorem spells_ofText (text : Bytes) : Spells (.string (escaped text)) (ofText text) :=
  .string (characters_escaped text)

/-! ## Integers -/

/-- A number is written in digits. -/
theorem digit_of_mem_ofNat {n : Nat} {b : UInt8} (h : b ∈ Decimal.ofNat n) : Digit b :=
  isDigit_iff.1 (Decimal.isDigit_of_mem_ofNat h)

/-- A number is written without zeros in front. -/
theorem whole_ofNat (n : Nat) : Whole (Decimal.ofNat n) := by
  by_cases hn : n = 0
  · rw [hn, Decimal.ofNat_of_lt (by decide)]
    exact .zero
  · have hhead := Decimal.head?_ofNat hn
    have hdigits (b : UInt8) (h : b ∈ Decimal.ofNat n) := digit_of_mem_ofNat h
    cases htext : Decimal.ofNat n with
    | nil => exact absurd htext (Decimal.ofNat_ne_nil n)
    | cons b rest =>
      rw [htext] at hhead hdigits
      rw [List.forall_mem_cons] at hdigits
      exact .digits hdigits.1 (fun h => hhead (congrArg some h)) hdigits.2

/-- An integer is written as a number. -/
theorem number_ofInt (n : Int) : Number (Decimal.ofInt n) := by
  cases n with
  | ofNat n =>
    have h := Number.mk .none (whole_ofNat n) .none .none
    rwa [List.append_nil, List.append_nil] at h
  | negSucc n =>
    have h := Number.mk .minus (whole_ofNat (n + 1)) .none .none
    rwa [List.append_nil, List.append_nil] at h

/-- **Integers.** An integer of 64 bits is read back. -/
theorem int64?_ofInt {n : Int} (hlow : -Word.half ≤ n) (hhigh : n < Word.half) :
    int64? (Decimal.ofInt n) = some n := by
  cases n with
  | ofNat n =>
    have hminus : ∀ digits, Decimal.ofNat n ≠ 0x2D :: digits := by
      intro digits h
      have hdigit : Digit 0x2D := digit_of_mem_ofNat (n := n) (by simp [h])
      exact absurd hdigit (by decide)
    have hn : n < Word.half := by simpa using hhigh
    unfold int64? Decimal.ofInt
    split
    next negative digits heq =>
    split at heq
    · next digits htext => exact absurd htext (hminus digits)
    · cases heq
      simp [Decimal.toNat?_ofNat, hn]
  | negSucc n =>
    have hn : n + 1 ≤ Word.half := by
      have : -(Word.half : Int) ≤ -((n : Int) + 1) := hlow
      omega
    have hread : int64? (byte '-' :: Decimal.ofNat (n + 1)) = some (-((n + 1 : Nat) : Int)) := by
      simp [int64?, byte, Decimal.toNat?_ofNat, hn]
    exact hread

/-! ## Records -/

/-- `Written member field`: the field is the member as it is written out. -/
structure Written (field : Field) (member : Bytes × Json) : Prop where
  name : member.1 = escaped field.1
  value : Spells member.2 field.2

/-- Written members with commas between them, and the same white space around each, are members. -/
theorem spellsMembers_joined {before indent gap after : Bytes} (hbefore : Spaces before)
    (hindent : Spaces indent) (hgap : Spaces gap) (hafter : Spaces after) {fields : List Field}
    {members : List (Bytes × Json)} (h : List.Forall₂ Written fields members) (hne : fields ≠ []) :
    SpellsMembers members (before ++ (Bytes.joined (0x2C :: before) (fields.map fun field =>
      indent ++ (ofText field.1 ++ 0x3A :: (gap ++ field.2))) ++ after)) := by
  have hquote : byte '"' = 0x22 := rfl
  induction h with
  | nil => exact absurd rfl hne
  | @cons field member fields members hfirst hrest ih =>
    obtain ⟨name, value⟩ := member
    obtain ⟨rfl, hvalue⟩ := hfirst
    have hlead := hbefore.append hindent
    cases fields with
    | nil =>
      cases hrest
      have h := SpellsMembers.last hlead (characters_escaped field.1) .nil hgap hvalue hafter
      simpa [Bytes.joined, ofText, hquote] using h
    | cons second fields =>
      have h := SpellsMembers.cons hlead (characters_escaped field.1) .nil hgap hvalue .nil
        (ih (List.cons_ne_nil _ _))
      rw [List.map_cons, Bytes.joined_cons (by simp)]
      simpa [ofText, hquote] using h

/-- A record that is written one member a line is an object with these members. -/
theorem spellsAlone_indentedRecord {fields : List Field} {members : List (Bytes × Json)}
    (h : List.Forall₂ Written fields members) (hne : fields ≠ [])
    (hflat : ∀ member ∈ members, member.2.depth = 0) :
    SpellsAlone maxDepth (.object members) (indentedRecord fields) := by
  have hline : Spaces [0x0A] := by simp [Spaces, Space]
  have hindent : Spaces [0x20, 0x20] := by simp [Spaces, Space]
  have hgap : Spaces [0x20] := by simp [Spaces, Space]
  have hmembers := Spells.object (spellsMembers_joined hline hindent hgap hline h hne)
  refine ⟨[], _, [0x0A], ?_, .nil, hmembers, hline, ?_⟩
  · have hopen : bytes "\x7b\n" = [0x7B, 0x0A] := rfl
    have hclose : bytes "\n\x7d\n" = [0x0A, 0x7D, 0x0A] := rfl
    have hcomma : bytes ",\n" = [0x2C, 0x0A] := rfl
    have hcolon : bytes ": " = [0x3A, 0x20] := rfl
    have hblanks : bytes "  " = [0x20, 0x20] := rfl
    simp [indentedRecord, hopen, hclose, hcomma, hcolon, hblanks]
  · rw [← Nat.add_zero (depth _), depth_object_add_le_iff]
    exact ⟨by decide, fun member hmem => by rw [hflat member hmem]; decide⟩

/-- A record that is written without white space is an object with these members. -/
theorem spells_compactRecord {fields : List Field} {members : List (Bytes × Json)}
    (h : List.Forall₂ Written fields members) (hne : fields ≠ []) :
    Spells (.object members) (compactRecord fields) := by
  have hcomma : bytes "," = [0x2C] := rfl
  have hcolon : byte ':' = 0x3A := rfl
  have hmembers := Spells.object (spellsMembers_joined .nil .nil .nil .nil h hne)
  simpa [compactRecord, hcomma, hcolon] using hmembers

/-- Written values with commas between them, and the same white space around each, are items. -/
theorem spellsItems_joined {before after : Bytes} (hbefore : Spaces before)
    (hafter : Spaces after) {items : List Json} {texts : List Bytes}
    (h : List.Forall₂ Spells items texts) (hne : items ≠ []) :
    SpellsItems items (before ++ (Bytes.joined (0x2C :: before) texts ++ after)) := by
  induction h with
  | nil => exact absurd rfl hne
  | @cons item text items texts hfirst hrest ih =>
    cases hrest with
    | nil => simpa [Bytes.joined] using SpellsItems.last hbefore hfirst hafter
    | cons hsecond hmore =>
      have h := SpellsItems.cons hbefore hfirst .nil (ih (List.cons_ne_nil _ _))
      rw [Bytes.joined_cons (List.cons_ne_nil _ _)]
      simpa using h

/-- Written values with commas between them, in brackets, are an array. -/
theorem spells_joined {items : List Json} {texts : List Bytes}
    (h : List.Forall₂ Spells items texts) :
    Spells (.array items) (0x5B :: (Bytes.joined [0x2C] texts ++ [0x5D])) := by
  cases h with
  | nil => exact .emptyArray .nil
  | cons hfirst hrest =>
    simpa using Spells.array
      (spellsItems_joined .nil .nil (.cons hfirst hrest) (List.cons_ne_nil _ _))

/-! ## Layouts -/

/-- How containers are written out: without white space, or with one item a line. A line starts with
the margin and then with one indentation for each container around it. -/
inductive Layout where
  | compact
  | lines (margin indent : Bytes)
deriving Repr, DecidableEq

namespace Layout

/-- The start of a line with `depth` containers around it. -/
def newline (depth : Nat) : Layout → Bytes
  | compact => []
  | lines margin indent => 0x0A :: (margin ++ (List.replicate depth indent).flatten)

/-- What stands between the colon of a member and its value. -/
def gap : Layout → Bytes
  | compact => []
  | lines .. => [0x20]

/-- The layouts that add nothing but white space. -/
def IsBlank : Layout → Prop
  | compact => True
  | lines margin indent => Spaces margin ∧ Spaces indent

variable (layout : Layout) (depth : Nat)

/-- What stands between the brackets of a container with `depth` others around it. An empty one is
not broken over lines. -/
def between (items : List Bytes) : Bytes :=
  if items.isEmpty then []
  else
    layout.newline (depth + 1) ++ (Bytes.joined (0x2C :: layout.newline (depth + 1)) items
      ++ layout.newline depth)

/-- The array of some written values. -/
def array (items : List Bytes) : Bytes := 0x5B :: (layout.between depth items ++ [0x5D])

/-- The object of some fields, each a name and a written value. -/
def object (fields : List Field) : Bytes :=
  0x7B :: (layout.between depth
    (fields.map fun field => ofText field.1 ++ 0x3A :: (layout.gap ++ field.2)) ++ [0x7D])

variable {layout depth}

/-- The lines of a blank layout are blank. -/
theorem IsBlank.newline (h : layout.IsBlank) (depth : Nat) : Spaces (layout.newline depth) := by
  cases layout with
  | compact => exact .nil
  | lines margin indent =>
    refine Spaces.cons_iff.2 ⟨.inr (.inr (.inl rfl)), h.1.append fun b hb => ?_⟩
    obtain ⟨line, hline, hb⟩ := List.mem_flatten.1 hb
    rw [List.eq_of_mem_replicate hline] at hb
    exact h.2 b hb

/-- So are its gaps. -/
theorem spaces_gap : Spaces layout.gap := by
  cases layout with
  | compact => exact .nil
  | lines => exact Spaces.cons_iff.2 ⟨.inl rfl, .nil⟩

/-- An array of written values is of the grammar. -/
theorem IsBlank.spells_array (h : layout.IsBlank) {items : List Json} {texts : List Bytes}
    (htexts : List.Forall₂ Spells items texts) :
    Spells (.array items) (layout.array depth texts) := by
  unfold array between
  cases htexts with
  | nil => exact .emptyArray .nil
  | cons hfirst hrest =>
    exact .array (spellsItems_joined (h.newline _) (h.newline _) (.cons hfirst hrest)
      (List.cons_ne_nil _ _))

/-- An object of written fields is of the grammar. -/
theorem IsBlank.spells_object (h : layout.IsBlank) {fields : List Field}
    {members : List (Bytes × Json)} (hfields : List.Forall₂ Written fields members) :
    Spells (.object members) (layout.object depth fields) := by
  unfold object between
  cases hfields with
  | nil => exact .emptyObject .nil
  | cons hfirst hrest =>
    exact .object (spellsMembers_joined (h.newline _) .nil spaces_gap (h.newline _)
      (.cons hfirst hrest) (List.cons_ne_nil _ _))

end Layout

end Json

end FunctionChain
