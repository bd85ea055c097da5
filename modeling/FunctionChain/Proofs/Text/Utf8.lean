import FunctionChain.Text.Blank
import Mathlib.Data.List.DropRight

/-!
# Pieces of text

A text falls apart into pieces, and the spelling of every character is the one that `encode` gives.
So a text that is put together from spelled characters falls apart into these again, and a text in
which every stray byte has been replaced has the same pieces but for the replacements
(`pieces_sanitized`). All that is decided piece by piece is therefore decided alike for a text and
for its sanitised form.
-/

namespace FunctionChain

namespace Utf8

/-! ## Characters and their spelling -/

/-- The numbers that are characters: all up to the last one but the surrogates. -/
def IsScalar (code : Nat) : Prop := code < 0xD800 ∨ 0xE000 ≤ code ∧ code < 0x110000

/-- The bytes that go on with a character stand in a row. -/
theorem isContinuation_iff {b : UInt8} :
    isContinuation b = true ↔ 0x80 ≤ b.toNat ∧ b.toNat ≤ 0xBF := by
  simp [isContinuation, UInt8.le_iff_toNat_le]

/-- The two bytes of a character, and the only two of it. -/
theorem pair?_eq_some_iff {a b : UInt8} {code : Nat} :
    pair? a b = some code ↔ 0x80 ≤ code ∧ code < 0x800 ∧
      a.toNat = 0xC0 + code / 64 ∧ b.toNat = 0x80 + code % 64 := by
  unfold pair? payload
  simp only [Option.ite_none_right_eq_some, Option.some.injEq, Bool.and_eq_true,
    decide_eq_true_eq, isContinuation_iff, UInt8.le_iff_toNat_le, UInt8.reduceToNat]
  generalize a.toNat = a, b.toNat = b
  omega

/-- The three bytes of a character, and the only three of it. -/
theorem triple?_eq_some_iff {a b c : UInt8} {code : Nat} :
    triple? a b c = some code ↔ 0x800 ≤ code ∧ code < 0x10000 ∧ IsScalar code ∧
      a.toNat = 0xE0 + code / 4096 ∧ b.toNat = 0x80 + code / 64 % 64 ∧
      c.toNat = 0x80 + code % 64 := by
  unfold triple? payload
  simp only [Option.ite_none_right_eq_some, Option.some.injEq, Bool.and_eq_true, Bool.or_eq_true,
    decide_eq_true_eq, bne_iff_ne, ne_eq, isContinuation_iff, UInt8.le_iff_toNat_le,
    ← UInt8.toNat_inj, UInt8.reduceToNat, IsScalar]
  generalize a.toNat = a, b.toNat = b, c.toNat = c
  omega

/-- The four bytes of a character, and the only four of it. -/
theorem quad?_eq_some_iff {a b c d : UInt8} {code : Nat} :
    quad? a b c d = some code ↔ 0x10000 ≤ code ∧ code < 0x110000 ∧
      a.toNat = 0xF0 + code / 262144 ∧ b.toNat = 0x80 + code / 4096 % 64 ∧
      c.toNat = 0x80 + code / 64 % 64 ∧ d.toNat = 0x80 + code % 64 := by
  unfold quad? payload
  simp only [Option.ite_none_right_eq_some, Option.some.injEq, Bool.and_eq_true, Bool.or_eq_true,
    decide_eq_true_eq, bne_iff_ne, ne_eq, isContinuation_iff, UInt8.le_iff_toNat_le,
    ← UInt8.toNat_inj, UInt8.reduceToNat]
  generalize a.toNat = a, b.toNat = b, c.toNat = c, d.toNat = d
  omega

/-- `Spelling code text`: the bytes are those of the character. -/
inductive Spelling : Nat → Bytes → Prop where
  | one {a : UInt8} : a < 0x80 → Spelling a.toNat [a]
  | two {a b : UInt8} {code : Nat} : pair? a b = some code → Spelling code [a, b]
  | three {a b c : UInt8} {code : Nat} : triple? a b c = some code → Spelling code [a, b, c]
  | four {a b c d : UInt8} {code : Nat} : quad? a b c d = some code → Spelling code [a, b, c, d]

/-- A byte is told by its number. -/
theorem eq_toUInt8 {b : UInt8} {n : Nat} (h : b.toNat = n) : n.toUInt8 = b := by
  subst h
  simp

/-- A number that is small enough is that of its byte. -/
theorem toNat_toUInt8 {n : Nat} (h : n < 256) : n.toUInt8.toNat = n := by
  simpa using h

/-- The numbers that are no character are those from the last one on and the surrogates. -/
theorem not_isScalar_iff {code : Nat} :
    (0xD800 ≤ code && code < 0xE000 || 0x110000 ≤ code) = true ↔ ¬ IsScalar code := by
  simp only [Bool.or_eq_true, Bool.and_eq_true, decide_eq_true_eq, IsScalar]
  omega

/-- What is spelled is a character. -/
theorem Spelling.isScalar {code : Nat} {text : Bytes} (h : Spelling code text) :
    IsScalar code := by
  cases h with
  | one ha =>
    have ha := UInt8.lt_iff_toNat_lt.1 ha
    exact .inl (Nat.lt_trans ha (by decide))
  | two hpair =>
    obtain ⟨-, hhigh, -⟩ := pair?_eq_some_iff.1 hpair
    exact .inl (Nat.lt_trans hhigh (by decide))
  | three htriple => exact (triple?_eq_some_iff.1 htriple).2.2.1
  | four hquad =>
    obtain ⟨hlow, hhigh, -⟩ := quad?_eq_some_iff.1 hquad
    exact .inr ⟨Nat.le_trans (by decide) hlow, hhigh⟩

/-- A character has no other bytes than those that `encode` gives. -/
theorem Spelling.encode_eq {code : Nat} {text : Bytes} (h : Spelling code text) :
    encode code = text := by
  have hscalar := mt not_isScalar_iff.1 (not_not_intro h.isScalar)
  cases h with
  | @one a ha =>
    have ha : a.toNat < 0x80 := UInt8.lt_iff_toNat_lt.1 ha
    rw [encode, if_pos ha, eq_toUInt8 rfl]
  | two hpair =>
    obtain ⟨hlow, hhigh, ha, hb⟩ := pair?_eq_some_iff.1 hpair
    rw [encode, if_neg (by omega), if_pos hhigh, eq_toUInt8 ha, eq_toUInt8 hb]
  | three htriple =>
    obtain ⟨hlow, hhigh, -, ha, hb, hc⟩ := triple?_eq_some_iff.1 htriple
    rw [encode, if_neg (by omega), if_neg (by omega), if_neg hscalar, if_pos hhigh, eq_toUInt8 ha,
      eq_toUInt8 hb, eq_toUInt8 hc]
  | four hquad =>
    obtain ⟨hlow, hhigh, ha, hb, hc, hd⟩ := quad?_eq_some_iff.1 hquad
    rw [encode, if_neg (by omega), if_neg (by omega), if_neg hscalar, if_neg (by omega),
      eq_toUInt8 ha, eq_toUInt8 hb, eq_toUInt8 hc, eq_toUInt8 hd]

/-- A character is spelled as it is encoded. -/
theorem spelling_encode {code : Nat} (h : IsScalar code) : Spelling code (encode code) := by
  have hscalar := mt not_isScalar_iff.1 (not_not_intro h)
  have hlast : code < 0x110000 := by
    unfold IsScalar at h
    omega
  rw [encode]
  split
  · next hone =>
    have hnat : code.toUInt8.toNat = code := toNat_toUInt8 (by omega)
    have hbyte : code.toUInt8 < 0x80 := by
      rw [UInt8.lt_iff_toNat_lt, hnat]
      exact hone
    simpa [hnat] using Spelling.one hbyte
  · split
    · next hlow hhigh =>
      exact .two (pair?_eq_some_iff.2 ⟨by omega, hhigh, toNat_toUInt8 (by omega),
        toNat_toUInt8 (by omega)⟩)
    · split
      · next hlow hhigh =>
        exact .three (triple?_eq_some_iff.2 ⟨by omega, hhigh, h, toNat_toUInt8 (by omega),
          toNat_toUInt8 (by omega), toNat_toUInt8 (by omega)⟩)
      · next hlow =>
        exact .four (quad?_eq_some_iff.2 ⟨by omega, hlast, toNat_toUInt8 (by omega),
          toNat_toUInt8 (by omega), toNat_toUInt8 (by omega), toNat_toUInt8 (by omega)⟩)

/-- A character that is found at the front of a text is spelled there. -/
theorem spelling_of_leading {a : UInt8} {rest : Bytes} {extra code : Nat}
    (h : leading a rest = (extra, some code)) :
    extra ≤ rest.length ∧ Spelling code (a :: rest.take extra) := by
  unfold leading at h
  split at h
  · next ha =>
    cases h
    exact ⟨Nat.zero_le _, .one ha⟩
  · split at h
    · cases h
    · split at h
      · next hpair =>
        cases h
        exact ⟨by simp, .two hpair⟩
      · split at h
        · cases h
        · split at h
          · next htriple =>
            cases h
            exact ⟨by simp, .three htriple⟩
          · split at h
            · cases h
            · split at h
              · next hquad =>
                cases h
                exact ⟨by simp, .four hquad⟩
              · cases h

/-- The first bytes of longer characters are not those of shorter ones. -/
theorem pair?_eq_none {a b : UInt8} (h : 0xE0 ≤ a.toNat) : pair? a b = none := by
  rw [Option.eq_none_iff_forall_ne_some]
  intro code hpair
  obtain ⟨-, hhigh, ha, -⟩ := pair?_eq_some_iff.1 hpair
  omega

/-- A byte that begins four bytes begins no three. -/
theorem triple?_eq_none {a b c : UInt8} (h : 0xF0 ≤ a.toNat) : triple? a b c = none := by
  rw [Option.eq_none_iff_forall_ne_some]
  intro code htriple
  obtain ⟨-, hhigh, -, ha, -⟩ := triple?_eq_some_iff.1 htriple
  omega

/-- A character that is spelled at the front of a text is found there, whatever follows it. -/
theorem Spelling.leading {a : UInt8} {tail : Bytes} {code : Nat} (h : Spelling code (a :: tail))
    (rest : Bytes) : leading a (tail ++ rest) = (tail.length, some code) := by
  have hnot {n : Nat} (hn : a.toNat = n) (hlarge : 0x80 ≤ n) : ¬ a < 0x80 := by
    rw [UInt8.lt_iff_toNat_lt, hn]
    exact Nat.not_lt.2 hlarge
  generalize htext : a :: tail = text at h
  cases h with
  | one ha =>
    cases htext
    simp [Utf8.leading, ha]
  | two hpair =>
    cases htext
    obtain ⟨hlow, hhigh, ha, -⟩ := pair?_eq_some_iff.1 hpair
    simp [Utf8.leading, hnot ha (by omega), hpair]
  | three htriple =>
    cases htext
    obtain ⟨hlow, hhigh, -, ha, -⟩ := triple?_eq_some_iff.1 htriple
    simp [Utf8.leading, hnot ha (by omega), pair?_eq_none (ha ▸ by omega : 0xE0 ≤ a.toNat), htriple]
  | four hquad =>
    cases htext
    obtain ⟨hlow, hhigh, ha, -⟩ := quad?_eq_some_iff.1 hquad
    simp [Utf8.leading, hnot ha (by omega), pair?_eq_none (ha ▸ by omega : 0xE0 ≤ a.toNat),
      triple?_eq_none (ha ▸ by omega : 0xF0 ≤ a.toNat), hquad]

/-- The bytes of a character are those of no other character below 0x80, unless it is below 0x80
itself. -/
theorem Spelling.high_of_mem {code : Nat} {spelling : Bytes} (h : Spelling code spelling)
    {b : UInt8} (hb : b ∈ spelling) : b.toNat = code ∧ spelling = [b] ∨ 0x80 ≤ b.toNat := by
  cases h with
  | one ha =>
    obtain rfl := List.mem_singleton.1 hb
    exact .inl ⟨rfl, rfl⟩
  | two hpair =>
    obtain ⟨-, -, h₁, h₂⟩ := pair?_eq_some_iff.1 hpair
    simp only [List.mem_cons, List.not_mem_nil, or_false] at hb
    rcases hb with rfl | rfl <;> omega
  | three htriple =>
    obtain ⟨-, -, -, h₁, h₂, h₃⟩ := triple?_eq_some_iff.1 htriple
    simp only [List.mem_cons, List.not_mem_nil, or_false] at hb
    rcases hb with rfl | rfl | rfl <;> omega
  | four hquad =>
    obtain ⟨-, -, h₁, h₂, h₃, h₄⟩ := quad?_eq_some_iff.1 hquad
    simp only [List.mem_cons, List.not_mem_nil, or_false] at hb
    rcases hb with rfl | rfl | rfl | rfl <;> omega

/-! ## The pieces of a text -/

/-- Passing over the bytes of a piece that has been taken. -/
theorem piecesFrom_skip (skip : Nat) (text : Bytes) (done : List Piece) :
    piecesFrom skip text done = piecesFrom 0 (text.drop skip) done := by
  induction text generalizing skip with
  | nil => cases skip <;> simp [piecesFrom]
  | cons b rest ih =>
    cases skip with
    | zero => rfl
    | succ skip => simp only [piecesFrom, List.drop_succ_cons, ih]

/-- Pieces that are done stand before those to come. -/
theorem piecesFrom_eq (text : Bytes) (done : List Piece) :
    piecesFrom 0 text done = done.reverse ++ pieces text := by
  unfold pieces
  induction h : text.length using Nat.strongRecOn generalizing text done with
  | ind n ih =>
    subst h
    cases text with
    | nil => simp [piecesFrom]
    | cons a rest =>
      simp only [piecesFrom]
      split
      · next extra code hleading =>
        have hshort : (rest.drop extra).length < (a :: rest).length := by
          simp only [List.length_drop, List.length_cons]
          omega
        rw [piecesFrom_skip extra, piecesFrom_skip extra, ih _ hshort _ _ rfl,
          ih _ hshort _ [_] rfl]
        simp
      · rw [ih _ (Nat.lt_succ_self _) _ _ rfl, ih _ (Nat.lt_succ_self _) _ [_] rfl]
        simp

/-- A character at the front of a text is its first piece. -/
theorem Spelling.pieces_append {code : Nat} {spelling : Bytes} (h : Spelling code spelling)
    (rest : Bytes) : pieces (spelling ++ rest) = .char code spelling :: pieces rest := by
  cases spelling with
  | nil => cases h
  | cons a tail =>
    rw [List.cons_append, pieces, piecesFrom, h.leading rest]
    dsimp only
    rw [piecesFrom_skip, piecesFrom_eq]
    simp

/-- The pieces of a text of ASCII characters, whatever follows it. -/
theorem pieces_ascii_append {text : Bytes} (h : ∀ b ∈ text, b < 0x80) (rest : Bytes) :
    pieces (text ++ rest) = text.map (fun b => .char b.toNat [b]) ++ pieces rest := by
  induction text with
  | nil => rfl
  | cons b text ih =>
    rw [List.forall_mem_cons] at h
    rw [List.cons_append, List.map_cons, List.cons_append, ← ih h.2]
    exact (Spelling.one h.1).pieces_append _

/-- A byte that starts no character is the first piece of a text. -/
theorem pieces_stray {a : UInt8} {rest : Bytes} {extra : Nat} (h : leading a rest = (extra, none)) :
    pieces (a :: rest) = .stray a :: pieces rest := by
  rw [pieces, piecesFrom, h]
  dsimp only
  rw [piecesFrom_eq]
  rfl

/-- **Texts by their pieces.** What holds of the empty text, and of a text with one more character
or stray byte before it, holds of all texts. -/
theorem pieceInduction {motive : Bytes → Prop} (nil : motive [])
    (char : ∀ {code spelling rest}, Spelling code spelling → motive rest →
      motive (spelling ++ rest))
    (stray : ∀ {a rest}, pieces (a :: rest) = .stray a :: pieces rest → motive rest →
      motive (a :: rest)) (text : Bytes) : motive text := by
  induction h : text.length using Nat.strongRecOn generalizing text with
  | ind n ih =>
    subst h
    cases text with
    | nil => exact nil
    | cons a rest =>
      rcases hleading : leading a rest with ⟨extra, found⟩
      cases found with
      | none => exact stray (pieces_stray hleading) (ih _ (Nat.lt_succ_self _) rest rfl)
      | some code =>
        obtain ⟨-, hspelling⟩ := spelling_of_leading hleading
        have hshort : (rest.drop extra).length < (a :: rest).length := by
          simp only [List.length_drop, List.length_cons]
          omega
        simpa using char hspelling (ih _ hshort _ rfl)

/-- The pieces of a text make it up. -/
theorem flatMap_bytes_pieces (text : Bytes) : (pieces text).flatMap Piece.bytes = text := by
  induction text using pieceInduction with
  | nil => rfl
  | char h ih => rw [h.pieces_append, List.flatMap_cons, ih]; rfl
  | stray h ih => rw [h, List.flatMap_cons, ih]; rfl

/-- The pieces of a text are characters with their spelling and stray bytes. -/
theorem spelling_of_mem_pieces {text : Bytes} {code : Nat} {spelling : Bytes}
    (h : .char code spelling ∈ pieces text) : Spelling code spelling := by
  induction text using pieceInduction with
  | nil => cases h
  | char hspelling ih =>
    rw [hspelling.pieces_append, List.mem_cons] at h
    rcases h with h | h
    · cases h
      exact hspelling
    · exact ih h
  | stray hpieces ih =>
    rw [hpieces, List.mem_cons] at h
    exact ih (h.resolve_left nofun)

/-- A stray byte stays one when the text behind it is cut off. -/
theorem pieces_stray_of_start {a : UInt8} {rest start : Bytes}
    (h : pieces (a :: rest) = .stray a :: pieces rest) (hstart : start <+: rest) :
    pieces (a :: start) = .stray a :: pieces start := by
  rcases hleading : leading a start with ⟨extra, found⟩
  cases found with
  | none => exact pieces_stray hleading
  | some code =>
    -- The character would have been found in the longer text too.
    obtain ⟨-, hspelling⟩ := spelling_of_leading hleading
    obtain ⟨more, rfl⟩ := hstart
    have hchar := hspelling.pieces_append (start.drop extra ++ more)
    rw [List.cons_append, ← List.append_assoc, List.take_append_drop, h] at hchar
    cases (List.cons.inj hchar).1

/-- A text that is cut between two of its pieces has the pieces before the cut, and those behind
it. -/
theorem pieces_flatMap_of_append {text : Bytes} {first second : List Piece}
    (h : pieces text = first ++ second) :
    pieces (first.flatMap Piece.bytes) = first ∧ pieces (second.flatMap Piece.bytes) = second := by
  induction text using pieceInduction generalizing first with
  | nil =>
    obtain ⟨rfl, rfl⟩ := List.append_eq_nil_iff.1 h.symm
    exact ⟨rfl, rfl⟩
  | @char code spelling rest hspelling ih =>
    cases first with
    | nil => rw [← List.nil_append second, ← h, flatMap_bytes_pieces]; exact ⟨rfl, rfl⟩
    | cons piece first =>
      rw [hspelling.pieces_append, List.cons_append, List.cons.injEq] at h
      obtain ⟨rfl, hrest⟩ := h
      obtain ⟨hfirst, hsecond⟩ := ih hrest
      refine ⟨?_, hsecond⟩
      rw [List.flatMap_cons]
      exact (hspelling.pieces_append _).trans (by rw [hfirst])
  | @stray a rest hstray ih =>
    cases first with
    | nil => rw [← List.nil_append second, ← h, flatMap_bytes_pieces]; exact ⟨rfl, rfl⟩
    | cons piece first =>
      rw [hstray, List.cons_append, List.cons.injEq] at h
      obtain ⟨rfl, hrest⟩ := h
      obtain ⟨hfirst, hsecond⟩ := ih hrest
      have hstart : first.flatMap Piece.bytes <+: rest := by
        refine ⟨second.flatMap Piece.bytes, ?_⟩
        rw [← List.flatMap_append, ← hrest, flatMap_bytes_pieces]
      refine ⟨?_, hsecond⟩
      exact (pieces_stray_of_start hstray hstart).trans (by rw [hfirst])

/-! ## Sanitised texts -/

/-- The piece that stands in a sanitised text. -/
def Piece.sound : Piece → Piece
  | .char code spelling => .char code spelling
  | .stray _ => .char replacement (encode replacement)

/-- The replacement is a character. -/
theorem isScalar_replacement : IsScalar replacement := .inr ⟨by decide, by decide⟩

/-- A character stays when a text is sanitized. -/
theorem sanitized_char {code : Nat} {spelling : Bytes} (h : Spelling code spelling) (rest : Bytes) :
    sanitized (spelling ++ rest) = spelling ++ sanitized rest := by
  simp [sanitized, h.pieces_append, Piece.clean]

/-- A stray byte is replaced. -/
theorem sanitized_stray {a : UInt8} {rest : Bytes}
    (h : pieces (a :: rest) = .stray a :: pieces rest) :
    sanitized (a :: rest) = encode replacement ++ sanitized rest := by
  simp [sanitized, h, Piece.clean]

/-- A text and its sanitised form differ in the stray bytes alone. -/
theorem pieces_sanitized (text : Bytes) :
    pieces (sanitized text) = (pieces text).map Piece.sound := by
  induction text using pieceInduction with
  | nil => rfl
  | char h ih => rw [sanitized_char h, h.pieces_append, h.pieces_append, ih]; rfl
  | stray h ih =>
    rw [sanitized_stray h, (spelling_encode isScalar_replacement).pieces_append, h, ih]
    rfl

/-- A text is sanitized once and for all. -/
theorem sanitized_sanitized (text : Bytes) : sanitized (sanitized text) = sanitized text := by
  rw [sanitized, pieces_sanitized, List.flatMap_map]
  refine List.flatMap_congr fun piece _ => ?_
  cases piece <;> rfl

/-- Well-formed text is left as it is. -/
theorem sanitized_of_isValid {text : Bytes} (h : isValid text = true) : sanitized text = text := by
  have hchars := List.all_eq_true.1 h
  conv => rhs; rw [← flatMap_bytes_pieces text]
  refine List.flatMap_congr fun piece hmem => ?_
  cases piece with
  | char code spelling => rfl
  | stray b => cases hchars _ hmem

/-- A stray byte is no letter, digit or sign of the first half. -/
theorem high_of_stray {a : UInt8} {rest : Bytes}
    (h : pieces (a :: rest) = .stray a :: pieces rest) :
    0x80 ≤ a.toNat := by
  rw [← Nat.not_lt]
  intro hlow
  have hchar := (Spelling.one (UInt8.lt_iff_toNat_lt.2 hlow)).pieces_append rest
  cases hchar.symm.trans h

/-- Nor is a byte of the replacement. -/
theorem high_of_mem_replacement {b : UInt8} (h : b ∈ encode replacement) : 0x80 ≤ b.toNat := by
  have hall : (encode replacement).all (fun b => 0x80 ≤ b.toNat) = true := by decide
  exact of_decide_eq_true (List.all_eq_true.1 hall b h)

/-- The bytes below 0x80 of a text and of its sanitised form are the same. -/
theorem mem_sanitized_iff {b : UInt8} (hb : b.toNat < 0x80) (text : Bytes) :
    b ∈ sanitized text ↔ b ∈ text := by
  induction text using pieceInduction with
  | nil => rfl
  | char h ih => rw [sanitized_char h, List.mem_append, List.mem_append, ih]
  | @stray a rest h ih =>
    have ha : b ≠ a := fun heq => Nat.not_le.2 hb (heq ▸ high_of_stray h)
    have hreplacement : b ∉ encode replacement := fun hmem =>
      Nat.not_le.2 hb (high_of_mem_replacement hmem)
    simp [sanitized_stray h, ih, ha, hreplacement]

/-- ASCII text is left as it is. -/
theorem sanitized_of_low {text : Bytes} (h : ∀ b ∈ text, b.toNat < 0x80) :
    sanitized text = text := by
  induction text with
  | nil => rfl
  | cons b rest ih =>
    rw [List.forall_mem_cons] at h
    have hchar := sanitized_char (.one (UInt8.lt_iff_toNat_lt.2 h.1)) rest
    rwa [ih h.2] at hchar

/-- A text whose sanitised form has no byte from 0x80 on has none either. -/
theorem sanitized_eq_of_low {text : Bytes} (h : ∀ b ∈ sanitized text, b.toNat < 0x80) :
    sanitized text = text := by
  induction text using pieceInduction with
  | nil => rfl
  | char hspelling ih =>
    rw [sanitized_char hspelling] at h ⊢
    rw [ih fun b hb => h b (List.mem_append_right _ hb)]
  | stray hstray ih =>
    have hmem : (0xEF : UInt8) ∈ encode replacement := by decide
    rw [sanitized_stray hstray] at h
    exact absurd (h _ (List.mem_append_left _ hmem)) (by decide)

end Utf8

namespace Blank

open Utf8 (pieces sanitized)

/-- A text is blank when all its pieces are. -/
theorem isAllBlank_eq_all (text : Bytes) : isAllBlank text = (pieces text).all isBlankPiece := by
  have hbytes (piece : Utf8.Piece) (hmem : piece ∈ pieces text) : piece.bytes ≠ [] := by
    cases piece with
    | stray b => exact List.cons_ne_nil b []
    | char code spelling =>
      rintro rfl
      cases Utf8.spelling_of_mem_pieces hmem
  rw [Bool.eq_iff_iff, List.all_eq_true, ← List.dropWhile_eq_nil_iff, isAllBlank, trimmed,
    List.isEmpty_iff, List.flatMap_eq_nil_iff]
  constructor
  · intro h
    have hrest : ((pieces text).dropWhile isBlankPiece).reverse.dropWhile isBlankPiece = [] := by
      refine List.eq_nil_iff_forall_not_mem.2 fun piece hmem => ?_
      have hpiece : piece ∈ pieces text := (List.dropWhile_sublist _).mem
        (List.mem_reverse.1 ((List.dropWhile_sublist _).mem hmem))
      exact hbytes piece hpiece (h piece (List.mem_reverse.2 hmem))
    have hblank := List.dropWhile_eq_nil_iff.1 hrest
    rw [← List.dropWhile_idempotent, List.dropWhile_eq_nil_iff]
    exact fun piece hmem => hblank piece (List.mem_reverse.2 hmem)
  · intro h
    simp [h]

/-- Whether a text starts with an ASCII character that is not white space. -/
def startsVisibly : Bytes → Bool
  | [] => false
  | b :: _ => b < 0x80 && !isBlank b.toNat

/-- A text that starts visibly is not blank. -/
theorem isAllBlank_of_startsVisibly {text : Bytes} (h : startsVisibly text = true) :
    isAllBlank text = false := by
  cases text with
  | nil => cases h
  | cons b rest =>
    simp only [startsVisibly, Bool.and_eq_true, decide_eq_true_eq, Bool.not_eq_true'] at h
    have hpieces : pieces (b :: rest) = .char b.toNat [b] :: pieces rest :=
      (Utf8.Spelling.one h.1).pieces_append rest
    rw [isAllBlank_eq_all, hpieces]
    simp [isBlankPiece, h.2]

/-- A text is as blank as it was before it was sanitized. -/
theorem isAllBlank_sanitized (text : Bytes) : isAllBlank (sanitized text) = isAllBlank text := by
  rw [isAllBlank_eq_all, isAllBlank_eq_all, Utf8.pieces_sanitized, List.all_map]
  congr 1
  funext piece
  cases piece <;> rfl

/-- The pieces of a text without the blank ones at its beginning and its end. -/
theorem pieces_trimmed (text : Bytes) :
    pieces (trimmed text) = ((pieces text).dropWhile isBlankPiece).rdropWhile isBlankPiece := by
  obtain ⟨-, hleft⟩ := Utf8.pieces_flatMap_of_append
    (List.takeWhile_append_dropWhile (p := isBlankPiece) (l := pieces text)).symm
  obtain ⟨hright, -⟩ := Utf8.pieces_flatMap_of_append (hleft.trans
    List.rdropWhile_append_rtakeWhile.symm)
  exact hright

/-- Trimming once is enough. -/
theorem trimmed_trimmed (text : Bytes) : trimmed (trimmed text) = trimmed text := by
  have hleft : (((pieces text).dropWhile isBlankPiece).rdropWhile isBlankPiece).dropWhile
      isBlankPiece = ((pieces text).dropWhile isBlankPiece).rdropWhile isBlankPiece := by
    rcases hend : ((pieces text).dropWhile isBlankPiece).rdropWhile isBlankPiece
      with _ | ⟨piece, more⟩
    · rfl
    · obtain ⟨ending, hpieces⟩ := List.rdropWhile_prefix isBlankPiece
        ((pieces text).dropWhile isBlankPiece)
      rw [hend] at hpieces
      have hvisible := List.head_dropWhile_not isBlankPiece (l := pieces text) (by simp [← hpieces])
      simp only [← hpieces, List.cons_append, List.head_cons] at hvisible
      rw [List.dropWhile_cons_of_neg (by simp [hvisible])]
  have htrimmed (text : Bytes) : trimmed text
      = (((pieces text).dropWhile isBlankPiece).rdropWhile isBlankPiece).flatMap Utf8.Piece.bytes :=
    rfl
  rw [htrimmed (trimmed text), pieces_trimmed, hleft, List.rdropWhile_idempotent, ← htrimmed]

/-- White space, character by character. -/
inductive White : Bytes → Prop where
  | nil : White []
  | cons {code : Nat} {rest : Bytes} :
      isBlank code = true → White rest → White (Utf8.encode code ++ rest)

/-- White space is made of characters. -/
theorem isScalar_of_isBlank {code : Nat} (h : isBlank code = true) : Utf8.IsScalar code := by
  simp only [isBlank, Bool.or_eq_true, Bool.and_eq_true, decide_eq_true_eq, beq_iff_eq] at h
  unfold Utf8.IsScalar
  omega

/-- White space before a text is blank pieces before those of the text. -/
theorem White.pieces_append {white : Bytes} (h : White white) (text : Bytes) :
    ∃ blank, pieces (white ++ text) = blank ++ pieces text ∧
      ∀ piece ∈ blank, isBlankPiece piece = true := by
  induction h with
  | nil => exact ⟨[], rfl, List.forall_mem_nil _⟩
  | @cons code rest hcode _ ih =>
    obtain ⟨blank, hpieces, hblank⟩ := ih
    refine ⟨.char code (Utf8.encode code) :: blank, ?_, List.forall_mem_cons.2 ⟨hcode, hblank⟩⟩
    rw [List.append_assoc,
      (Utf8.spelling_encode (isScalar_of_isBlank hcode)).pieces_append, hpieces]
    rfl

/-- Blank pieces of a text make up white space. -/
theorem white_of_pieces {text : Bytes} {blank : List Utf8.Piece}
    (hmem : ∀ piece ∈ blank, piece ∈ pieces text)
    (hblank : ∀ piece ∈ blank, isBlankPiece piece = true) :
    White (blank.flatMap Utf8.Piece.bytes) := by
  induction blank with
  | nil => exact .nil
  | cons piece blank ih =>
    rw [List.forall_mem_cons] at hmem hblank
    cases piece with
    | stray b => cases hblank.1
    | char code spelling =>
      rw [List.flatMap_cons, Utf8.Piece.bytes,
        ← (Utf8.spelling_of_mem_pieces hmem.1).encode_eq]
      exact .cons hblank.1 (ih hmem.2 hblank.2)

/-- Trimming takes white space off at both ends. -/
theorem exists_white (text : Bytes) :
    ∃ lead trail, White lead ∧ White trail ∧ text = lead ++ (trimmed text ++ trail) := by
  have hlead := (pieces text).takeWhile_append_dropWhile (p := isBlankPiece)
  generalize hmore : (pieces text).dropWhile isBlankPiece = more at hlead
  have htrail := List.rdropWhile_append_rtakeWhile (p := isBlankPiece) (l := more)
  have hsub : ∀ piece ∈ more, piece ∈ pieces text := fun piece hpiece =>
    (List.dropWhile_sublist _).mem (hmore ▸ hpiece)
  refine ⟨((pieces text).takeWhile isBlankPiece).flatMap Utf8.Piece.bytes,
    (more.rtakeWhile isBlankPiece).flatMap Utf8.Piece.bytes,
    white_of_pieces (fun _ => (List.takeWhile_sublist _).mem) fun _ => List.mem_takeWhile_imp,
    white_of_pieces (fun piece hpiece => hsub piece ?_) fun _ => List.mem_rtakeWhile_imp, ?_⟩
  · exact (List.rtakeWhile_suffix isBlankPiece more).mem hpiece
  · have htrimmed : trimmed text = (more.rdropWhile isBlankPiece).flatMap Utf8.Piece.bytes := by
      rw [← hmore]
      rfl
    rw [htrimmed, ← List.flatMap_append, htrail, ← List.flatMap_append, hlead,
      Utf8.flatMap_bytes_pieces]

/-- Trimming leaves what is between white space, if that is visible ASCII text. -/
theorem trimmed_white_append {lead text trail : Bytes} (hlead : White lead) (htrail : White trail)
    (htext : ∀ b ∈ text, b < 0x80 ∧ isBlank b.toNat = false) :
    trimmed (lead ++ (text ++ trail)) = text := by
  obtain ⟨first, hfirst, hblank⟩ := hlead.pieces_append (text ++ trail)
  obtain ⟨last, hlast, hend⟩ := htrail.pieces_append []
  rw [List.append_nil, show pieces [] = [] from rfl, List.append_nil] at hlast
  rw [Utf8.pieces_ascii_append (fun b hb => (htext b hb).1), hlast] at hfirst
  generalize hvisible : text.map (fun b => Utf8.Piece.char b.toNat [b]) = visible at hfirst
  have hbytes : visible.flatMap Utf8.Piece.bytes = text := by
    rw [← hvisible, List.flatMap_map]
    exact List.flatMap_singleton' text
  have hkept : ∀ piece ∈ visible, ¬ isBlankPiece piece = true := by
    rw [← hvisible, List.forall_mem_map]
    exact fun b hb => by simp [isBlankPiece, (htext b hb).2]
  rw [trimmed, hfirst, List.dropWhile_append_of_pos hblank]
  cases visible with
  | nil => rw [List.nil_append, List.dropWhile_eq_nil_iff.2 hend, ← hbytes]; rfl
  | cons piece more =>
    have hlastKept : ¬ isBlankPiece ((piece :: more).getLast (List.cons_ne_nil _ _)) = true :=
      hkept _ (List.getLast_mem _)
    have hwhole : (piece :: more).rdropWhile isBlankPiece = piece :: more :=
      List.rdropWhile_eq_self_iff.2 fun _ => hlastKept
    rw [List.cons_append, List.dropWhile_cons_of_neg (hkept piece List.mem_cons_self),
      ← List.cons_append, List.reverse_append, List.dropWhile_append_of_pos fun piece hpiece =>
        hend piece (List.mem_reverse.1 hpiece)]
    rw [List.rdropWhile] at hwhole
    rw [hwhole, hbytes]

end Blank

end FunctionChain
