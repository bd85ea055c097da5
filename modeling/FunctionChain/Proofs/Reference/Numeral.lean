import FunctionChain.Reference.Token
import FunctionChain.Proofs.Text.Utf8
import Mathlib.Data.List.TakeDrop

/-!
# The grammar of numerals

Which tokens are numeric. A token is judged in several passes: white space is cut off, what starts
like a hexadecimal number is put aside, the places of underscores are looked at, underscores are
deleted, and what is left is compared with a decimal number. All of that comes to one grammar
(`classify_numeric_iff`). Deleting underscores joins no pieces that were apart: an underscore that
may be deleted stands between two digits, so it stands within one run of digits.
-/

namespace FunctionChain

namespace Token

/-! ## The grammar -/

/-- Digits, perhaps with single underscores between them. -/
inductive Run : Bytes → Prop where
  | digit {d : UInt8} : Bytes.isDigit d = true → Run [d]
  | next {d : UInt8} {rest : Bytes} : Bytes.isDigit d = true → Run rest → Run (d :: rest)
  | spaced {d : UInt8} {rest : Bytes} :
      Bytes.isDigit d = true → Run rest → Run (d :: byte '_' :: rest)

/-- A sign, if there is one. -/
inductive Sign : Bytes → Prop where
  | none : Sign []
  | plus : Sign [byte '+']
  | minus : Sign [byte '-']

/-- Digits with a point before them, among them or behind them, or without one. -/
inductive Mantissa : Bytes → Prop where
  | whole {run : Bytes} : Run run → Mantissa run
  | pointBehind {run : Bytes} : Run run → Mantissa (run ++ [byte '.'])
  | pointAmong {run part : Bytes} : Run run → Run part → Mantissa (run ++ byte '.' :: part)
  | pointBefore {part : Bytes} : Run part → Mantissa (byte '.' :: part)

/-- An exponent, if there is one. -/
inductive Exponent : Bytes → Prop where
  | none : Exponent []
  | some {e : UInt8} {sign run : Bytes} :
      e = byte 'e' ∨ e = byte 'E' → Sign sign → Run run → Exponent (e :: (sign ++ run))

/-- The numerals: decimal numbers, infinities, and what is no number. -/
inductive Numeral : Bytes → Prop where
  | decimal {sign mantissa exponent : Bytes} :
      Sign sign → Mantissa mantissa → Exponent exponent →
      Numeral (sign ++ (mantissa ++ exponent))
  | infinity {sign word : Bytes} :
      Sign sign → Bytes.lower word = bytes "inf" ∨ Bytes.lower word = bytes "infinity" →
      Numeral (sign ++ word)
  | notANumber {word : Bytes} : Bytes.lower word = bytes "nan" → Numeral word

/-- Texts that start like a hexadecimal number. -/
def StartsHexadecimal (text : Bytes) : Prop :=
  ∃ sign x rest, Sign sign ∧ (x = byte 'x' ∨ x = byte 'X') ∧ text = sign ++ byte '0' :: x :: rest

/-! ## Underscores -/

/-- The text without its underscores. -/
def stripped (text : Bytes) : Bytes := text.filter (· != byte '_')

/-- Whether a byte may stand in a run of digits. -/
def isOfRun (b : UInt8) : Bool := Bytes.isDigit b || b == byte '_'

/-- Nothing is left of nothing. -/
theorem stripped_nil : stripped [] = [] := rfl

/-- A byte that is no underscore stays. -/
theorem stripped_cons {b : UInt8} (h : b ≠ byte '_') (rest : Bytes) :
    stripped (b :: rest) = b :: stripped rest :=
  List.filter_cons_of_pos (by simpa using h)

/-- An underscore goes. -/
theorem stripped_underscore (rest : Bytes) : stripped (byte '_' :: rest) = stripped rest :=
  List.filter_cons_of_neg (by simp)

/-- Underscores go from each part of a text. -/
theorem stripped_append (s t : Bytes) : stripped (s ++ t) = stripped s ++ stripped t :=
  List.filter_append ..

/-- A text without underscores stays as it is. -/
theorem stripped_of_not_mem {text : Bytes} (h : byte '_' ∉ text) : stripped text = text := by
  refine List.filter_eq_self.2 fun b hb => ?_
  rw [bne_iff_ne]
  rintro rfl
  exact h hb

/-- A digit is no underscore. -/
theorem ne_underscore_of_isDigit {d : UInt8} (h : Bytes.isDigit d = true) : d ≠ byte '_' := by
  rintro rfl
  cases h

/-- What cannot stand in a run of digits is no underscore. -/
theorem ne_underscore_of_isOfRun {b : UInt8} (h : isOfRun b = false) : b ≠ byte '_' := by
  rintro rfl
  cases h

/-- Digits at the front of a text, before and after its underscores have been deleted. -/
theorem span_stripped (text : Bytes) :
    (stripped text).span Bytes.isDigit
      = (stripped (text.takeWhile isOfRun), stripped (text.dropWhile isOfRun)) := by
  rw [List.span_eq_takeWhile_dropWhile]
  induction text with
  | nil => rfl
  | cons b rest ih =>
    by_cases hb : b = byte '_'
    · subst hb
      rw [stripped_underscore, List.takeWhile_cons_of_pos (by decide),
        List.dropWhile_cons_of_pos (by decide), stripped_underscore]
      exact ih
    · have hrun : isOfRun b = Bytes.isDigit b := by simp [isOfRun, hb]
      rw [stripped_cons hb, List.takeWhile_cons, List.dropWhile_cons, List.takeWhile_cons,
        List.dropWhile_cons, hrun]
      split
      · rw [stripped_cons hb]
        injection ih with htake hdrop
        rw [htake, hdrop]
      · rw [stripped_cons hb]
        rfl

/-- At any other byte it is enough to know whether that is a digit. -/
theorem underscoresFit_cons {b : UInt8} (h : b ≠ byte '_') (before : Bool) (rest : Bytes) :
    underscoresFit before (b :: rest) = underscoresFit (Bytes.isDigit b) rest := by
  rw [underscoresFit.eq_def]
  exact if_neg (by simpa using h)

/-- An underscore fits behind a digit and before one. -/
theorem underscoresFit_underscore_iff {before : Bool} {rest : Bytes} :
    underscoresFit before (byte '_' :: rest) = true ↔
      before = true ∧ (∃ d more, rest = d :: more ∧ Bytes.isDigit d = true) ∧
        underscoresFit false rest = true := by
  rw [underscoresFit.eq_def]
  cases rest <;> simp [and_assoc]

/-- What is read as the digits at the front of a text is a run of digits, if the underscores fit,
and they fit in what follows. Behind a digit an underscore may come first. -/
theorem run_of_underscoresFit {before : Bool} {text : Bytes}
    (h : underscoresFit before text = true) :
    (text.takeWhile isOfRun = [] ∨ Run (text.takeWhile isOfRun) ∨
      before = true ∧ ∃ run, text.takeWhile isOfRun = byte '_' :: run ∧ Run run) ∧
    underscoresFit false (text.dropWhile isOfRun) = true := by
  induction text generalizing before with
  | nil => exact ⟨.inl rfl, rfl⟩
  | cons b rest ih =>
    by_cases hb : b = byte '_'
    · subst hb
      obtain ⟨hbefore, ⟨d, more, rfl, hd⟩, hrest⟩ := underscoresFit_underscore_iff.1 h
      obtain ⟨hrun, hdrop⟩ := ih hrest
      have hnonempty : (d :: more).takeWhile isOfRun ≠ [] := by
        rw [List.takeWhile_cons_of_pos (by simp [isOfRun, hd])]
        exact List.cons_ne_nil _ _
      rw [List.takeWhile_cons_of_pos (by decide), List.dropWhile_cons_of_pos (by decide)]
      refine ⟨.inr (.inr ⟨hbefore, _, rfl, ?_⟩), hdrop⟩
      rcases hrun with hnil | hrun | ⟨hfalse, -⟩
      · exact absurd hnil hnonempty
      · exact hrun
      · cases hfalse
    · rw [underscoresFit_cons hb] at h
      by_cases hd : Bytes.isDigit b = true
      · rw [hd] at h
        obtain ⟨hrun, hdrop⟩ := ih h
        have hpos : isOfRun b = true := by simp [isOfRun, hd]
        rw [List.takeWhile_cons_of_pos hpos, List.dropWhile_cons_of_pos hpos]
        refine ⟨.inr (.inl ?_), hdrop⟩
        rcases hrun with hnil | hrun | ⟨-, run, heq, hrun⟩
        · rw [hnil]
          exact .digit hd
        · exact .next hd hrun
        · rw [heq]
          exact .spaced hd hrun
      · have hneg : ¬ isOfRun b = true := by simp [isOfRun, hd, hb]
        rw [List.takeWhile_cons_of_neg hneg, List.dropWhile_cons_of_neg hneg,
          underscoresFit_cons hb]
        exact ⟨.inl rfl, h⟩

/-- A text with fitting underscores falls apart into the run of digits at its front, if there is
one, and a rest that starts with neither a digit nor an underscore. -/
theorem exists_run {text : Bytes} (h : underscoresFit false text = true) :
    ∃ run rest, text = run ++ rest ∧ (run = [] ∨ Run run) ∧ underscoresFit false rest = true ∧
      (∀ b more, rest = b :: more → isOfRun b = false) ∧
      (stripped text).span Bytes.isDigit = (stripped run, stripped rest) := by
  obtain ⟨hrun, hrest⟩ := run_of_underscoresFit h
  refine ⟨_, _, List.takeWhile_append_dropWhile.symm, ?_, hrest, ?_, span_stripped text⟩
  · rcases hrun with hnil | hrun | ⟨hfalse, -⟩
    · exact .inl hnil
    · exact .inr hrun
    · cases hfalse
  · intro b more heq
    have hhead := List.head?_dropWhile_not isOfRun text
    rw [heq] at hhead
    simpa using hhead

/-- A text with fitting underscores does not start with one. -/
theorem ne_underscore_of_fits {b : UInt8} {rest : Bytes}
    (h : underscoresFit false (b :: rest) = true) : b ≠ byte '_' := by
  rintro rfl
  cases (underscoresFit_underscore_iff.1 h).1

/-- A byte of a sign is a sign, and no digit. -/
theorem sign_of_isSign {b : UInt8} (h : isSign b = true) : Sign [b] ∧ Bytes.isDigit b = false := by
  simp only [isSign, Bool.or_eq_true, beq_iff_eq] at h
  rcases h with rfl | rfl
  · exact ⟨.plus, by decide⟩
  · exact ⟨.minus, by decide⟩

/-- The same of a sign at the front. -/
theorem exists_sign {text : Bytes} (h : underscoresFit false text = true) :
    ∃ sign rest, text = sign ++ rest ∧ Sign sign ∧ underscoresFit false rest = true ∧
      dropSign (stripped text) = stripped rest := by
  cases text with
  | nil => exact ⟨[], [], rfl, .none, rfl, rfl⟩
  | cons b rest =>
    have hb := ne_underscore_of_fits h
    rw [stripped_cons hb, dropSign]
    split
    · next hsign =>
      obtain ⟨hone, hdigit⟩ := sign_of_isSign hsign
      rw [underscoresFit_cons hb, hdigit] at h
      exact ⟨[b], rest, rfl, hone, h, rfl⟩
    · exact ⟨[], b :: rest, rfl, .none, h, (stripped_cons hb rest).symm⟩

/-! ## Letter case -/

/-- The bytes with a given lower case form. -/
theorem eq_of_lowerByte {b c : UInt8} (h : Bytes.lowerByte b = c) : b ∈ [c - 32, c] := by
  unfold Bytes.lowerByte at h
  split at h
  · simp [← h]
  · simp [h]

/-- A digit has no case. -/
theorem lowerByte_digit {d : UInt8} (h : Bytes.isDigit d = true) : Bytes.lowerByte d = d := by
  have hupper : Bytes.isUpper d = false := by
    simp only [Bytes.isDigit, Bytes.isUpper, Bool.and_eq_true, Bool.and_eq_false_iff,
      decide_eq_true_eq, decide_eq_false_iff_not, UInt8.le_iff_toNat_le] at h ⊢
    have hnine : (byte '9').toNat < (byte 'A').toNat := by decide
    omega
  simp [Bytes.lowerByte, hupper]

/-! ## Numerals among the tokens that are taken -/

/-- A rest that is taken as an exponent without its underscores is one. -/
theorem exponent_of_stripped {text : Bytes} (hfit : underscoresFit false text = true)
    (h : isExponentOrEnd (stripped text) = true) : Exponent text := by
  cases text with
  | nil => exact .none
  | cons e rest =>
    have he := ne_underscore_of_fits hfit
    rw [stripped_cons he, isExponentOrEnd, Bool.and_eq_true, Bool.and_eq_true, beq_iff_eq,
      Bool.not_eq_true', List.isEmpty_eq_false_iff, List.all_eq_true] at h
    obtain ⟨⟨hletter, hsome⟩, hdigits⟩ := h
    have hcase : e = byte 'e' ∨ e = byte 'E' := by
      have hmem : e ∈ [byte 'E', byte 'e'] := eq_of_lowerByte hletter
      simpa [or_comm] using hmem
    have hdigit : Bytes.isDigit e = false := by
      rcases hcase with rfl | rfl <;> decide
    rw [underscoresFit_cons he, hdigit] at hfit
    obtain ⟨sign, digits, rfl, hsign, hfit, hdrop⟩ := exists_sign hfit
    rw [hdrop] at hsome hdigits
    obtain ⟨run, more, rfl, hrun, -, hmore, -⟩ := exists_run hfit
    -- Nothing follows the run: all that is left without underscores is digits.
    obtain rfl : more = [] := by
      cases more with
      | nil => rfl
      | cons b more =>
        have hb := hmore b more rfl
        have hmem : b ∈ stripped (run ++ b :: more) := by
          rw [stripped_append, stripped_cons (ne_underscore_of_isOfRun hb)]
          simp
        simp [isOfRun, hdigits b hmem] at hb
    rw [List.append_nil] at hsome ⊢
    rcases hrun with rfl | hrun
    · exact absurd rfl hsome
    · exact .some hcase hsign hrun

/-- A token that is a decimal number without its underscores is one with them. -/
theorem numeral_of_isDecimal {token : Bytes} (hfit : underscoresFit false token = true)
    (h : isDecimal (stripped token) = true) : Numeral token := by
  obtain ⟨sign, unsigned, rfl, hsign, hfit, hdrop⟩ := exists_sign hfit
  obtain ⟨whole, rest, rfl, hwhole, hfit, hrest, hspan⟩ := exists_run hfit
  rw [isDecimal, hdrop, hspan] at h
  dsimp only at h
  cases rest with
  | nil =>
    rcases hwhole with rfl | hwhole
    · cases h
    · exact .decimal hsign (.whole hwhole) .none
  | cons b rest =>
    have hb := ne_underscore_of_isOfRun (hrest b rest rfl)
    rw [stripped_cons hb, fraction] at h
    split at h
    · next hpoint =>
      rw [beq_iff_eq] at hpoint
      subst hpoint
      rw [underscoresFit_cons (by decide)] at hfit
      obtain ⟨part, exponent, rfl, hpart, hfit, -, hspan⟩ := exists_run hfit
      rw [hspan] at h
      dsimp only at h
      rw [Bool.and_eq_true] at h
      have hexponent := exponent_of_stripped hfit h.2
      rcases hwhole with rfl | hwhole
      · rcases hpart with rfl | hpart
        · cases h.1
        · simpa using Numeral.decimal hsign (.pointBefore hpart) hexponent
      · rcases hpart with rfl | hpart
        · simpa using Numeral.decimal hsign (.pointBehind hwhole) hexponent
        · simpa using Numeral.decimal hsign (.pointAmong hwhole hpart) hexponent
    · rw [Bool.and_eq_true] at h
      have hexponent := exponent_of_stripped hfit (by rw [stripped_cons hb]; exact h.2)
      rcases hwhole with rfl | hwhole
      · cases h.1
      · exact .decimal hsign (.whole hwhole) hexponent

/-- A fitting underscore stands behind a digit. -/
theorem exists_digit_of_underscore {before : Bool} {text : Bytes}
    (h : underscoresFit before text = true) (hmem : byte '_' ∈ text) :
    ∃ d ∈ stripped text, Bytes.isDigit d = true := by
  induction text generalizing before with
  | nil => cases hmem
  | cons b rest ih =>
    by_cases hb : b = byte '_'
    · subst hb
      obtain ⟨-, ⟨d, more, rfl, hd⟩, -⟩ := underscoresFit_underscore_iff.1 h
      refine ⟨d, ?_, hd⟩
      rw [stripped_underscore, stripped_cons (ne_underscore_of_isDigit hd)]
      exact List.mem_cons_self
    · rw [underscoresFit_cons hb] at h
      obtain ⟨d, hd, hdigit⟩ := ih h (List.mem_of_ne_of_mem (Ne.symm hb) hmem)
      rw [stripped_cons hb]
      exact ⟨d, List.mem_cons_of_mem b hd, hdigit⟩

/-- The special words are infinity, which may have a sign, and the one for no number. -/
theorem isSpecial_iff {token : Bytes} : isSpecial token = true ↔
    (Bytes.lower (dropSign token) = bytes "inf" ∨
      Bytes.lower (dropSign token) = bytes "infinity") ∨ Bytes.lower token = bytes "nan" := by
  simp [isSpecial]

/-- What is dropped is a sign. -/
theorem dropSign_eq (text : Bytes) : ∃ sign, Sign sign ∧ text = sign ++ dropSign text := by
  cases text with
  | nil => exact ⟨[], .none, rfl⟩
  | cons b rest =>
    rw [dropSign]
    split
    · next h => exact ⟨[b], (sign_of_isSign h).1, rfl⟩
    · exact ⟨[], .none, rfl⟩

/-- The names of infinities and of what is no number. -/
def Name (word : Bytes) : Prop :=
  Bytes.lower word ∈ [bytes "inf", bytes "infinity", bytes "nan"]

/-- The words for infinity are names, in any case. -/
theorem Name.infinity {word : Bytes}
    (h : Bytes.lower word = bytes "inf" ∨ Bytes.lower word = bytes "infinity") : Name word := by
  rcases h with h | h <;> simp [Name, h]

/-- The word for no number is a name, in any case. -/
theorem Name.notANumber {word : Bytes} (h : Bytes.lower word = bytes "nan") : Name word := by
  simp [Name, h]

/-- The visible ASCII characters without `x`. -/
def isPlain (b : UInt8) : Bool := byte '!' ≤ b && b ≤ byte '~' && Bytes.lowerByte b != byte 'x'

/-- Names are made of letters. -/
theorem Name.of_mem {word : Bytes} (h : Name word) {b : UInt8} (hb : b ∈ word) :
    isOfRun b = false ∧ isSign b = false ∧ isPlain b = true := by
  have hlower : Bytes.lowerByte b ∈ Bytes.lower word := List.mem_map_of_mem hb
  have hletters : [bytes "inf", bytes "infinity", bytes "nan"].all (fun name =>
      name.all fun c => [c - 32, c].all fun b => !isOfRun b && !isSign b && isPlain b) = true := by
    decide
  simp only [List.all_eq_true, Bool.and_eq_true, Bool.not_eq_true', and_assoc] at hletters
  exact hletters _ h _ hlower b (eq_of_lowerByte rfl)

/-- A token of special meaning is a name, perhaps with a sign. -/
theorem exists_name_of_isSpecial {token : Bytes} (h : isSpecial token = true) :
    Numeral token ∧ ∃ sign word, token = sign ++ word ∧ Sign sign ∧ Name word := by
  rcases isSpecial_iff.1 h with hname | hname
  · obtain ⟨sign, hsign, heq⟩ := dropSign_eq token
    rw [heq]
    exact ⟨.infinity hsign hname, sign, _, rfl, hsign, .infinity hname⟩
  · exact ⟨.notANumber hname, [], token, rfl, .none, .notANumber hname⟩

/-- A token that has a special meaning without its underscores has none of them. -/
theorem numeral_of_stripped_isSpecial {token : Bytes} (hfit : underscoresFit false token = true)
    (h : isSpecial (stripped token) = true) : Numeral token := by
  obtain ⟨hnumeral, sign, word, heq, hsign, hname⟩ := exists_name_of_isSpecial h
  have hnone : byte '_' ∉ token := by
    intro hmem
    obtain ⟨d, hd, hdigit⟩ := exists_digit_of_underscore hfit hmem
    rw [heq, List.mem_append] at hd
    rcases hd with hd | hd
    · cases hsign with
      | none => cases hd
      | plus | minus => cases List.mem_singleton.1 hd; cases hdigit
    · have hrun := (hname.of_mem hd).1
      simp [isOfRun, hdigit] at hrun
  rwa [stripped_of_not_mem hnone] at hnumeral

/-! ## The underscores and the digits of a numeral -/

/-- A run begins with a digit. -/
theorem Run.exists_cons {run : Bytes} (h : Run run) :
    ∃ d more, run = d :: more ∧ Bytes.isDigit d = true := by
  cases h with
  | digit hd | next hd | spaced hd => exact ⟨_, _, rfl, hd⟩

/-- The underscores of a run fit. -/
theorem Run.underscoresFit {run : Bytes} (h : Run run) (before : Bool) :
    Token.underscoresFit before run = true := by
  induction h generalizing before with
  | digit hd => exact underscoresFit_cons (ne_underscore_of_isDigit hd) before []
  | next hd _ ih =>
    rw [underscoresFit_cons (ne_underscore_of_isDigit hd)]
    exact ih _
  | spaced hd hrest ih =>
    rw [underscoresFit_cons (ne_underscore_of_isDigit hd), underscoresFit_underscore_iff]
    exact ⟨hd, hrest.exists_cons, ih false⟩

/-- A run of digits without its underscores. -/
theorem Run.stripped {run : Bytes} (h : Run run) :
    Token.stripped run ≠ [] ∧ ∀ d ∈ Token.stripped run, Bytes.isDigit d = true := by
  induction h with
  | digit hd =>
    rw [stripped_cons (ne_underscore_of_isDigit hd)]
    exact ⟨List.cons_ne_nil _ _, by simpa [Token.stripped] using hd⟩
  | next hd _ ih => simpa [stripped_cons (ne_underscore_of_isDigit hd), hd] using ih.2
  | spaced hd _ ih =>
    simpa [stripped_cons (ne_underscore_of_isDigit hd), stripped_underscore, hd] using ih.2

/-- Underscores that fit in two texts fit when these are put together, since no text with fitting
underscores ends in one. -/
theorem underscoresFit_append {before : Bool} {s t : Bytes} (hs : underscoresFit before s = true)
    (ht : underscoresFit false t = true) : underscoresFit before (s ++ t) = true := by
  induction s generalizing before with
  | nil =>
    cases t with
    | nil => rfl
    | cons b rest =>
      have hb := ne_underscore_of_fits ht
      rw [List.nil_append, underscoresFit_cons hb]
      rwa [underscoresFit_cons hb] at ht
  | cons b rest ih =>
    by_cases hb : b = byte '_'
    · subst hb
      obtain ⟨hbefore, ⟨d, more, rfl, hd⟩, hrest⟩ := underscoresFit_underscore_iff.1 hs
      rw [List.cons_append, underscoresFit_underscore_iff]
      exact ⟨hbefore, ⟨d, more ++ t, rfl, hd⟩, ih hrest⟩
    · rw [List.cons_append, underscoresFit_cons hb]
      rw [underscoresFit_cons hb] at hs
      exact ih hs

/-- No underscores fit anywhere. -/
theorem underscoresFit_of_not_mem {text : Bytes} (h : byte '_' ∉ text) (before : Bool) :
    underscoresFit before text = true := by
  induction text generalizing before with
  | nil => rfl
  | cons b rest ih =>
    rw [List.mem_cons, not_or] at h
    rw [underscoresFit_cons (Ne.symm h.1)]
    exact ih h.2 _

/-- There is no underscore in a sign. -/
theorem Sign.not_mem {sign : Bytes} (h : Sign sign) : byte '_' ∉ sign := by
  cases h <;> decide

/-- The underscores of an exponent fit. -/
theorem Exponent.underscoresFit {exponent : Bytes} (h : Exponent exponent) :
    Token.underscoresFit false exponent = true := by
  cases h with
  | none => rfl
  | @some e sign run he hsign hrun =>
    have hletter : byte '_' ∉ [e] := by rcases he with rfl | rfl <;> decide
    exact underscoresFit_append (underscoresFit_of_not_mem hletter false)
      (underscoresFit_append (underscoresFit_of_not_mem hsign.not_mem false)
        (hrun.underscoresFit false))

/-- The underscores of a mantissa fit. -/
theorem Mantissa.underscoresFit {mantissa : Bytes} (h : Mantissa mantissa) :
    Token.underscoresFit false mantissa = true := by
  have hpoint : Token.underscoresFit false [byte '.'] = true := by decide
  cases h with
  | whole hrun => exact hrun.underscoresFit false
  | pointBehind hrun => exact underscoresFit_append (hrun.underscoresFit false) hpoint
  | pointAmong hrun hpart =>
    exact underscoresFit_append (hrun.underscoresFit false)
      (underscoresFit_append hpoint (hpart.underscoresFit false))
  | pointBefore hpart => exact underscoresFit_append hpoint (hpart.underscoresFit false)

/-- The digits at the front of a text. -/
theorem span_digits {digits rest : Bytes} (hdigits : ∀ d ∈ digits, Bytes.isDigit d = true)
    (hrest : ∀ b more, rest = b :: more → Bytes.isDigit b = false) :
    (digits ++ rest).span Bytes.isDigit = (digits, rest) := by
  rw [List.span_eq_takeWhile_dropWhile, List.takeWhile_append_of_pos hdigits,
    List.dropWhile_append_of_pos hdigits]
  cases rest with
  | nil => simp
  | cons b more =>
    have hb : ¬ Bytes.isDigit b = true := by simp [hrest b more rfl]
    rw [List.takeWhile_cons_of_neg hb, List.dropWhile_cons_of_neg hb, List.append_nil]

/-- A sign is dropped once. -/
theorem dropSign_append {sign rest : Bytes} (hsign : Sign sign)
    (hrest : ∀ b more, rest = b :: more → isSign b = false) : dropSign (sign ++ rest) = rest := by
  cases hsign with
  | none =>
    cases rest with
    | nil => rfl
    | cons b more => simp [dropSign, hrest b more rfl]
  | plus | minus => rfl

/-- A digit is no sign. -/
theorem isSign_of_isDigit {d : UInt8} (h : Bytes.isDigit d = true) : isSign d = false := by
  rw [Bool.eq_false_iff]
  intro hsign
  rw [(sign_of_isSign hsign).2] at h
  cases h

/-- An exponent without its underscores is taken as one, and starts with a letter. -/
theorem Exponent.stripped {exponent : Bytes} (h : Exponent exponent) :
    isExponentOrEnd (Token.stripped exponent) = true ∧
      ∀ b more, Token.stripped exponent = b :: more →
        Bytes.isDigit b = false ∧ b ≠ byte '.' := by
  cases h with
  | none => exact ⟨rfl, nofun⟩
  | @some e sign run he hsign hrun =>
    obtain ⟨hne, hdigits⟩ := hrun.stripped
    have hletter : Bytes.lowerByte e = byte 'e' ∧ e ≠ byte '_' ∧ Bytes.isDigit e = false ∧
        e ≠ byte '.' := by
      rcases he with rfl | rfl <;> decide
    obtain ⟨hlower, hunderscore, hend⟩ := hletter
    have hdrop : dropSign (sign ++ Token.stripped run) = Token.stripped run :=
      dropSign_append hsign fun b more heq =>
        isSign_of_isDigit (hdigits b (heq ▸ List.mem_cons_self))
    rw [stripped_cons hunderscore, stripped_append, stripped_of_not_mem hsign.not_mem]
    refine ⟨?_, ?_⟩
    · rw [isExponentOrEnd, hdrop, Bool.and_eq_true, Bool.and_eq_true, beq_iff_eq,
        Bool.not_eq_true', List.isEmpty_eq_false_iff, List.all_eq_true]
      exact ⟨⟨hlower, hne⟩, hdigits⟩
    · rintro _ _ ⟨⟩
      exact hend

section

variable {sign whole part exponent : Bytes} (hsign : Sign sign)
  (hwhole : ∀ d ∈ whole, Bytes.isDigit d = true) (hpart : ∀ d ∈ part, Bytes.isDigit d = true)
  (hexponent : isExponentOrEnd exponent = true)
  (hend : ∀ b more, exponent = b :: more → Bytes.isDigit b = false ∧ b ≠ byte '.')
include hsign hwhole hexponent hend

/-- Digits without a point are a decimal number. -/
theorem isDecimal_of_whole (hne : whole ≠ []) :
    isDecimal (sign ++ (whole ++ exponent)) = true := by
  have hdrop : dropSign (sign ++ (whole ++ exponent)) = whole ++ exponent := by
    refine dropSign_append hsign fun b more heq => ?_
    obtain ⟨d, digits, rfl⟩ := List.exists_cons_of_ne_nil hne
    cases heq
    exact isSign_of_isDigit (hwhole _ List.mem_cons_self)
  have hfraction : fraction exponent = ([], exponent) := by
    cases exponent with
    | nil => rfl
    | cons b more => simp [fraction, (hend b more rfl).2]
  rw [isDecimal, hdrop, span_digits hwhole fun b more heq => (hend b more heq).1]
  simp [hfraction, hne, hexponent]

include hpart in
/-- Digits with a point are a decimal number, unless there is none on either side. -/
theorem isDecimal_of_point (hne : whole ≠ [] ∨ part ≠ []) :
    isDecimal (sign ++ (whole ++ byte '.' :: (part ++ exponent))) = true := by
  have hdrop : dropSign (sign ++ (whole ++ byte '.' :: (part ++ exponent)))
      = whole ++ byte '.' :: (part ++ exponent) := by
    refine dropSign_append hsign fun b more heq => ?_
    cases whole with
    | nil => cases heq; decide
    | cons d digits => cases heq; exact isSign_of_isDigit (hwhole _ List.mem_cons_self)
  have hpoint : ∀ b more, byte '.' :: (part ++ exponent) = b :: more → Bytes.isDigit b = false := by
    rintro _ _ ⟨⟩
    decide
  have hfraction : fraction (byte '.' :: (part ++ exponent)) = (part, exponent) := by
    rw [fraction, if_pos (by simp)]
    exact span_digits hpart fun b more heq => (hend b more heq).1
  rw [isDecimal, hdrop, span_digits hwhole hpoint]
  simp only [hfraction, hexponent, Bool.and_true, Bool.not_eq_true', Bool.and_eq_false_iff,
    List.isEmpty_eq_false_iff]
  exact hne

end

/-- A decimal number without its underscores is one still. -/
theorem isDecimal_stripped {sign mantissa exponent : Bytes} (hsign : Sign sign)
    (hmantissa : Mantissa mantissa) (hexponent : Exponent exponent) :
    isDecimal (stripped (sign ++ (mantissa ++ exponent))) = true := by
  obtain ⟨htaken, hend⟩ := hexponent.stripped
  have hpoint : byte '.' ≠ byte '_' := by decide
  rw [stripped_append, stripped_append, stripped_of_not_mem hsign.not_mem]
  cases hmantissa with
  | whole hrun => exact isDecimal_of_whole hsign hrun.stripped.2 htaken hend hrun.stripped.1
  | pointBehind hrun =>
    have h := isDecimal_of_point hsign hrun.stripped.2 (List.forall_mem_nil _) htaken hend
      (.inl hrun.stripped.1)
    simpa [stripped_append, stripped_cons hpoint, stripped_nil] using h
  | pointAmong hrun hpart =>
    have h := isDecimal_of_point hsign hrun.stripped.2 hpart.stripped.2 htaken hend
      (.inl hrun.stripped.1)
    simpa [stripped_append, stripped_cons hpoint] using h
  | pointBefore hpart =>
    have h := isDecimal_of_point hsign (List.forall_mem_nil _) hpart.stripped.2 htaken hend
      (.inr hpart.stripped.1)
    simpa [stripped_append, stripped_cons hpoint] using h

/-- There is no underscore in a name. -/
theorem Name.underscore_not_mem {sign word : Bytes} (hsign : Sign sign) (h : Name word) :
    byte '_' ∉ sign ++ word := by
  intro hmem
  rcases List.mem_append.1 hmem with hmem | hmem
  · exact hsign.not_mem hmem
  · cases (h.of_mem hmem).1

/-- A name is left when its sign is dropped. -/
theorem Name.dropSign {sign word : Bytes} (hsign : Sign sign) (h : Name word) :
    Token.dropSign (sign ++ word) = word :=
  dropSign_append hsign fun _ _ heq => (h.of_mem (heq ▸ List.mem_cons_self)).2.1

/-! ## The characters of a numeral -/

/-- Digits are plain. -/
theorem isPlain_of_isDigit {d : UInt8} (h : Bytes.isDigit d = true) : isPlain d = true := by
  have hx : Bytes.lowerByte d ≠ byte 'x' := by
    rw [lowerByte_digit h]
    rintro rfl
    cases h
  have hfirst : (byte '!').toNat ≤ (byte '0').toNat := by decide
  have hlast : (byte '9').toNat ≤ (byte '~').toNat := by decide
  simp only [Bytes.isDigit, isPlain, Bool.and_eq_true, decide_eq_true_eq, bne_iff_ne,
    UInt8.le_iff_toNat_le] at h ⊢
  exact ⟨⟨hfirst.trans h.1, h.2.trans hlast⟩, hx⟩

/-- Signs are plain. -/
theorem Sign.isPlain {sign : Bytes} (h : Sign sign) : ∀ b ∈ sign, isPlain b = true := by
  cases h with
  | none => exact List.forall_mem_nil _
  | plus | minus => exact List.forall_mem_singleton.2 (by decide)

/-- Runs are plain. -/
theorem Run.isPlain {run : Bytes} (h : Run run) : ∀ b ∈ run, isPlain b = true := by
  have hunderscore : Token.isPlain (byte '_') = true := by decide
  induction h with
  | digit hd => simpa using isPlain_of_isDigit hd
  | next hd _ ih => exact List.forall_mem_cons.2 ⟨isPlain_of_isDigit hd, ih⟩
  | spaced hd _ ih =>
    exact List.forall_mem_cons.2
      ⟨isPlain_of_isDigit hd, List.forall_mem_cons.2 ⟨hunderscore, ih⟩⟩

/-- Mantissas are plain. -/
theorem Mantissa.isPlain {mantissa : Bytes} (h : Mantissa mantissa) :
    ∀ b ∈ mantissa, isPlain b = true := by
  have hpoint : Token.isPlain (byte '.') = true := by decide
  cases h with
  | whole hrun => exact hrun.isPlain
  | pointBehind hrun => exact List.forall_mem_append.2 ⟨hrun.isPlain, by simpa using hpoint⟩
  | pointAmong hrun hpart =>
    exact List.forall_mem_append.2
      ⟨hrun.isPlain, List.forall_mem_cons.2 ⟨hpoint, hpart.isPlain⟩⟩
  | pointBefore hpart => exact List.forall_mem_cons.2 ⟨hpoint, hpart.isPlain⟩

/-- Exponents are plain. -/
theorem Exponent.isPlain {exponent : Bytes} (h : Exponent exponent) :
    ∀ b ∈ exponent, isPlain b = true := by
  cases h with
  | none => exact List.forall_mem_nil _
  | @some e sign run he hsign hrun =>
    have hletter : Token.isPlain e = true := by rcases he with rfl | rfl <;> decide
    exact List.forall_mem_cons.2
      ⟨hletter, List.forall_mem_append.2 ⟨hsign.isPlain, hrun.isPlain⟩⟩

/-- Numerals are plain. -/
theorem Numeral.isPlain {numeral : Bytes} (h : Numeral numeral) :
    ∀ b ∈ numeral, isPlain b = true := by
  cases h with
  | decimal hsign hmantissa hexponent =>
    exact List.forall_mem_append.2
      ⟨hsign.isPlain, List.forall_mem_append.2 ⟨hmantissa.isPlain, hexponent.isPlain⟩⟩
  | infinity hsign hword =>
    have hname : Name _ := .infinity hword
    exact List.forall_mem_append.2 ⟨hsign.isPlain, fun b hb => (hname.of_mem hb).2.2⟩
  | notANumber hword => exact fun b hb => ((Name.notANumber hword).of_mem hb).2.2

/-- Plain bytes are characters that are not blank. -/
theorem visible_of_isPlain {b : UInt8} (h : isPlain b = true) :
    b < 0x80 ∧ Blank.isBlank b.toNat = false := by
  have hfirst : (byte '!').toNat = 0x21 := rfl
  have hlast : (byte '~').toNat = 0x7E := rfl
  simp only [isPlain, Bool.and_eq_true, decide_eq_true_eq, UInt8.le_iff_toNat_le] at h
  constructor
  · have hbound : (0x80 : UInt8).toNat = 0x80 := rfl
    rw [UInt8.lt_iff_toNat_lt]
    omega
  · simp only [Blank.isBlank, Bool.or_eq_false_iff, Bool.and_eq_false_iff, decide_eq_false_iff_not,
      beq_eq_false_iff_ne]
    omega

/-! ## Numerals are taken -/

/-- What looks hexadecimal has an `x` in it. -/
theorem looksHexadecimal_eq_false {token : Bytes} (h : ∀ b ∈ token, isPlain b = true) :
    looksHexadecimal token = false := by
  rw [Bool.eq_false_iff]
  intro hlooks
  unfold looksHexadecimal at hlooks
  split at hlooks
  · next zero x rest heq =>
    rw [Bool.and_eq_true, beq_iff_eq, beq_iff_eq] at hlooks
    have hmem : x ∈ token.dropWhile isSign := by simp [heq]
    have hx := h x ((List.dropWhile_sublist _).mem hmem)
    simp [isPlain, hlooks.2] at hx
  · cases hlooks

/-- A text that starts as a hexadecimal number is no numeral. -/
theorem StartsHexadecimal.not_numeral {text : Bytes} (h : StartsHexadecimal text) :
    ¬ Numeral text := by
  obtain ⟨sign, x, rest, -, hx, rfl⟩ := h
  intro hnumeral
  have hplain := hnumeral.isPlain x (by simp)
  rcases hx with rfl | rfl <;> cases hplain

/-- Nothing is found wrong with a numeral on the way. -/
theorem Numeral.taken {numeral : Bytes} (h : Numeral numeral) :
    looksHexadecimal numeral = false ∧ underscoresFit false numeral = true ∧
      (isDecimal (stripped numeral) || isSpecial (stripped numeral)) = true := by
  refine ⟨looksHexadecimal_eq_false h.isPlain, ?_⟩
  cases h with
  | decimal hsign hmantissa hexponent =>
    refine ⟨?_, by rw [isDecimal_stripped hsign hmantissa hexponent, Bool.true_or]⟩
    exact underscoresFit_append (underscoresFit_of_not_mem hsign.not_mem false)
      (underscoresFit_append hmantissa.underscoresFit hexponent.underscoresFit)
  | infinity hsign hword =>
    have hname : Name _ := .infinity hword
    have hnone := hname.underscore_not_mem hsign
    refine ⟨underscoresFit_of_not_mem hnone false, ?_⟩
    rw [stripped_of_not_mem hnone, isSpecial_iff.2 (.inl (by rwa [hname.dropSign hsign])),
      Bool.or_true]
  | notANumber hword =>
    have hnone : byte '_' ∉ numeral := (Name.notANumber hword).underscore_not_mem .none
    refine ⟨underscoresFit_of_not_mem hnone false, ?_⟩
    rw [stripped_of_not_mem hnone, isSpecial_iff.2 (.inr hword), Bool.or_true]

/-- A token is numeric just if it is a numeral once white space is trimmed. -/
theorem classify_eq_numeric_iff {token : Bytes} :
    classify token = .numeric ↔ Numeral (Blank.trimmed token) := by
  unfold classify
  generalize Blank.trimmed token = token
  constructor
  · intro h
    dsimp only at h
    split at h
    · cases h
    · split at h
      · cases h
      · next hfit =>
        rw [Bool.not_eq_true, Bool.not_eq_false'] at hfit
        split at h
        · next htaken =>
          rcases Bool.or_eq_true_iff.1 htaken with hdecimal | hspecial
          · exact numeral_of_isDecimal hfit hdecimal
          · exact numeral_of_stripped_isSpecial hfit hspecial
        · cases h
  · intro h
    obtain ⟨hlooks, hfit, htaken⟩ := h.taken
    unfold stripped at htaken
    simp [hlooks, hfit, htaken]

/-- A numeral with white space around it is what trimming leaves of that. -/
theorem numeral_trimmed_iff {token : Bytes} :
    Numeral (Blank.trimmed token) ↔
      ∃ lead numeral trail, token = lead ++ (numeral ++ trail) ∧ Blank.White lead ∧
        Blank.White trail ∧ Numeral numeral := by
  constructor
  · intro h
    obtain ⟨lead, trail, hlead, htrail, heq⟩ := Blank.exists_white token
    exact ⟨lead, _, trail, heq, hlead, htrail, h⟩
  · rintro ⟨lead, numeral, trail, rfl, hlead, htrail, h⟩
    rw [Blank.trimmed_white_append hlead htrail fun b hb => visible_of_isPlain (h.isPlain b hb)]
    exact h

/-- **Numeric tokens.** A token is numeric exactly if it is a numeral when white space at both ends
is left out, and an identifier otherwise; hexadecimal numbers are identifiers. -/
theorem classify_numeric_iff (token : Bytes) :
    (classify token = .numeric ↔
      ∃ lead numeral trail, token = lead ++ (numeral ++ trail) ∧ Blank.White lead ∧
        Blank.White trail ∧ Numeral numeral) ∧
    (classify token = .numeric ↔ Numeral (Blank.trimmed token)) ∧
    (classify token = .identifier ↔ ¬ Numeral (Blank.trimmed token)) ∧
    (StartsHexadecimal (Blank.trimmed token) → classify token = .identifier) := by
  have hidentifier : classify token = .identifier ↔ ¬ Numeral (Blank.trimmed token) := by
    rw [← classify_eq_numeric_iff]
    cases classify token <;> simp
  refine ⟨classify_eq_numeric_iff.trans numeral_trimmed_iff, classify_eq_numeric_iff, hidentifier,
    fun h => hidentifier.2 h.not_numeral⟩

example : classify (bytes " +1_000.5e-3\t") = .numeric := by decide
example : classify (bytes "0x1p4") = .identifier := by decide

end Token

end FunctionChain
