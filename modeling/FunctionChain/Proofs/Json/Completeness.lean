import FunctionChain.Proofs.Json.Soundness

/-!
# What the scanner accepts

The other direction: a text that the grammar derives is never refused. A derivation is followed with
the machine, whatever containers are open around it. A value that is complete hands over to what
follows it (`resume`), which inside a container is the rest of the container and at the top is
nothing of the machine's concern. A number has no end of its own, so it is asked that what follows
cannot continue one.

With soundness this settles what `scan` makes of a text: `scan_eq_blank_iff` and
`scan_alone_iff`.
-/

namespace FunctionChain

namespace Json

/-! ## Runs -/

/-- How a run goes on after a complete value. -/
def resume (frames : List Frame) (v : Json) (rest : Bytes) : Scanned :=
  match frames with
  | [] => .value v rest
  | _ :: _ => scanFrom ⟨frames, .afterValue v⟩ rest

/-- A byte that the scanner takes leaves it in its next state. -/
theorem scanFrom_next {scanner next : Scanner} {b : UInt8} {rest : Bytes}
    (h : step scanner b = .next next) : scanFrom scanner (b :: rest) = scanFrom next rest := by
  rw [scanFrom, h]

/-- A byte that completes a value goes on with what is around it. -/
theorem scanFrom_complete {scanner : Scanner} {frames : List Frame} {v : Json} {b : UInt8}
    {rest : Bytes} (h : step scanner b = complete frames v) :
    scanFrom scanner (b :: rest) = resume frames v rest := by
  rw [scanFrom, h]
  cases frames <;> rfl

/-- A state in which white space is passed over. -/
def Skips (scanner : Scanner) : Prop := ∀ b, Space b → step scanner b = .next scanner

/-- Where blanks are skipped any number of them is. -/
theorem Skips.scanFrom_append {scanner : Scanner} (h : Skips scanner) {s rest : Bytes}
    (hs : Spaces s) : scanFrom scanner (s ++ rest) = scanFrom scanner rest := by
  induction s with
  | nil => rfl
  | cons b s ih =>
    obtain ⟨hb, hs⟩ := Spaces.cons_iff.1 hs
    rw [List.cons_append, scanFrom_next (h b hb), ih hs]

/-- Blanks are skipped before a value. -/
theorem skips_value (frames : List Frame) : Skips ⟨frames, .value⟩ := by
  intro b hb
  simp [step, isSpace_iff.2 hb]

/-- Blanks are skipped before the first element of an array. -/
theorem skips_firstElement (frames : List Frame) : Skips ⟨frames, .firstElement⟩ := by
  intro b hb
  simp [step, isSpace_iff.2 hb]

/-- Blanks are skipped before the first name of an object. -/
theorem skips_firstName (frames : List Frame) : Skips ⟨frames, .firstName⟩ := by
  intro b hb
  simp [step, isSpace_iff.2 hb]

/-- Blanks are skipped before every other name. -/
theorem skips_name (frames : List Frame) : Skips ⟨frames, .name⟩ := by
  intro b hb
  simp [step, isSpace_iff.2 hb]

/-- Blanks are skipped before a colon. -/
theorem skips_colon (frames : List Frame) (name : Bytes) : Skips ⟨frames, .colon name⟩ := by
  intro b hb
  simp [step, isSpace_iff.2 hb]

/-- Blanks are skipped behind a value. -/
theorem skips_afterValue (frame : Frame) (outer : List Frame) (v : Json) :
    Skips ⟨frame :: outer, .afterValue v⟩ := by
  intro b hb
  cases frame <;> simp [step, Json.afterValue, isSpace_iff.2 hb]

/-! ## Words and strings -/

/-- The rest of a word. -/
theorem scanFrom_word {frames : List Frame} {word : Bytes} {v : Json} {rest : Bytes} :
    ∀ {missing : Bytes}, missing ≠ [] →
      scanFrom ⟨frames, .inWord word missing v⟩ (missing ++ rest) = resume frames v rest
  | [b], _ => scanFrom_complete (by simp [step])
  | b :: c :: missing, _ => by
    have hstep : step ⟨frames, .inWord word (b :: c :: missing) v⟩ b
        = .next ⟨frames, .inWord word (c :: missing) v⟩ := by simp [step]
    rw [List.cons_append, scanFrom_next hstep]
    exact scanFrom_word (by simp)

/-- A byte that is neither a control character nor a quote nor a backslash stands for itself. -/
theorem stringStep_plain {b : UInt8} (h₁ : 0x20 ≤ b) (h₂ : b ≠ 0x22) (h₃ : b ≠ 0x5C) :
    stringStep .plain b = .ok (some .plain) := by
  simp [stringStep, h₂, h₃, UInt8.not_lt.2 h₁]

/-- A letter behind a backslash ends its escape. -/
theorem stringStep_escape {letter : UInt8} (h : letter ∈ escapeLetters) :
    stringStep .escape letter = .ok (some .plain) := by
  have hu : letter ≠ byte 'u' := by
    rintro rfl
    exact absurd h (by decide)
  simp only [stringStep, beq_eq_false_iff_ne.2 hu, escapeLetters_contains_iff.2 h]
  rfl

/-- A hexadecimal digit is one less that is missing. -/
theorem stringStep_hex {b : UInt8} {missing : Nat} (h : HexDigit b) :
    stringStep (.hex missing) b
      = .ok (some (if missing ≤ 1 then .plain else .hex (missing - 1))) := by
  obtain ⟨value, hv⟩ := Option.isSome_iff_exists.1 (hexValue_isSome_iff.2 h)
  simp [stringStep, hv]

/-- A state inside quotes goes through the characters. `inside` is the state, whether the quotes
belong to a name or to a value. -/
theorem Characters.scanFrom_append {frames : List Frame} {inside : StringPart → Bytes → Expect}
    (hstep : ∀ {part next : StringPart} {written : Bytes} {b : UInt8},
      stringStep part b = .ok (some next) →
      step ⟨frames, inside part written⟩ b = .next ⟨frames, inside next (b :: written)⟩)
    {t : Bytes} (ht : Characters t) {written rest : Bytes} :
    scanFrom ⟨frames, inside .plain written⟩ (t ++ rest)
      = scanFrom ⟨frames, inside .plain (t.reverse ++ written)⟩ rest := by
  induction ht generalizing written with
  | nil => rfl
  | plain h₁ h₂ h₃ _ ih =>
    rw [List.cons_append, scanFrom_next (hstep (stringStep_plain h₁ h₂ h₃)), ih]
    simp
  | escape hl _ ih =>
    have hslash : stringStep .plain 0x5C = .ok (some .escape) := rfl
    rw [List.cons_append, scanFrom_next (hstep hslash), List.cons_append,
      scanFrom_next (hstep (stringStep_escape hl)), ih]
    simp
  | codeUnit ha hb hc hd _ ih =>
    have hslash : stringStep .plain 0x5C = .ok (some .escape) := rfl
    have hu : stringStep .escape 0x75 = .ok (some (.hex 4)) := rfl
    have ha : stringStep (.hex 4) _ = .ok (some (.hex 3)) := stringStep_hex ha
    have hb : stringStep (.hex 3) _ = .ok (some (.hex 2)) := stringStep_hex hb
    have hc : stringStep (.hex 2) _ = .ok (some (.hex 1)) := stringStep_hex hc
    have hd : stringStep (.hex 1) _ = .ok (some .plain) := stringStep_hex hd
    simp only [List.cons_append, scanFrom_next (hstep hslash), scanFrom_next (hstep hu),
      scanFrom_next (hstep ha), scanFrom_next (hstep hb), scanFrom_next (hstep hc),
      scanFrom_next (hstep hd)]
    simpa using ih

/-- A string value up to its closing quote. -/
theorem Characters.scanFrom_string {frames : List Frame} {t rest : Bytes} (ht : Characters t) :
    scanFrom ⟨frames, .inString .plain []⟩ (t ++ 0x22 :: rest)
      = resume frames (.string t) rest := by
  rw [ht.scanFrom_append fun h => by simp [step, h]]
  exact scanFrom_complete (by simp [step, stringStep])

/-- A name up to its closing quote. -/
theorem Characters.scanFrom_name {frames : List Frame} {t rest : Bytes} (ht : Characters t) :
    scanFrom ⟨frames, .inName .plain []⟩ (t ++ 0x22 :: rest)
      = scanFrom ⟨frames, .colon t⟩ rest := by
  rw [ht.scanFrom_append fun h => by simp [step, h]]
  exact scanFrom_next (by simp [step, stringStep])

/-! ## Numbers -/

/-- The part of a number that is reached from another by a text, if the text continues it. -/
def numberRun : NumberPart → Bytes → Option NumberPart
  | part, [] => some part
  | part, b :: rest =>
    match numberStep part b with
    | .ok (some next) => numberRun next rest
    | _ => none

/-- A byte that goes on with a number. -/
theorem numberRun_cons {part next : NumberPart} {b : UInt8} {rest : Bytes}
    (h : numberStep part b = .ok (some next)) :
    numberRun part (b :: rest) = numberRun next rest := by
  rw [numberRun, h]

/-- One part of a number after another. -/
theorem numberRun_append {part middle last : NumberPart} {s t : Bytes}
    (hs : numberRun part s = some middle) (ht : numberRun middle t = some last) :
    numberRun part (s ++ t) = some last := by
  induction s generalizing part with
  | nil => cases hs; exact ht
  | cons b s ih =>
    rw [numberRun] at hs
    split at hs
    · next hstep => rw [List.cons_append, numberRun_cons hstep, ih hs]
    · cases hs

/-- The scanner goes through a number as its parts say. -/
theorem scanFrom_numberRun {frames : List Frame} {part last : NumberPart} {t : Bytes}
    (h : numberRun part t = some last) {literal rest : Bytes} :
    scanFrom ⟨frames, .inNumber part literal⟩ (t ++ rest)
      = scanFrom ⟨frames, .inNumber last (t.reverse ++ literal)⟩ rest := by
  induction t generalizing part literal with
  | nil => cases h; rfl
  | cons b t ih =>
    rw [numberRun] at h
    split at h
    · next next hstep =>
      have hs : step ⟨frames, .inNumber part literal⟩ b
          = .next ⟨frames, .inNumber next (b :: literal)⟩ := by simp [step, hstep]
      rw [List.cons_append, scanFrom_next hs, ih h]
      simp
    · cases h

/-- A digit is no byte that is none. -/
theorem Digit.ne {b c : UInt8} (hb : Digit b) (hc : ¬ Digit c) : b ≠ c := by
  rintro rfl
  exact hc hb

/-- A part of a number that digits continue for as long as they come. -/
theorem numberRun_digits {part : NumberPart} {ds : Bytes} (hds : ∀ d ∈ ds, Digit d)
    (hp : part = .integer ∨ part = .fraction ∨ part = .exponentDigits) :
    numberRun part ds = some part := by
  induction ds with
  | nil => rfl
  | cons d ds ih =>
    obtain ⟨hd, hds⟩ := List.forall_mem_cons.1 hds
    have hstep : numberStep part d = .ok (some part) := by
      rcases hp with rfl | rfl | rfl <;> simp [numberStep, isDigit_iff.2 hd]
    rw [numberRun_cons hstep, ih hds]

/-- The part of a number that its first digit makes. -/
def wholePart (b : UInt8) : NumberPart := if b = 0x30 then .zero else .integer

/-- The digits before the point, after the first. -/
theorem Whole.run {whole : Bytes} (h : Whole whole) :
    ∃ b rest, whole = b :: rest ∧ Digit b ∧ numberRun (wholePart b) rest = some (wholePart b) := by
  cases h with
  | zero => exact ⟨0x30, [], rfl, by decide, rfl⟩
  | @digits b rest hb h0 hds =>
    have hw : wholePart b = .integer := if_neg h0
    exact ⟨b, rest, rfl, hb, by rw [hw]; exact numberRun_digits hds (.inl rfl)⟩

/-- The digits after the point. -/
theorem Fraction.run {fraction : Bytes} (h : Fraction fraction) (b : UInt8) :
    ∃ part, numberRun (wholePart b) fraction = some part ∧
      (part = .zero ∨ part = .integer ∨ part = .fraction) := by
  cases h with
  | none =>
    refine ⟨wholePart b, rfl, ?_⟩
    unfold wholePart
    split <;> simp
  | @digits ds hds =>
    obtain ⟨d, ds, rfl⟩ := List.exists_cons_of_ne_nil hds.1
    obtain ⟨hd, hrest⟩ := List.forall_mem_cons.1 hds.2
    have hpoint : numberStep (wholePart b) 0x2E = .ok (some .point) := by
      unfold wholePart
      split <;> rfl
    have hfirst : numberStep .point d = .ok (some .fraction) := by
      simp [numberStep, isDigit_iff.2 hd]
    refine ⟨.fraction, ?_, by simp⟩
    rw [numberRun_cons hpoint, numberRun_cons hfirst, numberRun_digits hrest (by simp)]

/-- The exponent. -/
theorem Exponent.run {exponent : Bytes} (h : Exponent exponent) {part : NumberPart}
    (hp : part = .zero ∨ part = .integer ∨ part = .fraction) :
    ∃ last, numberRun part exponent = some last ∧ last.isComplete = true := by
  have letter : ∀ e : UInt8, e = 0x65 ∨ e = 0x45 → numberStep part e = .ok (some .exponent) := by
    rintro e (rfl | rfl) <;> rcases hp with rfl | rfl | rfl <;> rfl
  cases h with
  | none =>
    refine ⟨part, rfl, ?_⟩
    rcases hp with rfl | rfl | rfl <;> rfl
  | @digits e ds he hds =>
    obtain ⟨d, ds, rfl⟩ := List.exists_cons_of_ne_nil hds.1
    obtain ⟨hd, hrest⟩ := List.forall_mem_cons.1 hds.2
    have hfirst : numberStep .exponent d = .ok (some .exponentDigits) := by
      have hplus : d ≠ byte '+' := hd.ne (by decide)
      have hminus : d ≠ byte '-' := hd.ne (by decide)
      simp [numberStep, hplus, hminus, isDigit_iff.2 hd]
    refine ⟨.exponentDigits, ?_, rfl⟩
    rw [numberRun_cons (letter e he), numberRun_cons hfirst, numberRun_digits hrest (by simp)]
  | @signed e sign ds he hs hds =>
    obtain ⟨d, ds, rfl⟩ := List.exists_cons_of_ne_nil hds.1
    obtain ⟨hd, hrest⟩ := List.forall_mem_cons.1 hds.2
    have hsign : numberStep .exponent sign = .ok (some .exponentSign) := by
      rcases hs with rfl | rfl <;> rfl
    have hfirst : numberStep .exponentSign d = .ok (some .exponentDigits) := by
      simp [numberStep, isDigit_iff.2 hd]
    refine ⟨.exponentDigits, ?_, rfl⟩
    rw [numberRun_cons (letter e he), numberRun_cons hsign, numberRun_cons hfirst,
      numberRun_digits hrest (by simp)]

/-- What follows cannot continue a number. -/
def NumberEnds (rest : Bytes) : Prop :=
  ∀ b ∈ rest.head?, ¬ Digit b ∧ b ≠ 0x2E ∧ b ≠ 0x65 ∧ b ≠ 0x45

/-- A number ends at a byte that cannot go on with it. -/
theorem NumberEnds.cons {b : UInt8} {rest : Bytes}
    (h : ¬ Digit b ∧ b ≠ 0x2E ∧ b ≠ 0x65 ∧ b ≠ 0x45) : NumberEnds (b :: rest) := by
  intro c hc
  cases hc
  exact h

/-- White space ends a number, and so does what comes after it if that does. -/
theorem Spaces.numberEnds {s rest : Bytes} (hs : Spaces s) (hr : NumberEnds rest) :
    NumberEnds (s ++ rest) := by
  cases s with
  | nil => exact hr
  | cons b s =>
    refine .cons ?_
    rcases (Spaces.cons_iff.1 hs).1 with rfl | rfl | rfl | rfl <;> decide

/-- A complete number ends there. -/
theorem numberStep_ends {part : NumberPart} {b : UInt8} (hc : part.isComplete = true)
    (hb : ¬ Digit b ∧ b ≠ 0x2E ∧ b ≠ 0x65 ∧ b ≠ 0x45) : numberStep part b = .ok none := by
  obtain ⟨hd, hp, he, hE⟩ := hb
  have hd : Bytes.isDigit b = false := Bool.eq_false_iff.2 (mt isDigit_iff.1 hd)
  have hp : b ≠ byte '.' := hp
  have he : b ≠ byte 'e' := he
  have hE : b ≠ byte 'E' := hE
  cases part with
  | minus | point | exponent | exponentSign => cases hc
  | zero | integer | fraction | exponentDigits => simp [numberStep, hd, hp, he, hE]

/-- A number that is complete hands over to what follows. -/
theorem scanFrom_numberEnds {frames : List Frame} {part : NumberPart} {literal rest : Bytes}
    (hc : part.isComplete = true) (hr : NumberEnds rest) :
    scanFrom ⟨frames, .inNumber part literal⟩ rest
      = resume frames (.number literal.reverse) rest := by
  cases rest with
  | nil => cases frames <;> simp [scanFrom, resume, Scanner.finish, hc]
  | cons b rest =>
    have hs := numberStep_ends hc (hr b rfl)
    cases frames <;> simp [scanFrom, resume, step, hs, Json.afterValue]

/-- The first byte of a number without a sign. -/
theorem startValue_digit {frames : List Frame} {b : UInt8} (hb : Digit b) :
    startValue frames b = .next ⟨frames, .inNumber (wholePart b) [b]⟩ := by
  have h₁ : b ≠ 0x7B := hb.ne (by decide)
  have h₂ : b ≠ 0x5B := hb.ne (by decide)
  have h₃ : b ≠ 0x22 := hb.ne (by decide)
  have h₄ : b ≠ byte '-' := hb.ne (by decide)
  unfold startValue wholePart
  by_cases h0 : b = 0x30
  · subst h0
    rfl
  · have h0' : b ≠ byte '0' := h0
    simp [h₁, h₂, h₃, h₄, h0, h0', isDigit_iff.2 hb]

/-- The first digit of a number behind a minus. -/
theorem numberStep_minus {b : UInt8} (hb : Digit b) :
    numberStep .minus b = .ok (some (wholePart b)) := by
  unfold numberStep wholePart
  by_cases h0 : b = 0x30
  · subst h0
    rfl
  · have h0' : b ≠ byte '0' := h0
    simp [h0, h0', isDigit_iff.2 hb]

/-- White space does not start a value. -/
theorem step_value {frames : List Frame} {b : UInt8} (hb : ¬ Space b) :
    step ⟨frames, .value⟩ b = startValue frames b := by
  simp [step, Bool.eq_false_iff.2 (mt isSpace_iff.1 hb)]

/-- A digit is no blank. -/
theorem Digit.not_space {b : UInt8} (hb : Digit b) : ¬ Space b := by
  rintro (rfl | rfl | rfl | rfl) <;> exact absurd hb (by decide)

/-- A number, up to what cannot continue it. -/
theorem Number.scanFrom_append {literal : Bytes} (h : Number literal) {frames : List Frame}
    {rest : Bytes} (hr : NumberEnds rest) :
    scanFrom ⟨frames, .value⟩ (literal ++ rest) = resume frames (.number literal) rest := by
  cases h with
  | @mk sign whole fraction exponent hsign hwhole hfraction hexponent =>
  obtain ⟨b, more, rfl, hb, hmore⟩ := hwhole.run
  obtain ⟨middle, hmiddle, hm⟩ := hfraction.run b
  obtain ⟨last, hlast, hc⟩ := hexponent.run hm
  -- All of the number after its first digit.
  have hrun : numberRun (wholePart b) (more ++ (fraction ++ exponent)) = some last :=
    numberRun_append hmore (numberRun_append hmiddle hlast)
  cases hsign with
  | none =>
    have hstart : step ⟨frames, .value⟩ b = .next ⟨frames, .inNumber (wholePart b) [b]⟩ :=
      (step_value hb.not_space).trans (startValue_digit hb)
    rw [List.nil_append, List.cons_append, List.cons_append, scanFrom_next hstart,
      scanFrom_numberRun hrun, scanFrom_numberEnds hc hr]
    simp
  | minus =>
    have hrun : numberRun .minus (b :: (more ++ (fraction ++ exponent))) = some last := by
      rw [numberRun_cons (numberStep_minus hb), hrun]
    have hstart : step ⟨frames, .value⟩ 0x2D = .next ⟨frames, .inNumber .minus [0x2D]⟩ := rfl
    rw [List.cons_append, List.cons_append, scanFrom_next hstart, List.nil_append,
      List.cons_append, scanFrom_numberRun hrun, scanFrom_numberEnds hc hr]
    simp

/-! ## Values -/

/-- A value starts with a byte that is neither white space nor the end of an array. -/
theorem Spells.head {v : Json} {t : Bytes} (h : Spells v t) :
    ∃ b rest, t = b :: rest ∧ ¬ Space b ∧ b ≠ 0x5D := by
  cases h with
  | null => exact ⟨0x6E, _, rfl, by decide, by decide⟩
  | true => exact ⟨0x74, _, rfl, by decide, by decide⟩
  | false => exact ⟨0x66, _, rfl, by decide, by decide⟩
  | string => exact ⟨0x22, _, rfl, by decide, by decide⟩
  | emptyArray | array => exact ⟨0x5B, _, rfl, by decide, by decide⟩
  | emptyObject | object => exact ⟨0x7B, _, rfl, by decide, by decide⟩
  | number hn =>
    cases hn with
    | mk hsign hwhole _ _ =>
    cases hsign with
    | minus => exact ⟨0x2D, _, rfl, by decide, by decide⟩
    | none =>
      obtain ⟨b, rest, rfl, hb, -⟩ := hwhole.run
      exact ⟨b, _, rfl, hb.not_space, hb.ne (by decide)⟩

/-- The white space before an item, the first or a later one: the first is read like any other. -/
theorem scanFrom_item {frames : List Frame} {expect : Expect} {v : Json} {s t rest : Bytes}
    (he : expect = .firstElement ∨ expect = .value) (hs : Spaces s) (ht : Spells v t) :
    scanFrom ⟨frames, expect⟩ (s ++ (t ++ rest)) = scanFrom ⟨frames, .value⟩ (t ++ rest) := by
  rcases he with rfl | rfl
  · obtain ⟨b, more, rfl, hb, hclose⟩ := ht.head
    have hstep : step ⟨frames, .firstElement⟩ b = step ⟨frames, .value⟩ b := by
      simp [step, Bool.eq_false_iff.2 (mt isSpace_iff.1 hb), hclose]
    rw [(skips_firstElement frames).scanFrom_append hs, List.cons_append, scanFrom, hstep, scanFrom]
  · exact (skips_value frames).scanFrom_append hs

/-- The opening quote of a name, the first or a later one. -/
theorem scanFrom_quote {frames : List Frame} {expect : Expect} {s rest : Bytes}
    (he : expect = .firstName ∨ expect = .name) (hs : Spaces s) :
    scanFrom ⟨frames, expect⟩ (s ++ 0x22 :: rest)
      = scanFrom ⟨frames, .inName .plain []⟩ rest := by
  rcases he with rfl | rfl
  · rw [(skips_firstName frames).scanFrom_append hs]
    exact scanFrom_next rfl
  · rw [(skips_name frames).scanFrom_append hs]
    exact scanFrom_next rfl

/-- A name with its colon. -/
theorem scanFrom_member {outer : List Frame} {members : List (Bytes × Json)}
    {name old s₂ s₃ rest : Bytes} (hn : Characters name) (h₂ : Spaces s₂) (h₃ : Spaces s₃) :
    scanFrom ⟨.object members old :: outer, .inName .plain []⟩
        (name ++ 0x22 :: (s₂ ++ 0x3A :: (s₃ ++ rest)))
      = scanFrom ⟨.object members name :: outer, .value⟩ rest := by
  have hcolon : step ⟨.object members old :: outer, .colon name⟩ 0x3A
      = .next ⟨.object members name :: outer, .value⟩ := rfl
  rw [hn.scanFrom_name, (skips_colon _ _).scanFrom_append h₂, scanFrom_next hcolon,
    (skips_value _).scanFrom_append h₃]

/-- An array that may still be opened. -/
theorem scanFrom_openArray {frames : List Frame} {rest : Bytes} (hl : frames.length < maxDepth) :
    scanFrom ⟨frames, .value⟩ (0x5B :: rest)
      = scanFrom ⟨.array [] :: frames, .firstElement⟩ rest :=
  scanFrom_next (if_pos hl)

/-- An object that may still be opened. -/
theorem scanFrom_openObject {frames : List Frame} {rest : Bytes} (hl : frames.length < maxDepth) :
    scanFrom ⟨frames, .value⟩ (0x7B :: rest)
      = scanFrom ⟨.object [] [] :: frames, .firstName⟩ rest :=
  scanFrom_next (if_pos hl)

section
variable {outer : List Frame} {v : Json} {s rest : Bytes}

/-- After an element and a comma there comes another one. -/
theorem resume_item_comma {done : List Json} (hs : Spaces s) :
    resume (.array done :: outer) v (s ++ 0x2C :: rest)
      = scanFrom ⟨.array (v :: done) :: outer, .value⟩ rest :=
  ((skips_afterValue _ _ _).scanFrom_append hs).trans (scanFrom_next rfl)

/-- After an element and a bracket the array is complete. -/
theorem resume_item_close {done : List Json} (hs : Spaces s) :
    resume (.array done :: outer) v (s ++ 0x5D :: rest)
      = resume outer (.array (v :: done).reverse) rest :=
  ((skips_afterValue _ _ _).scanFrom_append hs).trans (scanFrom_complete rfl)

/-- After a member and a comma there comes another name. -/
theorem resume_member_comma {done : List (Bytes × Json)} {name : Bytes} (hs : Spaces s) :
    resume (.object done name :: outer) v (s ++ 0x2C :: rest)
      = scanFrom ⟨.object ((name, v) :: done) [] :: outer, .name⟩ rest :=
  ((skips_afterValue _ _ _).scanFrom_append hs).trans (scanFrom_next rfl)

/-- After a member and a brace the object is complete. -/
theorem resume_member_close {done : List (Bytes × Json)} {name : Bytes} (hs : Spaces s) :
    resume (.object done name :: outer) v (s ++ 0x7D :: rest)
      = resume outer (.object ((name, v) :: done).reverse) rest :=
  ((skips_afterValue _ _ _).scanFrom_append hs).trans (scanFrom_complete rfl)

end

/-- A number ends at a comma. -/
theorem numberEnds_comma {rest : Bytes} : NumberEnds (0x2C :: rest) := .cons (by decide)
/-- A number ends at a bracket. -/
theorem numberEnds_bracket {rest : Bytes} : NumberEnds (0x5D :: rest) := .cons (by decide)
/-- A number ends at a brace. -/
theorem numberEnds_brace {rest : Bytes} : NumberEnds (0x7D :: rest) := .cons (by decide)

mutual

/-- **A value is read to its end**, below whatever containers are open around it. -/
theorem Spells.scanFrom_append {v : Json} {t : Bytes} (h : Spells v t) {frames : List Frame}
    {rest : Bytes} (hd : depth v + frames.length ≤ maxDepth) (hr : NumberEnds rest) :
    scanFrom ⟨frames, .value⟩ (t ++ rest) = resume frames v rest := by
  match h with
  | .null => exact (scanFrom_next rfl).trans (scanFrom_word (by decide))
  | .true => exact (scanFrom_next rfl).trans (scanFrom_word (by decide))
  | .false => exact (scanFrom_next rfl).trans (scanFrom_word (by decide))
  | .number hn => exact hn.scanFrom_append hr
  | .string hc =>
    have hquote : step ⟨frames, .value⟩ 0x22 = .next ⟨frames, .inString .plain []⟩ := rfl
    rw [List.cons_append, List.append_assoc, scanFrom_next hquote]
    exact hc.scanFrom_string
  | .emptyArray hs =>
    have hl := (depth_array_add_le_iff.1 hd).1
    rw [List.cons_append, List.append_assoc, scanFrom_openArray hl,
      (skips_firstElement _).scanFrom_append hs]
    exact scanFrom_complete rfl
  | .array hi =>
    obtain ⟨hl, hdi⟩ := depth_array_add_le_iff.1 hd
    rw [List.cons_append, List.append_assoc, scanFrom_openArray hl]
    exact hi.scanFrom_append (.inl rfl) hdi
  | .emptyObject hs =>
    have hl := (depth_object_add_le_iff.1 hd).1
    rw [List.cons_append, List.append_assoc, scanFrom_openObject hl,
      (skips_firstName _).scanFrom_append hs]
    exact scanFrom_complete rfl
  | .object hm =>
    obtain ⟨hl, hdm⟩ := depth_object_add_le_iff.1 hd
    rw [List.cons_append, List.append_assoc, scanFrom_openObject hl]
    exact hm.scanFrom_append (.inl rfl) hdm

/-- The items of an array are read to its end. `done` holds those before in reverse. -/
theorem SpellsItems.scanFrom_append {items : List Json} {text : Bytes} (h : SpellsItems items text)
    {outer : List Frame} {done : List Json} {expect : Expect} {rest : Bytes}
    (he : expect = .firstElement ∨ expect = .value)
    (hd : ∀ item ∈ items, depth item + outer.length < maxDepth) :
    scanFrom ⟨.array done :: outer, expect⟩ (text ++ 0x5D :: rest)
      = resume outer (.array (done.reverse ++ items)) rest := by
  match h with
  | .last (v := v) h₁ ht h₂ =>
    have hdv : depth v + (Frame.array done :: outer).length ≤ maxDepth := hd v (by simp)
    rw [List.append_assoc, List.append_assoc, scanFrom_item he h₁ ht,
      ht.scanFrom_append hdv (h₂.numberEnds numberEnds_bracket), resume_item_close h₂]
    simp
  | .cons (v := v) h₁ ht h₂ hi =>
    have hdv : depth v + (Frame.array done :: outer).length ≤ maxDepth := hd v (by simp)
    have hdi := (List.forall_mem_cons.1 hd).2
    rw [List.append_assoc, List.append_assoc, List.append_assoc, List.cons_append,
      scanFrom_item he h₁ ht, ht.scanFrom_append hdv (h₂.numberEnds numberEnds_comma),
      resume_item_comma h₂, hi.scanFrom_append (.inr rfl) hdi]
    simp

/-- The members of an object are read to its end. `done` holds those before in reverse. -/
theorem SpellsMembers.scanFrom_append {members : List (Bytes × Json)} {text : Bytes}
    (h : SpellsMembers members text) {outer : List Frame} {done : List (Bytes × Json)}
    {old : Bytes} {expect : Expect} {rest : Bytes} (he : expect = .firstName ∨ expect = .name)
    (hd : ∀ member ∈ members, depth member.2 + outer.length < maxDepth) :
    scanFrom ⟨.object done old :: outer, expect⟩ (text ++ 0x7D :: rest)
      = resume outer (.object (done.reverse ++ members)) rest := by
  match h with
  | @SpellsMembers.last name v _ _ _ _ _ h₁ hn h₂ h₃ ht h₄ =>
    have hdv : depth v + (Frame.object done name :: outer).length ≤ maxDepth :=
      hd (name, v) (by simp)
    simp only [List.append_assoc, List.cons_append]
    rw [scanFrom_quote he h₁, scanFrom_member hn h₂ h₃,
      ht.scanFrom_append hdv (h₄.numberEnds numberEnds_brace), resume_member_close h₄]
    simp
  | @SpellsMembers.cons name v _ _ _ _ _ _ _ h₁ hn h₂ h₃ ht h₄ hm =>
    have hdv : depth v + (Frame.object done name :: outer).length ≤ maxDepth :=
      hd (name, v) (by simp)
    have hdm := (List.forall_mem_cons.1 hd).2
    simp only [List.append_assoc, List.cons_append]
    rw [scanFrom_quote he h₁, scanFrom_member hn h₂ h₃,
      ht.scanFrom_append hdv (h₄.numberEnds numberEnds_comma), resume_member_comma h₄,
      hm.scanFrom_append (.inr rfl) hdm]
    simp

end

/-! ## Whole texts -/

/-- A text that is a value, not nested deeper than `bound`, with nothing but white space around
it. -/
def SpellsAlone (bound : Nat) (v : Json) (text : Bytes) : Prop :=
  ∃ s₁ t s₂, text = s₁ ++ (t ++ s₂) ∧ Spaces s₁ ∧ Spells v t ∧ Spaces s₂ ∧ depth v ≤ bound

/-- Nothing is found exactly in white space. -/
theorem scan_eq_blank_iff {text : Bytes} : scan text = .blank ↔ Spaces text := by
  constructor
  · intro h
    have hs := scan_sound text
    rw [h] at hs
    exact hs
  · intro h
    have hskip : scanFrom .start (text ++ []) = .blank := (skips_value []).scanFrom_append h
    rwa [List.append_nil] at hskip

/-- **What a text holds.** One value is found, and nothing after it, exactly in the texts that the
grammar derives from the value. -/
theorem scan_alone_iff {v : Json} {text : Bytes} :
    (∃ rest, scan text = .value v rest ∧ scan rest = .blank) ↔ SpellsAlone maxDepth v text := by
  constructor
  · rintro ⟨rest, hv, hrest⟩
    have hs := scan_sound text
    rw [hv] at hs
    obtain ⟨_, ⟨s, t, rfl, hs, ht, hd⟩, rfl⟩ := hs
    exact ⟨s, t, rest, by simp, hs, ht, scan_eq_blank_iff.1 hrest, hd⟩
  · rintro ⟨s₁, t, s₂, rfl, h₁, ht, h₂, hd⟩
    have hends : NumberEnds (s₂ ++ []) := h₂.numberEnds (by simp [NumberEnds])
    rw [List.append_nil] at hends
    refine ⟨s₂, ?_, scan_eq_blank_iff.2 h₂⟩
    rw [scan, Scanner.start, (skips_value []).scanFrom_append h₁]
    exact ht.scanFrom_append hd hends

/-- A text spells at most one value. -/
theorem SpellsAlone.unique {v w : Json} {text : Bytes} (hv : SpellsAlone maxDepth v text)
    (hw : SpellsAlone maxDepth w text) : v = w := by
  obtain ⟨rest, hscan, -⟩ := scan_alone_iff.2 hv
  obtain ⟨other, hother, -⟩ := scan_alone_iff.2 hw
  cases hscan.symm.trans hother
  rfl

end Json

end FunctionChain
