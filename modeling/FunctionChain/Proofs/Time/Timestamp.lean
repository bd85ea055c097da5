import FunctionChain.Proofs.Text.Decimal
import FunctionChain.Proofs.Time.Calendar
import FunctionChain.Time.Timestamp
import Mathlib.Data.List.TakeWhile

/-!
# Times read back

A time that can be written is read back as it was, to the nanosecond and with its zone, as long as
the zone is a whole number of minutes (`parse_write`). The reader takes off part by part what the
writer has put there, so there is one lemma for each part, each with any text behind it.
-/

namespace FunctionChain

namespace Timestamp

/-! ## Numbers of fixed width -/

/-- A mark is read where it stands. -/
theorem readMark_cons (mark : UInt8) (rest : Bytes) : readMark mark (mark :: rest) = .ok rest := by
  simp [readMark]

/-- Two digits are read back. -/
theorem twoDigits?_padded {n : Nat} (h : n < 100) (rest : Bytes) :
    twoDigits? (Decimal.padded n 2 ++ rest) = some (n, rest) := by
  rw [Decimal.padded_two h]
  simp only [List.cons_append, List.nil_append, twoDigits?, Decimal.isDigit_digit, Bool.and_self,
    if_true, Decimal.toNat_digit]
  congr 2
  omega

/-- They are read back where one would do. -/
theorem oneOrTwoDigits?_padded {n : Nat} (h : n < 100) (rest : Bytes) :
    oneOrTwoDigits? (Decimal.padded n 2 ++ rest) = some (n, rest) := by
  have htwo := twoDigits?_padded h rest
  rw [Decimal.padded_two h] at htwo ⊢
  simp only [List.cons_append, oneOrTwoDigits?] at htwo ⊢
  rw [htwo]

/-- A year is read back. -/
theorem readYear_padded {n : Nat} (h : n < 10000) (rest : Bytes) :
    readYear (Decimal.padded n 4 ++ rest) = .ok (n, rest) := by
  have hread : Decimal.toNat? (Decimal.padded n 4) = some n := by
    rw [Decimal.toNat?_eq_readDigits (by simp [Decimal.padded_four h]), Decimal.readDigits_padded]
  rw [Decimal.padded_four h] at hread ⊢
  simp [readYear, hread]

/-! ## Fractions -/

/-- Digits are read with their place values. -/
theorem readDigits_eq_foldl {text : Bytes} (h : ∀ b ∈ text, Bytes.isDigit b = true) (acc : Nat) :
    Decimal.readDigits acc text = some (text.foldl (fun n b => n * 10 + (b.toNat - 48)) acc) := by
  induction text generalizing acc with
  | nil => rfl
  | cons b rest ih =>
    rw [List.forall_mem_cons] at h
    rw [Decimal.readDigits, if_pos h.1, ih h.2, List.foldl_cons]

/-- Each zero at the end gives ten times as much. -/
theorem foldl_zeros (acc k : Nat) :
    (List.replicate k (byte '0')).foldl (fun n b => n * 10 + (b.toNat - 48)) acc =
      acc * 10 ^ k := by
  induction k generalizing acc with
  | zero => simp
  | succ k ih =>
    have hzero : acc * 10 + ((byte '0').toNat - 48) = acc * 10 := rfl
    rw [List.replicate_succ, List.foldl_cons, ih, hzero, Nat.pow_succ']
    exact Nat.mul_assoc acc 10 _

/-- A text is what is left without certain bytes at its end, and these. -/
theorem exists_dropEndWhile (text : Bytes) (b : UInt8) :
    ∃ k, text = Bytes.dropEndWhile text (· == b) ++ List.replicate k b := by
  have hall : ∀ c ∈ text.reverse.takeWhile (· == b), c = b := by
    intro c hc
    simpa using List.mem_takeWhile_imp hc
  refine ⟨(text.reverse.takeWhile (· == b)).length, ?_⟩
  rw [← List.reverse_inj, Bytes.dropEndWhile, List.reverse_append, List.reverse_reverse,
    List.reverse_replicate, ← List.eq_replicate_of_mem hall, List.takeWhile_append_dropWhile]

/-- The digits of a fraction have its value, whether or not the zeros at their end stand there. -/
theorem fractionNanos_dropEndWhile {nanos : Nat} (h : nanos < 10 ^ 9) :
    fractionNanos (Bytes.dropEndWhile (Decimal.padded nanos 9) (· == byte '0')) = nanos := by
  obtain ⟨k, hk⟩ := exists_dropEndWhile (Decimal.padded nanos 9) (byte '0')
  have hlength := Decimal.length_padded 8 h
  have hvalue := Decimal.readDigits_padded nanos 9
  rw [readDigits_eq_foldl (fun b => Decimal.isDigit_of_mem_padded), Option.some.injEq] at hvalue
  generalize Bytes.dropEndWhile (Decimal.padded nanos 9) (· == byte '0') = digits at hk ⊢
  rw [hk] at hlength hvalue
  rw [List.foldl_append, foldl_zeros] at hvalue
  rw [List.length_append, List.length_replicate] at hlength
  have htake : digits.take 9 = digits := List.take_of_length_le (by omega)
  have hk : 9 - digits.length = k := by omega
  rw [fractionNanos, htake, hk]
  exact hvalue

/-- What may follow a fraction. -/
def EndsDigits (rest : Bytes) : Prop :=
  ∃ b more, rest = b :: more ∧ Bytes.isDigit b = false ∧ b ≠ byte '.' ∧ b ≠ byte ','

/-- A fraction is read back, with the zeros at its end that were left out. -/
theorem readFraction_fractionText {nanos : Nat} (h : nanos < 10 ^ 9) {rest : Bytes}
    (hrest : EndsDigits rest) : readFraction (fractionText nanos ++ rest) = (nanos, rest) := by
  obtain ⟨b, more, rfl, hdigit, hpoint, hcomma⟩ := hrest
  unfold fractionText
  split
  · next hzero =>
    rw [beq_iff_eq] at hzero
    cases more with
    | nil => simp [readFraction, hzero]
    | cons c more => simp [readFraction, hzero, hpoint, hcomma]
  · next hzero =>
    have hvalue := fractionNanos_dropEndWhile h
    have hdigits : ∀ c ∈ Bytes.dropEndWhile (Decimal.padded nanos 9) (· == byte '0'),
        Bytes.isDigit c = true := by
      intro c hc
      have hmem : c ∈ (Decimal.padded nanos 9).reverse :=
        (List.dropWhile_sublist _).mem (List.mem_reverse.1 hc)
      exact Decimal.isDigit_of_mem_padded (List.mem_reverse.1 hmem)
    generalize Bytes.dropEndWhile (Decimal.padded nanos 9) (· == byte '0') = digits
      at hvalue hdigits
    cases digits with
    | nil =>
      rw [← hvalue] at hzero
      exact absurd rfl hzero
    | cons d digits =>
      have hspan : (d :: digits ++ b :: more).span Bytes.isDigit = (d :: digits, b :: more) := by
        rw [List.span_eq_takeWhile_dropWhile, List.takeWhile_append_of_pos hdigits,
          List.dropWhile_append_of_pos hdigits]
        simp [hdigit]
      have hfirst := hdigits d (by simp)
      rw [List.cons_append, List.cons_append, readFraction]
      simp only [beq_self_eq_true, Bool.true_or, hfirst, Bool.and_self, if_true]
      rw [← List.cons_append, hspan]
      simp only [hvalue]

/-! ## Zones -/

/-- The digits of a fraction end before the zone. -/
theorem endsDigits_zoneText (offset : Int) : EndsDigits (zoneText offset) := by
  unfold zoneText
  split
  · exact ⟨_, _, rfl, by decide, by decide, by decide⟩
  · dsimp only
    split
    · exact ⟨_, _, rfl, by decide, by decide, by decide⟩
    · exact ⟨_, _, rfl, by decide, by decide, by decide⟩

/-- A sign, hours and minutes are read as the seconds that they come to. -/
theorem readZone_signed {sign : UInt8} (hsign : sign = byte '+' ∨ sign = byte '-')
    {hours minutes : Nat}
    (hhours : hours < 24) (hminutes : minutes < 60) :
    readZone (sign :: (Decimal.padded hours 2 ++ byte ':' :: Decimal.padded minutes 2))
      = .ok (if sign = byte '-' then -(((hours * 60 + minutes) * 60 : Nat) : Int)
          else (((hours * 60 + minutes) * 60 : Nat) : Int), []) := by
  have htwoHours := twoDigits?_padded (Nat.lt_trans hhours (by decide)) []
  have htwoMinutes := twoDigits?_padded (Nat.lt_trans hminutes (by decide)) []
  rw [List.append_nil, Decimal.padded_two (by omega)] at htwoHours htwoMinutes
  rw [Decimal.padded_two (by omega), Decimal.padded_two (by omega)]
  have hfine : ¬ minutes > 60 ∧ ¬ hours > 24 := by omega
  have hcolon : (byte ':' != byte ':') = false := rfl
  rcases hsign with rfl | rfl
  · have hminus : ¬ byte '+' = byte '-' := by decide
    simp only [List.cons_append, List.nil_append]
    rw [readZone.eq_2 _ _ _ _ _ _ _ (by decide), hcolon, htwoHours, htwoMinutes]
    simp [hfine, hminus]
  · have hplus : ¬ byte '-' = byte '+' := by decide
    simp only [List.cons_append, List.nil_append]
    rw [readZone.eq_2 _ _ _ _ _ _ _ (by decide), hcolon, htwoHours, htwoMinutes]
    simp [hfine, hplus]

/-- A zone of whole minutes is read back. -/
theorem readZone_zoneText {offset : Int} (hminutes : offset % 60 = 0)
    (hday : offset.natAbs < 24 * 3600) : readZone (zoneText offset) = .ok (offset, []) := by
  unfold zoneText
  split
  · next hzero =>
    rw [beq_iff_eq] at hzero
    subst hzero
    rfl
  · have hsigned {sign : UInt8} (hsign : sign = byte '+' ∨ sign = byte '-') :=
      @readZone_signed sign hsign ((offset / 60).natAbs / 60) ((offset / 60).natAbs % 60) (by omega)
        (by omega)
    have hcolon : bytes ":" = [byte ':'] := rfl
    have hminus : ¬ byte '+' = byte '-' := by decide
    have hwhole : offset.tdiv 60 = offset / 60 :=
      Int.tdiv_eq_ediv_of_dvd (Int.dvd_of_emod_eq_zero hminutes)
    dsimp only
    rw [hwhole, hcolon, List.append_assoc, List.cons_append]
    split
    · next hnegative =>
      refine (hsigned (.inr rfl)).trans ?_
      rw [if_pos rfl]
      congr 2
      omega
    · next hpositive =>
      refine (hsigned (.inl rfl)).trans ?_
      rw [if_neg hminus]
      congr 2
      omega

/-! ## Times -/

/-- The times that can be written: those of the years from 0 to 9999, in zones less than a day
away. -/
theorem write_eq_ok_iff {time : Timestamp} {text : Bytes} :
    time.write = .ok text ↔ (0 ≤ time.date.year ∧ time.date.year ≤ 9999) ∧
      time.offset.natAbs < 24 * 3600 ∧ time.preciseText = text := by
  simp only [write, Bool.or_eq_true, decide_eq_true_eq]
  grind

/-- A part that is found and in its range is read. -/
theorem readPart_eq {digits : Bytes → Option (Nat × Bytes)} {piece part : Bytes}
    {isFine : Nat → Bool}
    {text rest : Bytes} {n : Nat} (h : digits text = some (n, rest)) (hfine : isFine n = true) :
    readPart digits piece part isFine text = .ok (n, rest) := by
  simp [readPart, h, hfine]

/-- The text of a time by its parts. -/
def partsText (year month day hour minute second : Nat) (rest : Bytes) : Bytes :=
  Decimal.padded year 4 ++ byte '-' :: (Decimal.padded month 2 ++ byte '-' ::
    (Decimal.padded day 2 ++ byte 'T' :: (Decimal.padded hour 2 ++ byte ':' ::
    (Decimal.padded minute 2 ++ byte ':' :: (Decimal.padded second 2 ++ rest)))))

/-- A time is written by its parts. -/
theorem preciseText_eq {time : Timestamp} (h : 0 ≤ time.date.year) :
    time.preciseText = partsText time.date.year.natAbs time.date.month time.date.day
      (time.secondOfDay / 3600) (time.secondOfDay / 60 % 60) (time.secondOfDay % 60)
      (fractionText time.nanos ++ zoneText time.offset) := by
  have hdash : bytes "-" = [byte '-'] := rfl
  have hcolon : bytes ":" = [byte ':'] := rfl
  have hyear : yearText time.date.year = Decimal.padded time.date.year.natAbs 4 := by
    rw [yearText, if_neg (Int.not_lt.2 h), List.nil_append]
  simp [preciseText, clockText, markedText, partsText, hyear, hdash, hcolon]

/-- The parts of a time are read one after another. -/
theorem parse_partsText {year month day hour minute second nanos : Nat} {offset : Int}
    {rest : Bytes}
    (hyear : year < 10000) (hmonth : 1 ≤ month ∧ month ≤ 12)
    (hday : 1 ≤ day ∧ day ≤ Calendar.daysIn year month) (hdays : day < 100) (hhour : hour < 24)
    (hminute : minute < 60) (hsecond : second < 60) {zone : Bytes}
    (hfraction : readFraction rest = (nanos, zone)) (hzone : readZone zone = .ok (offset, [])) :
    parse (partsText year month day hour minute second rest)
      = .ok ⟨Calendar.dayNumber ⟨year, month, day⟩ * daySeconds
          + (hour * 3600 + minute * 60 + second : Nat) - offset, nanos, offset⟩ := by
  have hnot : ¬ (day < 1 || day > Calendar.daysIn year month) = true := by
    simp only [Bool.or_eq_true, decide_eq_true_eq]
    omega
  simp only [parse, partsText, bind, Except.bind, readYear_padded hyear, readMark_cons]
  rw [readPart_eq (twoDigits?_padded (by omega) _) (by simpa using hmonth)]
  simp only [readMark_cons]
  rw [readPart_eq (twoDigits?_padded hdays _) rfl]
  simp only [readMark_cons]
  rw [readPart_eq (oneOrTwoDigits?_padded (by omega) _) (by simpa using hhour)]
  simp only [readMark_cons]
  rw [readPart_eq (twoDigits?_padded (by omega) _) (by simpa using hminute)]
  simp only [readMark_cons]
  rw [readPart_eq (twoDigits?_padded (by omega) _) (by simpa using hsecond)]
  simp only [hfraction, hzone, List.isEmpty_nil, Bool.not_true, Bool.false_eq_true, if_false, hnot]
  rfl

/-- The date of a time is the day on which it falls in its zone. -/
theorem date_spec (time : Timestamp) : time.date.IsValid ∧
    Calendar.dayNumber time.date = (time.seconds + time.offset) / daySeconds :=
  Calendar.dateOf_spec _

/-- The second of the day and the day make up the time. -/
theorem seconds_eq (time : Timestamp) :
    (time.seconds + time.offset) / daySeconds * daySeconds
      + ((time.secondOfDay / 3600 * 3600 + time.secondOfDay / 60 % 60 * 60
        + time.secondOfDay % 60 : Nat) : Int) - time.offset = time.seconds := by
  have hclock : (time.secondOfDay : Int) = (time.seconds + time.offset) % daySeconds := by
    unfold secondOfDay daySeconds
    omega
  unfold daySeconds at *
  omega

/-- **Times.** A time that can be written is read back as it was, if its zone is a whole number of
minutes. -/
theorem parse_write {time : Timestamp} {text : Bytes} (hnanos : time.nanos < 10 ^ 9)
    (hminutes : time.offset % 60 = 0) (h : time.write = .ok text) : parse text = .ok time := by
  obtain ⟨⟨hlow, hhigh⟩, hzone, rfl⟩ := write_eq_ok_iff.1 h
  have hclock : time.secondOfDay < 86400 := by
    unfold secondOfDay daySeconds
    omega
  obtain ⟨hvalid, hnumber⟩ := date_spec time
  have hyear : (time.date.year.natAbs : Int) = time.date.year := Int.natAbs_of_nonneg hlow
  have hday : 1 ≤ time.date.day ∧
      time.date.day ≤ Calendar.daysIn time.date.year.natAbs time.date.month := hyear ▸ hvalid.day
  have hdays : time.date.day < 100 :=
    Nat.lt_of_le_of_lt hday.2 (Nat.lt_of_le_of_lt (Calendar.daysIn_le _ _) (by decide))
  rw [preciseText_eq hlow,
    parse_partsText (by omega) hvalid.month hday hdays (by omega) (by omega) (by omega)
    (readFraction_fractionText hnanos (endsDigits_zoneText _)) (readZone_zoneText hminutes hzone)]
  have hdate : (⟨time.date.year.natAbs, time.date.month, time.date.day⟩ : Calendar.Date)
      = time.date := by rw [hyear]
  have hseconds := seconds_eq time
  rw [← hnumber] at hseconds
  rw [hdate]
  exact congrArg (fun seconds => Except.ok (⟨seconds, time.nanos, time.offset⟩ : Timestamp))
    hseconds

end Timestamp

end FunctionChain
