import FunctionChain.Time.Calendar
import Mathlib.Algebra.BigOperators.Group.List.Basic
import Mathlib.Algebra.Ring.Nat

/-!
# Days and dates

Every day has a date, and the date tells the day: `dayNumber` and `dateOf` are inverse where the
date is one of the calendar. The cycle of 400 years is taken apart once, into the years that have
passed and the days of the year at hand (`Split`), and the months of a year are gone through by
induction on their lengths.
-/

namespace FunctionChain

namespace Calendar

/-- The dates of the calendar. -/
structure Date.IsValid (date : Date) : Prop where
  month : 1 ≤ date.month ∧ date.month ≤ 12
  day : 1 ≤ date.day ∧ date.day ≤ daysIn date.year date.month

/-! ## Months -/

/-- The days of a year. -/
def yearLength (leap : Bool) : Nat := if leap then 366 else 365

/-- The months make up the year. -/
theorem sum_monthLengths (leap : Bool) : (monthLengths leap).sum = yearLength leap := by
  cases leap <;> rfl

/-- There are twelve months. -/
theorem length_monthLengths (leap : Bool) : (monthLengths leap).length = 12 := rfl

/-- No month is longer than 31 days. -/
theorem daysIn_le (year : Int) (month : Nat) : daysIn year month ≤ 31 := by
  have hlengths : ∀ leap, ∀ length ∈ monthLengths leap, length ≤ 31 := by decide
  rw [daysIn, List.getD_eq_getElem?_getD]
  cases h : (monthLengths (isLeap year))[month - 1]? with
  | none => exact Nat.zero_le 31
  | some length => exact hlengths _ _ (List.mem_of_getElem? h)

/-- The month and the day in it are those in which a day of the year falls. -/
theorem monthOf_spec {lengths : List Nat} {month day : Nat} (h : day < lengths.sum) :
    ∃ k < lengths.length, ∃ d < lengths.getD k 0,
      monthOf lengths month day = (month + k, d + 1) ∧ (lengths.take k).sum + d = day := by
  induction lengths generalizing month day with
  | nil => simp at h
  | cons length rest ih =>
    rw [monthOf]
    split
    · next hday => exact ⟨0, by simp, day, by simpa using hday, rfl, by simp⟩
    · next hday =>
      rw [List.sum_cons] at h
      obtain ⟨k, hk, d, hd, hmonth, hsum⟩ := @ih (month + 1) (day - length) (by omega)
      refine ⟨k + 1, by simpa using hk, d, by simpa using hd, ?_, ?_⟩
      · rw [hmonth]
        congr 1
        omega
      · rw [List.take_succ_cons, List.sum_cons]
        omega

/-! ## Years -/

/-- A day as years that have passed, in cycles, centuries, fours and single ones, and days of the
year at hand. -/
structure Split (day cycle : Int) (century four year inYear : Nat) : Prop where
  centuries : century ≤ 3
  fours : four ≤ 24
  years : year ≤ 3
  whole : day = 146097 * cycle + 36524 * century + 1461 * four + 365 * year + inYear
  /-- The leap day is in the last of four years, unless that ends a century that ends no cycle. -/
  rest : inYear < 365 ∨ inYear = 365 ∧ year = 3 ∧ (four = 24 → century = 3)

/-- The first three parts of a stretch have all the same length, and the last takes the rest. -/
theorem min_three_div (n size : Nat) (hsize : 0 < size) :
    min 3 (n / size) ≤ 3 ∧ min 3 (n / size) * size ≤ n ∧
      (min 3 (n / size) < 3 → n < (min 3 (n / size) + 1) * size) := by
  refine ⟨Nat.min_le_left 3 _, ?_, fun h => ?_⟩
  · exact Nat.le_trans (Nat.mul_le_mul_right size (Nat.min_le_right 3 _))
      (Nat.div_mul_le_self n size)
  · have hmin : min 3 (n / size) = n / size := by omega
    rw [hmin, Nat.mul_comm]
    exact Nat.lt_mul_div_succ n hsize

/-- The split that dates are found by. -/
theorem exists_split (day : Int) : ∃ cycle century four year inYear,
    Split day cycle century four year inYear ∧
      let number : Int := 400 * cycle + 100 * century + 4 * four + year + 1
      let place := monthOf (monthLengths (isLeap number)) 1 inYear
      dateOf day = ⟨number, place.1, place.2⟩ := by
  refine ⟨_, _, _, _, _, ?_, rfl⟩
  have hcycle : ((day % 146097).toNat : Int) = day % 146097 := by omega
  generalize (day % 146097).toNat = inCycle at hcycle
  have hcentury := min_three_div inCycle 36524 (by decide)
  generalize min 3 (inCycle / 36524) = century at hcentury
  have hinCentury : inCycle - century * 36524 + century * 36524 = inCycle := by omega
  generalize inCycle - century * 36524 = inCentury at hinCentury
  have hyear := min_three_div (inCentury % 1461) 365 (by decide)
  generalize min 3 (inCentury % 1461 / 365) = year at hyear
  exact ⟨by omega, by omega, by omega, by omega, by omega⟩

variable {day cycle : Int} {century four year inYear : Nat}

/-- The days before the year at hand. -/
theorem Split.daysBeforeYear (h : Split day cycle century four year inYear) :
    daysBeforeYear (400 * cycle + 100 * century + 4 * four + year + 1) + inYear = day := by
  obtain ⟨hcentury, hfour, hyear, rfl, -⟩ := h
  unfold Calendar.daysBeforeYear
  have hfours : (400 * cycle + 100 * century + 4 * four + year + 1 - 1) / 4
      = 100 * cycle + 25 * century + four := by omega
  have hcenturies : (400 * cycle + 100 * century + 4 * four + year + 1 - 1) / 100
      = 4 * cycle + century := by omega
  have hcycles : (400 * cycle + 100 * century + 4 * four + year + 1 - 1) / 400 = cycle := by omega
  dsimp only
  rw [hfours, hcenturies, hcycles]
  omega

/-- The day at hand is a day of its year. -/
theorem Split.inYear_lt (h : Split day cycle century four year inYear) :
    inYear < yearLength (isLeap (400 * cycle + 100 * century + 4 * four + year + 1)) := by
  obtain ⟨hcentury, hfour, hyear, -, hin⟩ := h
  unfold yearLength
  split
  · omega
  · next hleap =>
    simp only [isLeap, Bool.and_eq_true, Bool.or_eq_true, beq_iff_eq, bne_iff_ne] at hleap
    omega

/-! ## Dates -/

/-- The number of a day counts the years, the months and the days before it. -/
theorem dayNumber_eq (date : Date) :
    dayNumber date = daysBeforeYear date.year
      + (((monthLengths (isLeap date.year)).take (date.month - 1)).sum : Nat)
      + (date.day - 1 : Int) := by
  rw [dayNumber, List.sum_eq_foldl]

/-- **Dates.** The date of a day is one of the calendar and is on that day. -/
theorem dateOf_spec (day : Int) : (dateOf day).IsValid ∧ dayNumber (dateOf day) = day := by
  obtain ⟨cycle, century, four, year, inYear, hsplit, hdate⟩ := exists_split day
  have hlt := hsplit.inYear_lt
  rw [← sum_monthLengths] at hlt
  obtain ⟨k, hk, d, hd, hmonth, hsum⟩ := @monthOf_spec _ 1 _ hlt
  rw [length_monthLengths] at hk
  dsimp only at hdate
  rw [hmonth] at hdate
  rw [hdate]
  refine ⟨⟨by dsimp only; omega, ?_⟩, ?_⟩
  · dsimp only
    rw [daysIn, Nat.add_sub_cancel_left]
    omega
  · rw [dayNumber_eq]
    dsimp only
    rw [Nat.add_sub_cancel_left]
    have hyears := hsplit.daysBeforeYear
    omega

/-- Days from the first one on are in years from 1 on. -/
theorem one_le_year_dateOf {day : Int} (h : 0 ≤ day) : 1 ≤ (dateOf day).year := by
  obtain ⟨cycle, century, four, year, inYear, hsplit, hdate⟩ := exists_split day
  obtain ⟨hcentury, hfour, hyear, hday, hin⟩ := hsplit
  rw [hdate]
  dsimp only
  omega

end Calendar

end FunctionChain
