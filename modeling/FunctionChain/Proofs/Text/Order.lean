import FunctionChain.Text.Bytes

/-!
# The bytewise order

`Bytes.before` is the lexicographic order of the bytes (`before_iff_lex`). Its reflexive form
`Bytes.atMost` is total and transitive, which is what sorting by it asks for.
-/

namespace FunctionChain

namespace Bytes

/-- One text is before another when it is its beginning, or has the smaller byte at the first place
where they differ. -/
theorem before_iff_lex {s t : Bytes} : before s t = true ↔ List.Lex (· < ·) s t := by
  induction s generalizing t with
  | nil => cases t <;> simp [before]
  | cons a s ih =>
    cases t with
    | nil => simp [before]
    | cons b t =>
      rw [List.cons_lex_cons_iff, ← ih, before]
      split
      · next h => simp [h]
      · next h =>
        split
        · next h' =>
          have hne : a ≠ b := by
            rintro rfl
            exact h h'
          simp [h, hne]
        · next h' =>
          have heq : a = b := UInt8.le_antisymm (UInt8.not_lt.1 h') (UInt8.not_lt.1 h)
          simp [heq]

/-- What comes before the earlier comes before the later. -/
theorem before_trans {s t u : Bytes} (h₁ : before s t = true) (h₂ : before t u = true) :
    before s u = true := by
  rw [before_iff_lex] at *
  exact List.lex_trans UInt8.lt_trans h₁ h₂

/-- Of two texts one at most comes before the other. -/
theorem before_asymm {s t : Bytes} (h : before s t = true) : before t s = false := by
  have hbyte : ∀ x y : UInt8, ¬ x < y ∨ ¬ y < x := by
    intro x y
    rcases UInt8.lt_or_le x y with hxy | hxy
    · exact .inr (UInt8.lt_asymm hxy)
    · exact .inl (UInt8.not_lt.2 hxy)
  rw [Bool.eq_false_iff, ne_eq, before_iff_lex]
  rw [before_iff_lex] at h
  exact (List.not_lex_total hbyte s t).resolve_left (not_not_intro h)

/-- Texts neither of which is before the other are the same. -/
theorem eq_of_not_before {s t : Bytes} (h₁ : before s t = false) (h₂ : before t s = false) :
    s = t := by
  induction s generalizing t with
  | nil =>
    cases t with
    | nil => rfl
    | cons b t => cases h₁
  | cons a s ih =>
    cases t with
    | nil => cases h₂
    | cons b t =>
      have hab : ¬ a < b := by
        intro h
        simp [before, h] at h₁
      have hba : ¬ b < a := by
        intro h
        simp [before, h] at h₂
      obtain rfl : a = b := UInt8.le_antisymm (UInt8.not_lt.1 hba) (UInt8.not_lt.1 hab)
      simp only [before, hab, if_false] at h₁ h₂
      rw [ih h₁ h₂]

/-- Two texts are in one order or the other. -/
theorem atMost_total (s t : Bytes) : (atMost s t || atMost t s) = true := by
  simp only [atMost]
  cases h : before t s with
  | false => rfl
  | true => simp [before_asymm h]

/-- A text is at most itself. -/
theorem atMost_refl (s : Bytes) : atMost s s = true := by
  simpa using atMost_total s s

/-- What is at most the lesser is at most the greater. -/
theorem atMost_trans {s t u : Bytes} (h₁ : atMost s t = true) (h₂ : atMost t u = true) :
    atMost s u = true := by
  simp only [atMost, Bool.not_eq_true'] at *
  rw [Bool.eq_false_iff]
  intro hus
  cases hst : before s t with
  | true =>
    rw [before_trans hus hst] at h₂
    cases h₂
  | false =>
    rw [eq_of_not_before hst h₁, h₂] at hus
    cases hus

/-- Sorted texts are in order. -/
theorem pairwise_sorted (texts : List Bytes) :
    (sorted texts).Pairwise fun s t => atMost s t = true := by
  apply List.pairwise_mergeSort
  · intro s t u
    exact atMost_trans
  · exact atMost_total

/-- Texts that are all different are in strict order once they are sorted. -/
theorem pairwise_before_sorted {texts : List Bytes} (h : texts.Nodup) :
    (sorted texts).Pairwise fun s t => before s t = true := by
  have hnodup : (sorted texts).Nodup := (List.mergeSort_perm _ _).nodup_iff.2 h
  refine ((pairwise_sorted texts).and hnodup).imp fun {s t} hst => ?_
  obtain ⟨hle, hne⟩ := hst
  rw [← Bool.not_eq_false]
  refine fun hnot => hne (eq_of_not_before hnot ?_)
  simpa [atMost] using hle

end Bytes

end FunctionChain
