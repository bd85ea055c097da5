import FunctionChain.Text.Bytes
import Mathlib.Data.List.TakeDrop
import Mathlib.Data.List.TakeWhile

/-!
# Cutting and joining texts

A text that is cut at a mark is told by its pieces: what stands before a mark and what stands behind
it are cut on their own (`splitOn_append`), and pieces that were joined are taken apart again if the
mark stands in none of them (`splitOn_joined`).
-/

namespace FunctionChain

namespace Bytes

/-! ## Cutting at every mark -/

variable {mark : UInt8}

/-- Pieces that were cut before stay in front. -/
theorem foldl_splitStep (text : Bytes) (pieces : List Bytes) (last : Bytes) :
    text.foldl (splitStep mark) (pieces, last)
      = ((text.foldl (splitStep mark) ([], last)).1 ++ pieces,
        (text.foldl (splitStep mark) ([], last)).2) := by
  induction text generalizing pieces last with
  | nil => rfl
  | cons b rest ih =>
    simp only [List.foldl_cons, splitStep]
    split
    · rw [ih (last.reverse :: pieces), ih [last.reverse]]
      simp
    · exact ih _ _

/-- Without a mark nothing is cut. -/
theorem foldl_splitStep_of_not_mem {text : Bytes} (h : mark ∉ text) (last : Bytes) :
    text.foldl (splitStep mark) ([], last) = ([], text.reverse ++ last) := by
  induction text generalizing last with
  | nil => rfl
  | cons b rest ih =>
    simp only [List.mem_cons, not_or] at h
    have hb : (b == mark) = false := beq_eq_false_iff_ne.2 (Ne.symm h.1)
    simp [splitStep, hb, ih h.2]

/-- A text without a mark is one piece. -/
theorem splitOn_of_not_mem {text : Bytes} (h : mark ∉ text) : splitOn text mark = [text] := by
  simp [splitOn, foldl_splitStep_of_not_mem h]

/-- What stands before a mark and what stands behind it are cut on their own. -/
theorem splitOn_append (s t : Bytes) :
    splitOn (s ++ mark :: t) mark = splitOn s mark ++ splitOn t mark := by
  have hmark (state : List Bytes × Bytes) :
      splitStep mark state mark = (state.2.reverse :: state.1, []) := by simp [splitStep]
  simp only [splitOn, List.foldl_append, List.foldl_cons, hmark]
  rw [foldl_splitStep t]
  simp

/-- **Texts by their pieces.** What holds of texts without a mark, and of a text with one more such
piece and a mark before it, holds of all texts. -/
theorem splitInduction (mark : UInt8) {motive : Bytes → Prop} (last : ∀ s, mark ∉ s → motive s)
    (cons : ∀ s t, mark ∉ s → motive t → motive (s ++ mark :: t)) (text : Bytes) : motive text := by
  induction h : text.length using Nat.strongRecOn generalizing text with
  | ind n ih =>
    subst h
    by_cases hmark : mark ∈ text
    · obtain ⟨s, t, rfl, hs⟩ := List.eq_append_cons_of_mem hmark
      exact cons s t hs (ih _ (by simp only [List.length_append, List.length_cons]; omega) t rfl)
    · exact last text hmark

/-- There is no mark in a piece. -/
theorem not_mem_of_mem_splitOn {text piece : Bytes} (h : piece ∈ splitOn text mark) :
    mark ∉ piece := by
  induction text using splitInduction mark with
  | last s hs =>
    rw [splitOn_of_not_mem hs, List.mem_singleton] at h
    exact h ▸ hs
  | cons s t hs ih =>
    rw [splitOn_append, splitOn_of_not_mem hs, List.singleton_append, List.mem_cons] at h
    rcases h with rfl | h
    · exact hs
    · exact ih h

/-! ## Joining -/

/-- Pieces are joined from the first one on. -/
theorem joined_cons {mark first : Bytes} {rest : List Bytes} (h : rest ≠ []) :
    joined mark (first :: rest) = first ++ (mark ++ joined mark rest) := by
  cases rest with
  | nil => exact absurd rfl h
  | cons second rest => simp [joined]

/-- Pieces that were put together are taken apart again. -/
theorem splitOn_joined {pieces : List Bytes} (hne : pieces ≠ [])
    (h : ∀ piece ∈ pieces, mark ∉ piece) :
    splitOn (joined [mark] pieces) mark = pieces := by
  induction pieces with
  | nil => exact absurd rfl hne
  | cons first rest ih =>
    rw [List.forall_mem_cons] at h
    cases rest with
    | nil => simpa [joined] using splitOn_of_not_mem h.1
    | cons second rest =>
      rw [joined_cons (List.cons_ne_nil _ _), List.singleton_append, splitOn_append,
        splitOn_of_not_mem h.1, ih (List.cons_ne_nil _ _) h.2]
      rfl

/-- Lines that are each closed by the mark are cut off one by one. -/
theorem splitOn_closed {lines : List Bytes} (h : ∀ line ∈ lines, mark ∉ line) (rest : Bytes) :
    splitOn (lines.flatMap (· ++ [mark]) ++ rest) mark = lines ++ splitOn rest mark := by
  induction lines with
  | nil => rfl
  | cons line lines ih =>
    rw [List.forall_mem_cons] at h
    have hline : (line :: lines).flatMap (· ++ [mark]) ++ rest
        = line ++ mark :: (lines.flatMap (· ++ [mark]) ++ rest) := by simp
    rw [hline, splitOn_append, splitOn_of_not_mem h.1, ih h.2]
    rfl

/-! ## Cutting once -/

/-- A text is cut at its first mark. -/
theorem cut?_append {head : Bytes} (h : mark ∉ head) (tail : Bytes) :
    cut? (head ++ mark :: tail) mark = some (head, tail) := by
  have hhead : ∀ b ∈ head, (b != mark) = true := fun b hb =>
    bne_iff_ne.2 fun heq => h (heq ▸ hb)
  simp [cut?, List.span_eq_takeWhile_dropWhile, List.takeWhile_append_of_pos hhead,
    List.dropWhile_append_of_pos hhead]

/-- A text is not cut just if it has no mark. -/
theorem cut?_eq_none_iff {text : Bytes} : cut? text mark = none ↔ mark ∉ text := by
  by_cases h : mark ∈ text
  · obtain ⟨head, tail, rfl, hhead⟩ := List.eq_append_cons_of_mem h
    simp [cut?_append hhead]
  · have hne : ∀ b ∈ text, (b != mark) = true := fun b hb =>
      bne_iff_ne.2 fun heq => h (heq ▸ hb)
    have hcut : cut? text mark = none := by
      simp [cut?, List.span_eq_takeWhile_dropWhile, List.takeWhile_eq_self_iff.2 hne,
        List.dropWhile_eq_nil_iff.2 hne]
    simp [hcut, h]

/-- What is cut at a mark is told by the text before its first occurrence. -/
theorem cut?_eq_some_iff {text head tail : Bytes} :
    cut? text mark = some (head, tail) ↔ text = head ++ mark :: tail ∧ mark ∉ head := by
  constructor
  · intro h
    have hmark : mark ∈ text := by
      by_contra hnot
      cases (cut?_eq_none_iff.2 hnot).symm.trans h
    obtain ⟨first, rest, rfl, hfirst⟩ := List.eq_append_cons_of_mem hmark
    cases (cut?_append hfirst rest).symm.trans h
    exact ⟨rfl, hfirst⟩
  · rintro ⟨rfl, hhead⟩
    exact cut?_append hhead tail

/-- What stands behind a beginning. -/
theorem after?_append (start text : Bytes) : after? (start ++ text) start = some text := by
  induction start with
  | nil => cases text <;> rfl
  | cons b start ih => simpa [after?] using ih

end Bytes

end FunctionChain
