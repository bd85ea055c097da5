import Mathlib.Data.List.Nodup
import FunctionChain.Metrics.Basic

/-!
# The numbers of samples

What counting does to the number of a sample and to the total of a family. Metrics to which numbers
were added one after another list no sample twice, so that the total of a family grows by just what
is added to its samples.
-/

namespace FunctionChain

namespace Metrics

/-! ## Reading numbers -/

/-- The number of a sample, which is zero as long as it is not listed. -/
def number (metrics : Metrics) (sample : Sample) : Int := (metrics.numbers.lookup sample).getD 0

/-- The numbers of a family in a list of samples together. -/
def totalOf (family : Family) : List (Sample × Int) → Int
  | [] => 0
  | entry :: rest => (if entry.1.family = family then entry.2 else 0) + totalOf family rest

/-- The numbers of all samples of a family together. -/
def total (metrics : Metrics) (family : Family) : Int := totalOf family metrics.numbers

/-- The sample is listed. -/
def Lists (metrics : Metrics) (sample : Sample) : Prop := sample ∈ metrics.numbers.map (·.1)

/-- No sample is listed twice. -/
def ListsOnce (metrics : Metrics) : Prop := (metrics.numbers.map (·.1)).Nodup

variable {metrics : Metrics} {sample other : Sample} {family : Family} {n : Int}

/-- A sample has no number just if it is not listed. -/
theorem lookup_eq_none_iff {numbers : List (Sample × Int)} :
    numbers.lookup sample = none ↔ sample ∉ numbers.map (·.1) := by
  induction numbers with
  | nil => simp
  | cons entry rest ih =>
    obtain ⟨name, m⟩ := entry
    by_cases h : sample = name
    · simp [h]
    · simp [List.lookup_cons, beq_eq_false_iff_ne.2 h, h, ih]

/-! ## Adding -/

/-- Add to the number of a sample that is listed. -/
def addTo (sample : Sample) (n : Int) (numbers : List (Sample × Int)) : List (Sample × Int) :=
  numbers.map fun (other, m) => if other == sample then (other, m + n) else (other, m)

/-- Adding goes through the numbers one by one. -/
theorem addTo_cons (entry : Sample × Int) (rest : List (Sample × Int)) :
    addTo sample n (entry :: rest)
      = (entry.1, entry.2 + if entry.1 = sample then n else 0) :: addTo sample n rest := by
  by_cases h : entry.1 = sample <;> simp [addTo, h]

/-- A sample that is listed gets more. -/
theorem add_of_lists (h : metrics.Lists sample) :
    metrics.add sample n = ⟨addTo sample n metrics.numbers⟩ := by
  unfold add
  split
  · rfl
  · next hnone => exact absurd h (lookup_eq_none_iff.1 hnone)

/-- A sample that is not listed is put at the end. -/
theorem add_of_not_lists (h : ¬ metrics.Lists sample) :
    metrics.add sample n = ⟨metrics.numbers ++ [(sample, n)]⟩ := by
  unfold add
  rw [lookup_eq_none_iff.2 h]

/-- Adding changes no names of samples. -/
theorem map_fst_addTo (numbers : List (Sample × Int)) :
    (addTo sample n numbers).map (·.1) = numbers.map (·.1) := by
  unfold addTo
  rw [List.map_map]
  refine List.map_congr_left fun entry _ => ?_
  dsimp only [Function.comp]
  split <;> rfl

/-- Samples are listed that were or that something was added to. -/
theorem lists_add : (metrics.add sample n).Lists other ↔ metrics.Lists other ∨ other = sample := by
  by_cases h : metrics.Lists sample
  · rw [add_of_lists h, Lists, map_fst_addTo]
    constructor
    · exact .inl
    · rintro (hother | rfl)
      · exact hother
      · exact h
  · rw [add_of_not_lists h, Lists]
    simp [Lists]

/-- What is listed stays listed. -/
theorem Lists.countAll (h : metrics.Lists sample) (samples : List Sample) :
    (metrics.countAll samples).Lists sample := by
  induction samples generalizing metrics with
  | nil => exact h
  | cons first rest ih => exact ih (lists_add.2 (.inl h))

/-- Each sample stays listed once. -/
theorem ListsOnce.add (h : metrics.ListsOnce) (sample : Sample) (n : Int) :
    (metrics.add sample n).ListsOnce := by
  by_cases hs : metrics.Lists sample
  · rw [add_of_lists hs, ListsOnce, map_fst_addTo]
    exact h
  · rw [add_of_not_lists hs, ListsOnce, List.map_append]
    exact List.nodup_append'.2 ⟨h, List.nodup_singleton _, by simpa [Lists] using hs⟩

/-- Adding changes the number of its sample and no other. -/
theorem lookup_addTo (numbers : List (Sample × Int)) :
    (addTo sample n numbers).lookup other
      = (numbers.lookup other).map fun m => m + if other = sample then n else 0 := by
  induction numbers with
  | nil => rfl
  | cons entry rest ih =>
    obtain ⟨name, m⟩ := entry
    rw [addTo_cons, List.lookup_cons, List.lookup_cons, ih]
    by_cases hother : other = name
    · subst hother
      simp
    · simp [beq_eq_false_iff_ne.2 hother]

/-- The number of a sample after something was added. -/
theorem number_add (metrics : Metrics) (sample other : Sample) (n : Int) :
    (metrics.add sample n).number other
      = metrics.number other + if other = sample then n else 0 := by
  by_cases h : metrics.Lists sample
  · rw [add_of_lists h, number, lookup_addTo, number]
    cases hother : metrics.numbers.lookup other with
    | some m => rfl
    | none =>
      have hne : other ≠ sample := by
        rintro rfl
        exact lookup_eq_none_iff.1 hother h
      simp [hne]
  · rw [add_of_not_lists h, number, List.lookup_append, number]
    by_cases hother : other = sample
    · subst hother
      simp [lookup_eq_none_iff.2 h]
    · simp [List.lookup_cons, beq_eq_false_iff_ne.2 hother, hother]

/-- One more number counts for its family. -/
theorem totalOf_concat (numbers : List (Sample × Int)) :
    totalOf family (numbers ++ [(sample, n)])
      = totalOf family numbers + if sample.family = family then n else 0 := by
  induction numbers with
  | nil => simp [totalOf]
  | cons entry rest ih =>
    rw [List.cons_append, totalOf, totalOf, ih, Int.add_assoc]

/-- Adding to a sample that is not listed changes nothing. -/
theorem addTo_of_not_mem {numbers : List (Sample × Int)} (h : sample ∉ numbers.map (·.1)) :
    addTo sample n numbers = numbers := by
  induction numbers with
  | nil => rfl
  | cons entry rest ih =>
    rw [List.map_cons, List.mem_cons, not_or] at h
    rw [addTo_cons, ih h.2, if_neg (Ne.symm h.1), Int.add_zero]

/-- What is added counts for the family of its sample. -/
theorem totalOf_addTo {numbers : List (Sample × Int)} (hnodup : (numbers.map (·.1)).Nodup)
    (h : sample ∈ numbers.map (·.1)) :
    totalOf family (addTo sample n numbers)
      = totalOf family numbers + if sample.family = family then n else 0 := by
  induction numbers with
  | nil => cases h
  | cons entry rest ih =>
    rw [List.map_cons, List.nodup_cons] at hnodup
    obtain ⟨hfresh, hnodup⟩ := hnodup
    rw [addTo_cons, totalOf, totalOf]
    by_cases hname : entry.1 = sample
    · subst hname
      rw [addTo_of_not_mem hfresh, if_pos rfl]
      dsimp only
      split <;> omega
    · have hmem : sample ∈ rest.map (·.1) := List.mem_of_ne_of_mem (Ne.symm hname) h
      rw [ih hnodup hmem, if_neg hname, Int.add_zero, Int.add_assoc]

/-- The total of a family after something was added. -/
theorem total_add (h : metrics.ListsOnce) (sample : Sample) (n : Int) (family : Family) :
    (metrics.add sample n).total family
      = metrics.total family + if sample.family = family then n else 0 := by
  unfold total
  by_cases hs : metrics.Lists sample
  · rw [add_of_lists hs]
    exact totalOf_addTo h hs
  · rw [add_of_not_lists hs]
    exact totalOf_concat metrics.numbers

/-- It does not matter in which order something is added. -/
theorem addTo_addTo (numbers : List (Sample × Int)) (m : Int) :
    addTo other m (addTo sample n numbers) = addTo sample n (addTo other m numbers) := by
  induction numbers with
  | nil => rfl
  | cons entry rest ih =>
    rw [addTo_cons, addTo_cons, addTo_cons, addTo_cons, ih]
    dsimp only
    rw [Int.add_right_comm]

/-- Adding to a listed sample may as well be done later. -/
theorem add_add_of_lists (h : metrics.Lists sample) (other : Sample) (n m : Int) :
    (metrics.add sample n).add other m = (metrics.add other m).add sample n := by
  rw [@add_of_lists (metrics.add other m) _ _ (lists_add.2 (.inl h))]
  by_cases hother : metrics.Lists other
  · rw [@add_of_lists (metrics.add sample n) _ _ (lists_add.2 (.inl hother)), add_of_lists h,
      add_of_lists hother, addTo_addTo]
  · have hne : other ≠ sample := by
      rintro rfl
      exact hother h
    have hnot : ¬ (metrics.add sample n).Lists other := by
      rw [lists_add, not_or]
      exact ⟨hother, hne⟩
    rw [add_of_not_lists hnot, add_of_lists h, add_of_not_lists hother]
    simp [addTo, hne]

end Metrics

end FunctionChain
