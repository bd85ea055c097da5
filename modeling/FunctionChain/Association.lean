/-!
# Association lists

A map is kept as the list of its entries. Giving a key a value takes away the entry that the key had,
so what is looked up is what was assigned last.
-/

namespace FunctionChain

namespace Association

variable {κ α : Type} [BEq κ] [LawfulBEq κ]

/-- The entries after a key was given a value. -/
def assign (entries : List (κ × α)) (key : κ) (value : α) : List (κ × α) :=
  (key, value) :: entries.filter (·.1 != key)

/-- Taking away the entries of some keys leaves those of the others as they were. -/
theorem lookup_filter (entries : List (κ × α)) (isGone : κ → Bool) (key : κ) :
    (entries.filter fun entry => !isGone entry.1).lookup key
      = if isGone key then none else entries.lookup key := by
  induction entries with
  | nil => simp
  | cons entry rest ih =>
    obtain ⟨name, value⟩ := entry
    by_cases hname : key = name
    · subst hname
      cases hgone : isGone key <;> simp [hgone, ih]
    · have hne : (key == name) = false := beq_eq_false_iff_ne.2 hname
      cases hgone : isGone name <;> simp [hgone, ih, List.lookup_cons, hne]

/-- What is assigned is what is found from then on, and nothing else changes. -/
theorem lookup_assign (entries : List (κ × α)) (key : κ) (value : α) (other : κ) :
    (assign entries key value).lookup other
      = if other == key then some value else entries.lookup other := by
  have hrest : (entries.filter (·.1 != key)).lookup other
      = if other == key then none else entries.lookup other :=
    lookup_filter entries (· == key) other
  rw [assign, List.lookup_cons, hrest]
  cases other == key <;> rfl

end Association

end FunctionChain
