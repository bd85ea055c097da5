import FunctionChain.Json.Unquoted

/-!
# The grammar of JSON

Which texts spell which values, written down without regard to how a text is read. `Spells` relates
a value to its texts, with `SpellsItems` and `SpellsMembers` for what stands between the brackets of
a container that is not empty; white space may stand around every item and around every part of a
member. Strings and numbers are kept as they are written, so their grammars (`Characters`,
`Number`) are predicates on that form alone.

Nothing is said about nesting here: `depth` counts how far containers stand inside each other, and a
reader may bound it.
-/

namespace FunctionChain

namespace Json

/-! ## Letters -/

/-- White space: the blank, the tab and the two bytes that end lines. -/
def Space (b : UInt8) : Prop := b = 0x20 ∨ b = 0x09 ∨ b = 0x0A ∨ b = 0x0D

/-- A stretch of white space, perhaps an empty one. -/
def Spaces (text : Bytes) : Prop := ∀ b ∈ text, Space b

/-- One of `0` to `9`. -/
def Digit (b : UInt8) : Prop := 0x30 ≤ b ∧ b ≤ 0x39

/-- One digit or more. -/
def Digits (text : Bytes) : Prop := text ≠ [] ∧ ∀ b ∈ text, Digit b

/-- A digit, or one of the first six letters in either case. -/
def HexDigit (b : UInt8) : Prop := Digit b ∨ (0x41 ≤ b ∧ b ≤ 0x46) ∨ (0x61 ≤ b ∧ b ≤ 0x66)

instance : DecidablePred Space := fun _ => inferInstanceAs (Decidable (_ ∨ _))
instance : DecidablePred Digit := fun _ => inferInstanceAs (Decidable (_ ∧ _))

/-- Nothing is blank. -/
theorem Spaces.nil : Spaces [] := by simp [Spaces]

/-- Blanks after blanks are blank. -/
theorem Spaces.append {s t : Bytes} (hs : Spaces s) (ht : Spaces t) : Spaces (s ++ t) := by
  intro b hb
  exact (List.mem_append.1 hb).elim (hs b) (ht b)

/-- One more blank is blank too. -/
theorem Spaces.concat {s : Bytes} {b : UInt8} (hs : Spaces s) (hb : Space b) :
    Spaces (s ++ [b]) :=
  hs.append (by simpa [Spaces] using hb)

/-- A text is blank just if its first byte is and the others are. -/
theorem Spaces.cons_iff {b : UInt8} {s : Bytes} : Spaces (b :: s) ↔ Space b ∧ Spaces s := by
  simp [Spaces]

/-! ## Strings -/

/-- The letters that may follow a backslash, other than the `u` of a code unit. -/
def escapeLetters : Bytes := [0x22, 0x5C, 0x2F, 0x62, 0x66, 0x6E, 0x72, 0x74]

/-- What may stand between the quotes of a string. Bytes from 0x80 on are not looked at: nothing
here asks for UTF-8. -/
inductive Characters : Bytes → Prop where
  | nil : Characters []
  | plain {b : UInt8} {rest : Bytes} :
      0x20 ≤ b → b ≠ 0x22 → b ≠ 0x5C → Characters rest → Characters (b :: rest)
  | escape {letter : UInt8} {rest : Bytes} :
      letter ∈ escapeLetters → Characters rest → Characters (0x5C :: letter :: rest)
  | codeUnit {a b c d : UInt8} {rest : Bytes} :
      HexDigit a → HexDigit b → HexDigit c → HexDigit d → Characters rest →
      Characters (0x5C :: 0x75 :: a :: b :: c :: d :: rest)

/-- Characters after characters are characters. -/
theorem Characters.append {s t : Bytes} (hs : Characters s) (ht : Characters t) :
    Characters (s ++ t) := by
  induction hs with
  | nil => exact ht
  | plain h₁ h₂ h₃ _ ih => exact .plain h₁ h₂ h₃ ih
  | escape hl _ ih => exact .escape hl ih
  | codeUnit ha hb hc hd _ ih => exact .codeUnit ha hb hc hd ih

/-! ## Numbers -/

/-- The part of a number before the point: a zero, or digits of which the first is none. -/
inductive Whole : Bytes → Prop where
  | zero : Whole [0x30]
  | digits {b : UInt8} {rest : Bytes} :
      Digit b → b ≠ 0x30 → (∀ d ∈ rest, Digit d) → Whole (b :: rest)

/-- The digits after the point, with the point, if there is one. -/
inductive Fraction : Bytes → Prop where
  | none : Fraction []
  | digits {ds : Bytes} : Digits ds → Fraction (0x2E :: ds)

/-- The exponent, if there is one. -/
inductive Exponent : Bytes → Prop where
  | none : Exponent []
  | digits {e : UInt8} {ds : Bytes} : e = 0x65 ∨ e = 0x45 → Digits ds → Exponent (e :: ds)
  | signed {e sign : UInt8} {ds : Bytes} :
      e = 0x65 ∨ e = 0x45 → sign = 0x2B ∨ sign = 0x2D → Digits ds → Exponent (e :: sign :: ds)

/-- A minus, if there is one. -/
inductive Sign : Bytes → Prop where
  | none : Sign []
  | minus : Sign [0x2D]

/-- A number. -/
inductive Number : Bytes → Prop where
  | mk {sign whole fraction exponent : Bytes} :
      Sign sign → Whole whole → Fraction fraction → Exponent exponent →
      Number (sign ++ (whole ++ (fraction ++ exponent)))

/-! ## Values -/

mutual

/-- `Spells value text`: the text is the value, with no white space around it. -/
inductive Spells : Json → Bytes → Prop where
  | null : Spells .null (bytes "null")
  | true : Spells (.bool true) (bytes "true")
  | false : Spells (.bool false) (bytes "false")
  | number {literal : Bytes} : Number literal → Spells (.number literal) literal
  | string {written : Bytes} :
      Characters written → Spells (.string written) (0x22 :: (written ++ [0x22]))
  | emptyArray {s : Bytes} : Spaces s → Spells (.array []) (0x5B :: (s ++ [0x5D]))
  | array {items : List Json} {text : Bytes} :
      SpellsItems items text → Spells (.array items) (0x5B :: (text ++ [0x5D]))
  | emptyObject {s : Bytes} : Spaces s → Spells (.object []) (0x7B :: (s ++ [0x7D]))
  | object {members : List (Bytes × Json)} {text : Bytes} :
      SpellsMembers members text → Spells (.object members) (0x7B :: (text ++ [0x7D]))

/-- One item or more, with commas between them. -/
inductive SpellsItems : List Json → Bytes → Prop where
  | last {v : Json} {s₁ t s₂ : Bytes} :
      Spaces s₁ → Spells v t → Spaces s₂ → SpellsItems [v] (s₁ ++ (t ++ s₂))
  | cons {v : Json} {items : List Json} {s₁ t s₂ text : Bytes} :
      Spaces s₁ → Spells v t → Spaces s₂ → SpellsItems items text →
      SpellsItems (v :: items) (s₁ ++ (t ++ (s₂ ++ 0x2C :: text)))

/-- One member or more, with commas between them. A member is a name in quotes, a colon and a
value. -/
inductive SpellsMembers : List (Bytes × Json) → Bytes → Prop where
  | last {name : Bytes} {v : Json} {s₁ s₂ s₃ t s₄ : Bytes} :
      Spaces s₁ → Characters name → Spaces s₂ → Spaces s₃ → Spells v t → Spaces s₄ →
      SpellsMembers [(name, v)]
        (s₁ ++ 0x22 :: (name ++ 0x22 :: (s₂ ++ 0x3A :: (s₃ ++ (t ++ s₄)))))
  | cons {name : Bytes} {v : Json} {members : List (Bytes × Json)} {s₁ s₂ s₃ t s₄ text : Bytes} :
      Spaces s₁ → Characters name → Spaces s₂ → Spaces s₃ → Spells v t → Spaces s₄ →
      SpellsMembers members text →
      SpellsMembers ((name, v) :: members)
        (s₁ ++ 0x22 :: (name ++ 0x22 :: (s₂ ++ 0x3A :: (s₃ ++ (t ++ (s₄ ++ 0x2C :: text))))))

end

/-- One more item at the end. -/
theorem SpellsItems.concat {items : List Json} {text : Bytes} {v : Json} {s₁ t s₂ : Bytes}
    (h : SpellsItems items text) (h₁ : Spaces s₁) (ht : Spells v t) (h₂ : Spaces s₂) :
    SpellsItems (items ++ [v]) (text ++ 0x2C :: (s₁ ++ (t ++ s₂))) := by
  match h with
  | .last g₁ gt g₂ => simpa using SpellsItems.cons g₁ gt g₂ (.last h₁ ht h₂)
  | .cons g₁ gt g₂ rest => simpa using SpellsItems.cons g₁ gt g₂ (rest.concat h₁ ht h₂)

/-- One more member at the end. -/
theorem SpellsMembers.concat {members : List (Bytes × Json)} {text name : Bytes} {v : Json}
    {s₁ s₂ s₃ t s₄ : Bytes} (h : SpellsMembers members text) (h₁ : Spaces s₁)
    (hn : Characters name) (h₂ : Spaces s₂) (h₃ : Spaces s₃) (ht : Spells v t) (h₄ : Spaces s₄) :
    SpellsMembers (members ++ [(name, v)])
      (text ++ 0x2C :: (s₁ ++ 0x22 :: (name ++ 0x22 :: (s₂ ++ 0x3A :: (s₃ ++ (t ++ s₄)))))) := by
  match h with
  | .last g₁ gn g₂ g₃ gt g₄ =>
    simpa using SpellsMembers.cons g₁ gn g₂ g₃ gt g₄ (.last h₁ hn h₂ h₃ ht h₄)
  | .cons g₁ gn g₂ g₃ gt g₄ rest =>
    simpa using SpellsMembers.cons g₁ gn g₂ g₃ gt g₄ (rest.concat h₁ hn h₂ h₃ ht h₄)

/-! ## Nesting -/

mutual

/-- How many containers stand inside each other, at the deepest place. -/
def depth : Json → Nat
  | .array items => depthOfItems items + 1
  | .object members => depthOfMembers members + 1
  | .null | .bool _ | .number _ | .string _ => 0

/-- The depth of the deepest item. -/
def depthOfItems : List Json → Nat
  | [] => 0
  | item :: rest => max (depth item) (depthOfItems rest)

/-- The depth of the deepest member. -/
def depthOfMembers : List (Bytes × Json) → Nat
  | [] => 0
  | (_, value) :: rest => max (depth value) (depthOfMembers rest)

end

/-- Items are less deep than a bound just if each of them is. -/
theorem depthOfItems_lt_iff (items : List Json) (n : Nat) :
    depthOfItems items < n ↔ 0 < n ∧ ∀ item ∈ items, depth item < n := by
  induction items with
  | nil => simp [depthOfItems]
  | cons item rest ih =>
    rw [depthOfItems, Nat.max_lt, ih, List.forall_mem_cons]
    grind

/-- Members are less deep than a bound just if each of them is. -/
theorem depthOfMembers_lt_iff (members : List (Bytes × Json)) (n : Nat) :
    depthOfMembers members < n ↔ 0 < n ∧ ∀ member ∈ members, depth member.2 < n := by
  induction members with
  | nil => simp [depthOfMembers]
  | cons member rest ih =>
    obtain ⟨name, value⟩ := member
    rw [depthOfMembers, Nat.max_lt, ih, List.forall_mem_cons]
    grind

/-- An array at a place reaches no deeper than a bound when the place and the items do not. -/
theorem depth_array_add_le_iff {items : List Json} {place bound : Nat} :
    depth (.array items) + place ≤ bound ↔
      place < bound ∧ ∀ item ∈ items, depth item + place < bound := by
  have := depthOfItems_lt_iff items (bound - place)
  simp only [Nat.lt_sub_iff_add_lt, Nat.zero_add] at this
  rw [← this, depth]
  omega

/-- An object at a place reaches no deeper than a bound when the place and the members do not. -/
theorem depth_object_add_le_iff {members : List (Bytes × Json)} {place bound : Nat} :
    depth (.object members) + place ≤ bound ↔
      place < bound ∧ ∀ member ∈ members, depth member.2 + place < bound := by
  have := depthOfMembers_lt_iff members (bound - place)
  simp only [Nat.lt_sub_iff_add_lt, Nat.zero_add] at this
  rw [← this, depth]
  omega

end Json

end FunctionChain
