import FunctionChain.Text.LetterCase

/-!
# Likeness of names

How far a name that was typed is from one that is known: the least number of bytes to put in, take out
or exchange. Letter case does not count.
-/

namespace FunctionChain

namespace EditDistance

/-- The distances from the starts of `text` to a start that ends in `b`, from those to the start one byte
shorter. `left` is the distance just found, and the first distance of the row belongs to the start of
`text` before it. -/
def nextRow (b : UInt8) : (left : Nat) → (text : Bytes) → (row : List Nat) → List Nat
  | left, a :: text, diagonal :: above :: row =>
    let here := if a == b then diagonal else 1 + min left (min above diagonal)
    here :: nextRow b here text (above :: row)
  | _, _, _ => []

/-- The row of distances after one more byte. -/
def extendRow (text : Bytes) (row : List Nat) (b : UInt8) : List Nat :=
  let first := row.headD 0 + 1
  first :: nextRow b first text row

/-- The edit distance of two texts. -/
def distance (text other : Bytes) : Nat :=
  (other.foldl (extendRow text) (List.range (text.length + 1))).getLastD 0

/-- The greatest distance at which a name is taken for a misspelling of another. -/
def nearby : Nat := 2

/-- Whether a name may be meant by what was typed: by its beginning or by a misspelling. -/
def isMeantBy (typed name : Bytes) : Bool :=
  let typed := LetterCase.lowered typed
  let name := LetterCase.lowered name
  distance typed name ≤ nearby || name.startsWith typed

end EditDistance

end FunctionChain
