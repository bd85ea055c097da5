import FunctionChain.Text.Utf8

/-!
# White space

The characters with the Unicode property White_Space, and the two operations that look at them:
cutting them off at both ends of a text and splitting a text into words.
-/

namespace FunctionChain

namespace Blank

/-- Whether a character is white space. -/
def isBlank (code : Nat) : Bool :=
  (9 ≤ code && code ≤ 13) || code == 0x20 || code == 0x85 || code == 0xA0 || code == 0x1680
    || (0x2000 ≤ code && code ≤ 0x200A) || code == 0x2028 || code == 0x2029 || code == 0x202F
    || code == 0x205F || code == 0x3000

/-- Whether a piece of text is a white space character. A stray byte is not. -/
def isBlankPiece : Utf8.Piece → Bool
  | .char code _ => isBlank code
  | .stray _ => false

/-- The text without the white space at its beginning and its end. -/
def trimmed (text : Bytes) : Bytes :=
  ((((Utf8.pieces text).dropWhile isBlankPiece).reverse.dropWhile isBlankPiece).reverse).flatMap
    Utf8.Piece.bytes

/-- Whether there is nothing but white space in the text. -/
def isAllBlank (text : Bytes) : Bool := (trimmed text).isEmpty

/-- One step of `words`: white space closes the word that is being gathered. -/
def wordStep (state : List Bytes × Bytes) (piece : Utf8.Piece) : List Bytes × Bytes :=
  if isBlankPiece piece then
    if state.2.isEmpty then state else (state.2 :: state.1, [])
  else (state.1, state.2 ++ piece.bytes)

/-- The non-empty stretches between white space. -/
def words (text : Bytes) : List Bytes :=
  let (done, last) := (Utf8.pieces text).foldl wordStep ([], [])
  (if last.isEmpty then done else last :: done).reverse

end Blank

end FunctionChain
