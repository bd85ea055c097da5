import FunctionChain.Text.Decimal
import FunctionChain.Text.Printable
import FunctionChain.Text.Utf8

/-!
# Quoted texts in messages

Messages show a name or a text between quotes in a form that has no control characters and no stray
bytes: printable characters stand as they are, the usual control characters have short escapes, and
everything else is written with its number.
-/

namespace FunctionChain

namespace Quoted

/-- The short escape of a control character, if it has one. -/
def shortEscape? (code : Nat) : Option UInt8 :=
  if code == 7 then some (byte 'a')
  else if code == 8 then some (byte 'b')
  else if code == 9 then some (byte 't')
  else if code == 10 then some (byte 'n')
  else if code == 11 then some (byte 'v')
  else if code == 12 then some (byte 'f')
  else if code == 13 then some (byte 'r')
  else none

/-- A character inside quotes of the kind `mark`. -/
def quoteChar (mark : UInt8) (code : Nat) (spelling : Bytes) : Bytes :=
  if code == mark.toNat || code == 0x5C then byte '\\' :: spelling
  else if Printable.isPrintable code then spelling
  else match shortEscape? code with
    | some letter => [byte '\\', letter]
    | none =>
      if code < 0x20 || code == 0x7F then bytes "\\x" ++ Hex.padded code 2
      else if code < 0x10000 then bytes "\\u" ++ Hex.padded code 4
      else bytes "\\U" ++ Hex.padded code 8

/-- A piece of text inside quotes of the kind `mark`. The replacement character is printable, and a
stray byte is told apart from it. -/
def quotePiece (mark : UInt8) : Utf8.Piece → Bytes
  | .char code spelling => quoteChar mark code spelling
  | .stray b => bytes "\\x" ++ Hex.padded b.toNat 2

/-- The text between double quotes. -/
def quote (text : Bytes) : Bytes :=
  byte '"' :: (Utf8.pieces text).flatMap (quotePiece (byte '"')) ++ [byte '"']

/-- Whether a piece of text can stand between back quotes as it is. -/
def isPlain : Utf8.Piece → Bool
  | .char code _ => (0x20 ≤ code || code == 9) && code != 0x60 && code != 0x7F && code != 0xFEFF
  | .stray _ => false

/-- The text between back quotes if it can stand there as it is, and between double quotes otherwise. -/
def rawQuote (text : Bytes) : Bytes :=
  if (Utf8.pieces text).all isPlain then 0x60 :: text ++ [0x60] else quote text

/-- One byte, read as the character of that number, between single quotes. -/
def quoteByte (b : UInt8) : Bytes :=
  byte '\'' :: quoteChar (byte '\'') b.toNat (Utf8.encode b.toNat) ++ [byte '\'']

end Quoted

end FunctionChain
