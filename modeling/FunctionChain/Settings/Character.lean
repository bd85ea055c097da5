import FunctionChain.Text.Decimal
import FunctionChain.Text.Utf8

/-!
# Characters by their numbers

Configuration files are read as sequences of characters, each of which is its number. The classes here
know only ASCII.
-/

namespace FunctionChain

namespace Settings

/-- The number of a character. -/
@[inline] def code (c : Char) : Nat := c.toNat

/-- The numbers of the characters of a text. -/
def codes (text : String) : List Nat := text.toList.map Char.toNat

/-- The bytes of characters. -/
def spelled (characters : List Nat) : Bytes := characters.flatMap Utf8.encode

/-- Whether a character is a decimal digit. -/
def isDigit (c : Nat) : Bool := code '0' ≤ c && c ≤ code '9'

/-- Whether a character is a hexadecimal digit. -/
def isHexDigit (c : Nat) : Bool :=
  isDigit c || (code 'a' ≤ c && c ≤ code 'f') || (code 'A' ≤ c && c ≤ code 'F')

/-- The number that hexadecimal digits stand for. -/
def hexValue? (digits : List Nat) : Option Nat :=
  if digits.all isHexDigit then
    some (digits.foldl (fun n d => n * 16 + ((Hex.value? d.toUInt8).getD 0)) 0)
  else none

end Settings

end FunctionChain
