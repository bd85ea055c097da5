import FunctionChain.Text.Decimal
import FunctionChain.Text.Integer

/-!
# Numerals in scripts

Scripts compute in signed machine words. A numeral is decimal, octal after a zero, or hexadecimal after
`0x`; it is read as far as its digits go, and a value that does not fit becomes the nearest that does.
-/

namespace FunctionChain

namespace Script

/-- The word that an integer stands for. -/
def toWord (n : Int) : Nat := (n % Word.size).toNat

/-- The integer that a word stands for. -/
def ofWord (n : Nat) : Int :=
  let n := n % Word.size
  if n < Word.half then n else (n : Int) - Word.size

/-- An integer brought back into the range of words. -/
def wrapped (n : Int) : Int := ofWord (toWord n)

namespace Numeral

/-- Whether a byte is an octal digit. -/
def isOctal (b : UInt8) : Bool := byte '0' ≤ b && b ≤ byte '7'

/-- Whether a byte is a hexadecimal digit. -/
def isHexadecimal (b : UInt8) : Bool := (Hex.value? b).isSome

/-- The value of some digits in a base. -/
def value (base : Nat) (digits : Bytes) : Nat :=
  digits.foldl (fun n b => n * base + (Hex.value? b).getD 0) 0

/-- The number at the start of a text, and the rest of the text. -/
def natural? (text : Bytes) : Option (Nat × Bytes) :=
  let taken (base : Nat) (isDigit : UInt8 → Bool) (digits : Bytes) : Option (Nat × Bytes) :=
    some (value base (digits.takeWhile isDigit), digits.dropWhile isDigit)
  match text with
  | 0x30 :: x :: h :: rest =>
    if Bytes.lowerByte x == byte 'x' && isHexadecimal h then taken 16 isHexadecimal (h :: rest)
    else taken 8 isOctal text
  | 0x30 :: _ => taken 8 isOctal text
  | b :: _ => if Bytes.isDigit b then taken 10 Bytes.isDigit text else none
  | [] => none

/-- Whether a byte is white space before or after a number. -/
def isSpace (b : UInt8) : Bool := b == 0x20 || (9 ≤ b && b ≤ 13)

/-- A sign at the start of a text: whether it is a minus, and the rest. -/
def sign (text : Bytes) : Bool × Bytes :=
  match text with
  | 0x2D :: rest => (true, rest)
  | 0x2B :: rest => (false, rest)
  | _ => (false, text)

/-- The integer at the start of a text, after white space, and the rest of the text. -/
def integer? (text : Bytes) : Option (Int × Bytes) :=
  let (isNegative, digits) := sign (text.dropWhile isSpace)
  (natural? digits).map fun (n, rest) =>
    (if isNegative then max (-(Word.half : Int)) (-(n : Int)) else min ((Word.half : Int) - 1) n, rest)

/-- The decimal integer that a text stands for, white space aside, if it fits into a word. -/
def decimal? (text : Bytes) : Option Int := do
  let (isNegative, digits) := sign (text.dropWhile isSpace)
  let n ← Decimal.toNat? (Bytes.dropEndWhile digits isSpace)
  let n : Int := if isNegative then -(n : Int) else n
  if wrapped n == n then some n else none

/-- The small number, as statuses and counts are, that a text stands for. -/
def count? (text : Bytes) : Option Nat :=
  (Decimal.toNat? text).bind fun n => if n < Nat.pow 2 31 then some n else none

/-- The digits of a number in a base up to sixteen. `fuel` bounds their number. -/
def digits (base : Nat) : Nat → Nat → Bytes
  | 0, _ => []
  | fuel + 1, n =>
    if n < base then [Hex.digit n] else digits base fuel (n / base) ++ [Hex.digit (n % base)]

/-- A word in a base. -/
def written (base n : Nat) : Bytes := digits base 64 n

end Numeral

end Script

end FunctionChain
