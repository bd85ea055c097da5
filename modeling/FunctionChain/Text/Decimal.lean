import FunctionChain.Text.Bytes

/-!
# Numerals

Integers as decimal text and back, and bytes as hexadecimal digits. Reading is total: a reader says
`none` for anything that is not a numeral.
-/

namespace FunctionChain

namespace Decimal

/-- The byte of one decimal digit. -/
def digit (n : Nat) : UInt8 := (48 + n % 10).toUInt8

/-- The decimal digits of a number, most significant first, without leading zeros. -/
def ofNat (n : Nat) : Bytes :=
  if n < 10 then [digit n] else ofNat (n / 10) ++ [digit n]

/-- The decimal text of an integer: a minus sign for a negative one, none for the others. -/
def ofInt : Int → Bytes
  | .ofNat n => ofNat n
  | .negSucc n => byte '-' :: ofNat (n + 1)

/-- The number that a string of decimal digits stands for, with `acc` for the digits before it. -/
def readDigits : Nat → Bytes → Option Nat
  | acc, [] => some acc
  | acc, b :: rest =>
    if Bytes.isDigit b then readDigits (acc * 10 + (b.toNat - 48)) rest else none

/-- The number written by one or more decimal digits. -/
def toNat? : Bytes → Option Nat
  | [] => none
  | text => readDigits 0 text

/-- `n` with leading zeros up to `width` digits. -/
def padded (n width : Nat) : Bytes :=
  let text := ofNat n
  List.replicate (width - text.length) (byte '0') ++ text

end Decimal

namespace Hex

/-- The lower case hexadecimal digit of a number below sixteen. -/
def digit (n : Nat) : UInt8 :=
  if n % 16 < 10 then (48 + n % 16).toUInt8 else (87 + n % 16).toUInt8

/-- The last `width` hexadecimal digits of a number. -/
def padded (n : Nat) : Nat → Bytes
  | 0 => []
  | width + 1 => padded (n / 16) width ++ [digit n]

/-- The value of a hexadecimal digit in either case. -/
def value? (b : UInt8) : Option Nat :=
  if Bytes.isDigit b then some (b.toNat - 48)
  else if byte 'a' ≤ b && b ≤ byte 'f' then some (b.toNat - 87)
  else if byte 'A' ≤ b && b ≤ byte 'F' then some (b.toNat - 55)
  else none

/-- Two hexadecimal digits for every byte. -/
def ofBytes (text : Bytes) : Bytes := text.flatMap fun b => padded b.toNat 2

end Hex

end FunctionChain
