import FunctionChain.Text.Bytes

/-!
# Bytes in base 64

Three bytes are written as four signs of six bits each. One or two bytes at the end are filled up with
equals signs. Line ends do not count.
-/

namespace FunctionChain

namespace Base64

/-- The number that a sign stands for. -/
def value? (b : UInt8) : Option Nat :=
  if Bytes.isUpper b then some (b.toNat - 65)
  else if Bytes.isLower b then some (b.toNat - 71)
  else if Bytes.isDigit b then some (b.toNat + 4)
  else if b == byte '+' then some 62
  else if b == byte '/' then some 63
  else none

/-- The first `count` bytes of four signs. -/
def unpacked (count : Nat) (a b c d : Nat) : Bytes :=
  let word := ((a * 64 + b) * 64 + c) * 64 + d
  [(word / 65536).toUInt8, (word / 256).toUInt8, word.toUInt8].take count

/-- Decode signs. `done` are the bytes before, in reverse. -/
def decodeFrom (done : Bytes) : Bytes → Option Bytes
  | [] => some done.reverse
  | a :: b :: c :: d :: rest => do
    let x ← value? a
    let y ← value? b
    let pad := byte '='
    if d == pad then
      if !rest.isEmpty then none
      else if c == pad then some (done.reverse ++ unpacked 1 x y 0 0)
      else some (done.reverse ++ unpacked 2 x y (← value? c) 0)
    else
      let z ← value? c
      let w ← value? d
      decodeFrom ((unpacked 3 x y z w).reverse ++ done) rest
  | _ => none

/-- The bytes that a text stands for. -/
def decode? (text : Bytes) : Option Bytes := decodeFrom [] (text.filter fun b => b != 10 && b != 13)

/-- The signs, by the numbers that they stand for. -/
def signs : Bytes := bytes "ABCDEFGHIJKLMNOPQRSTUVWXYZabcdefghijklmnopqrstuvwxyz0123456789+/"

/-- The signs of up to three bytes. -/
def packed (a b c : UInt8) (count : Nat) : Bytes :=
  let word := (a.toNat * 256 + b.toNat) * 256 + c.toNat
  let sign (n : Nat) : UInt8 := signs.getD (n % 64) 0
  [sign (word / 262144), sign (word / 4096), sign (word / 64), sign word].take (count + 1)
    ++ List.replicate (3 - count) (byte '=')

/-- The text that stands for bytes. -/
def encode : Bytes → Bytes
  | a :: b :: c :: rest => packed a b c 3 ++ encode rest
  | [a, b] => packed a b 0 2
  | [a] => packed a 0 0 1
  | [] => []

end Base64

end FunctionChain
