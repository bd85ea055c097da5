import FunctionChain.Json.Unquoted
import FunctionChain.Text.Decimal

/-!
# Numbers out of range

A JSON number is read as a double wherever nothing says what it is for. A literal whose value rounds
to infinity cannot be. The comparison is exact: the literal's digits are scaled to an integer and
compared with the midpoint between the largest double and the next power of two.
-/

namespace FunctionChain

namespace Json

/-- The smallest number that rounds to infinity. -/
def overflowBound : Nat := Nat.pow 2 1024 - Nat.pow 2 970

/-- The exponent of a literal. Exponents beyond any double are cut short. -/
def exponentValue (digits : Bytes) : Nat :=
  digits.foldl (fun e b => if e < 10000 then e * 10 + (b.toNat - 48) else e) 0

/-- The exponent part of a literal, from the letter on. -/
def literalExponent : Bytes → Int
  | _ :: sign :: digits =>
    if sign == byte '-' then - (exponentValue digits : Int)
    else if sign == byte '+' then exponentValue digits
    else exponentValue (sign :: digits)
  | _ => 0

/-- Whether the value of a literal rounds to infinity. -/
def isOverflow (literal : Bytes) : Bool :=
  let unsigned := literal.dropWhile (· == byte '-')
  let (whole, rest) := unsigned.span Bytes.isDigit
  let (fraction, rest) := match rest with
    | b :: tail => if b == byte '.' then tail.span Bytes.isDigit else ([], rest)
    | [] => ([], [])
  let digits := (whole ++ fraction).dropWhile (· == byte '0')
  let scale : Int := literalExponent rest - fraction.length
  let magnitude : Int := digits.length + scale
  if digits.isEmpty || magnitude < 309 then false
  else if 309 < magnitude then true
  else
    let mantissa := digits.foldl (fun n b => n * 10 + (b.toNat - 48)) 0
    if 0 ≤ scale then overflowBound ≤ mantissa * Nat.pow 10 scale.toNat
    else overflowBound * Nat.pow 10 (-scale).toNat ≤ mantissa

mutual

/-- The first number in a value that no double can hold. -/
def firstOverflow? : Json → Option Bytes
  | .number literal => if isOverflow literal then some literal else none
  | .array items => firstOverflowItem? items
  | .object members => firstOverflowMember? members
  | .null | .bool _ | .string _ => none

/-- The first number out of range in a list of values. -/
def firstOverflowItem? : List Json → Option Bytes
  | [] => none
  | item :: rest =>
    match firstOverflow? item with
    | some literal => some literal
    | none => firstOverflowItem? rest

/-- The first number out of range in a list of members. -/
def firstOverflowMember? : List (Bytes × Json) → Option Bytes
  | [] => none
  | (_, value) :: rest =>
    match firstOverflow? value with
    | some literal => some literal
    | none => firstOverflowMember? rest

end

end Json

end FunctionChain
