import FunctionChain.Text.Decimal
import FunctionChain.Text.Integer

/-!
# Binary numbers of double precision

Numbers in configuration files that are not integers are held in double precision: a significand of 53
bits times a power of two. Reading takes the nearest such number to a decimal, the even one of two;
writing takes the fewest digits that read back as the number, the nearest of those.

Everything is computed exactly on natural numbers: a power with a negative exponent goes to the other
side of a comparison or a division.
-/

namespace FunctionChain

/-- A number of double precision. -/
inductive Double where
  /-- `significand * 2 ^ power`, negated if it is negative. -/
  | finite (isNegative : Bool) (significand : Nat) (power : Int)
  | infinite (isNegative : Bool)
  | notANumber
deriving Repr, DecidableEq

namespace Double

/-- The smallest power of two that a significand is multiplied by. -/
def leastPower : Int := -1074

/-- The largest power of two that a significand is multiplied by. -/
def greatestPower : Int := 971

/-- The smallest number that is too large for a significand. -/
def significandLimit : Nat := Nat.pow 2 53

/-! ## Reading -/

/-- A quotient rounded to the nearest number, the even one of two. -/
def roundedQuotient (numerator denominator : Nat) : Nat :=
  let q := numerator / denominator
  let twice := 2 * (numerator % denominator)
  if twice < denominator then q
  else if twice > denominator then q + 1
  else if q % 2 == 0 then q else q + 1

/-- The parts of a quotient by a power: what to divide and what to divide by. -/
def scaled (numerator denominator : Nat) (base : Nat) (power : Int) : Nat × Nat :=
  match power with
  | .ofNat n => (numerator, denominator * Nat.pow base n)
  | .negSucc n => (numerator * Nat.pow base (n + 1), denominator)

/-- The power of two for the significand of a positive quotient. -/
def powerFor (numerator denominator : Nat) : Int :=
  let guess := (numerator.log2 : Int) - denominator.log2 - 53
  let (n, d) := scaled numerator denominator 2 guess
  max leastPower (if n / d ≥ significandLimit then guess + 1 else guess)

/-- The nearest number to a quotient. -/
def ofQuotient (isNegative : Bool) (numerator denominator : Nat) : Double :=
  if numerator == 0 then .finite isNegative 0 0 else
  let power := powerFor numerator denominator
  let (n, d) := scaled numerator denominator 2 power
  let m := roundedQuotient n d
  let (m, power) := if m == significandLimit then (m / 2, power + 1) else (m, power)
  if power > greatestPower then .infinite isNegative else .finite isNegative m power

/-- The nearest number to `digits * 10 ^ exponent`. Exponents that are far out of range are cut off. -/
def ofDecimal (isNegative : Bool) (digits : Nat) (exponent : Int) : Double :=
  let size : Int := (Decimal.ofNat digits).length
  if exponent + size > 400 then (if digits == 0 then .finite isNegative 0 0 else .infinite isNegative)
  else if exponent + size < -400 then .finite isNegative 0 0
  else
    let (d, n) := scaled 1 digits 10 exponent
    ofQuotient isNegative n d

/-- The number that a literal of digits, a point and an exponent stands for. -/
def ofLiteral? (literal : Bytes) : Option Double :=
  let (isNegative, text) := match literal with
    | b :: rest =>
      if b == byte '-' then (true, rest) else if b == byte '+' then (false, rest)
      else (false, literal)
    | [] => (false, literal)
  let (whole, rest) := text.span Bytes.isDigit
  let (fraction, rest) := match rest with
    | b :: more => if b == byte '.' then more.span Bytes.isDigit else ([], rest)
    | [] => ([], rest)
  let exponent? : Option Int := match rest with
    | [] => some 0
    | e :: rest =>
      if Bytes.lowerByte e != byte 'e' then none else
      match rest with
      | b :: digits =>
        if b == byte '-' then (Decimal.toNat? digits).map fun n => -(n : Int)
        else if b == byte '+' then (Decimal.toNat? digits).map Int.ofNat
        else (Decimal.toNat? rest).map Int.ofNat
      | [] => none
  match exponent?, Decimal.toNat? (whole ++ fraction) with
  | some exponent, some digits => some (ofDecimal isNegative digits (exponent - fraction.length))
  | _, _ => none

/-! ## Arithmetic on positive numbers -/

/-- The parts of a finite number as a quotient, without its sign. -/
def quotient (significand : Nat) (power : Int) : Nat × Nat :=
  let (d, n) := scaled 1 significand 2 power
  (n, d)

/-- The nearest number to the product of two numbers, without signs. Beyond all numbers there is no
product. -/
def product? : Double → Double → Option Double
  | .finite _ a p, .finite _ b q =>
    let (n, d) := quotient (a * b) (p + q)
    some (ofQuotient false n d)
  | _, _ => none

/-- The whole part of a number without its sign. -/
def whole : Double → Nat
  | .finite _ significand power =>
    let (n, d) := quotient significand power
    n / d
  | .infinite _ | .notANumber => 0

/-! ## Writing -/

/-- Whether a decimal `digits * 10 ^ exponent` reads back as a positive number: it lies between the
middles to the neighbours, on a middle only if the significand is even. All is measured in quarters of
the significand's unit, because the neighbour below a power of two is half as far away. -/
def readsBack (significand : Nat) (power : Int) (digits : Nat) (exponent : Int) : Bool :=
  let below := if significand == significandLimit / 2 && power > leastPower then 1 else 2
  -- `digits * 10 ^ exponent` against `(4 * significand ± …) * 2 ^ (power - 2)`
  let (d10, n10) := scaled 1 digits 10 exponent
  let compare (quarters : Nat) : Nat × Nat :=
    let (d2, n2) := scaled 1 quarters 2 (power - 2)
    (n10 * d2, n2 * d10)
  let (value, low) := compare (4 * significand - below)
  let (again, high) := compare (4 * significand + 2)
  if significand % 2 == 0 then low ≤ value && again ≤ high else low < value && again < high

/-- The decimal on the grid of an exponent that reads back as a positive number and is nearest to it. -/
def onGrid? (significand : Nat) (power : Int) (exponent : Int) : Option Nat :=
  let (d2, n2) := scaled 1 significand 2 power
  let (n, d) := scaled n2 d2 10 exponent
  let lower := n / d
  let nearer := roundedQuotient n d
  let farther := if nearer == lower then lower + 1 else lower
  if readsBack significand power nearer exponent then some nearer
  else if readsBack significand power farther exponent then some farther
  else none

/-- The number of digits before the point of a positive number, or minus the zeros after it. -/
def magnitude (significand : Nat) (power : Int) : Int :=
  let (d2, n2) := scaled 1 significand 2 power
  let guess : Int := ((Decimal.ofNat n2).length : Int) - (Decimal.ofNat d2).length
  let (n, d) := scaled n2 d2 10 guess
  if n / d ≥ 1 then guess + 1 else guess

/-- The fewest digits that read back as a positive number, tried from a grid on, and the grid. -/
def shortestFrom (significand : Nat) (power : Int) : Nat → Int → Nat × Int
  | 0, exponent => (roundedQuotient significand 1, exponent)
  | tries + 1, exponent =>
    match onGrid? significand power exponent with
    | some digits => (digits, exponent)
    | none => shortestFrom significand power tries (exponent - 1)

/-- The fewest digits that read back as a positive number. -/
def shortest (significand : Nat) (power : Int) : Nat × Int :=
  shortestFrom significand power 18 (magnitude significand power - 1)

/-- The decimal text of `digits * 10 ^ exponent` without exponent. -/
def positional (digits : Nat) (exponent : Int) : Bytes :=
  match exponent with
  | .ofNat n => if digits == 0 then bytes "0" else Decimal.ofNat digits ++ List.replicate n (byte '0')
  | .negSucc n =>
    let text := Decimal.padded digits (n + 2)
    let (whole, fraction) := text.splitAt (text.length - (n + 1))
    let fraction := Bytes.dropEndWhile fraction (· == byte '0')
    if fraction.isEmpty then whole else whole ++ byte '.' :: fraction

/-- The text of a number, without exponent. -/
def text : Double → Bytes
  | .finite isNegative significand power =>
    (if isNegative then bytes "-" else [])
      ++ (if significand == 0 then bytes "0"
        else let (digits, exponent) := shortest significand power
          positional digits exponent)
  | .infinite isNegative => if isNegative then bytes "-Inf" else bytes "+Inf"
  | .notANumber => bytes "NaN"

/-- The text of `digits * 10 ^ exponent` with one digit before the point and an exponent of at least two
digits. -/
def scientific (digits : Nat) (exponent : Int) : Bytes :=
  let text := Bytes.dropEndWhile (Decimal.ofNat digits) (· == byte '0')
  let power : Int := exponent + ((Decimal.ofNat digits).length - 1 : Nat)
  text.take 1 ++ (if text.length > 1 then byte '.' :: text.drop 1 else [])
    ++ (if power < 0 then bytes "e-" else bytes "e+") ++ Decimal.padded power.natAbs 2

/-- The text of a number, with an exponent if it is below a ten-thousandth or from a million on. -/
def generalText : Double → Bytes
  | .finite isNegative significand power =>
    (if isNegative then bytes "-" else [])
      ++ (if significand == 0 then bytes "0"
        else
          let (digits, exponent) := shortest significand power
          let leading : Int := exponent + ((Decimal.ofNat digits).length - 1 : Nat)
          if leading < -4 || leading ≥ 6 then scientific digits exponent
          else positional digits exponent)
  | number => number.text

/-- The integer of 64 bits that a number is cut down to; the smallest if there is none. -/
def truncated : Double → Int
  | .finite isNegative significand power =>
    let (n, d) := quotient significand power
    let whole : Int := if isNegative then -((n / d : Nat) : Int) else ((n / d : Nat) : Int)
    if whole < -Word.half || whole ≥ Word.half then -Word.half else whole
  | .infinite _ | .notANumber => -Word.half

end Double

end FunctionChain
