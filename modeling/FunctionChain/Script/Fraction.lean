import FunctionChain.Script.Numeral
import FunctionChain.Text.Double

/-!
# Numbers with decimals in scripts

Numbers of double precision, as `printf` reads and writes them: with a fixed number of decimals, with a
power of ten, or in the shorter of the two forms. What is written is the exact value, rounded once.
-/

namespace FunctionChain

namespace Script

namespace Fraction

/-! ## Reading -/

/-- The number at the start of a text, and the rest of the text. -/
def read? (text : Bytes) : Option (Double × Bytes) :=
  let body := text.dropWhile Numeral.isSpace
  let (isNegative, unsigned) := Numeral.sign body
  let named (word : String) (value : Double) : Option (Double × Bytes) :=
    if Bytes.startsWith (Bytes.lower unsigned) (bytes word) then
      some (value, unsigned.drop word.length) else none
  match unsigned with
  | 0x30 :: x :: h :: rest =>
    if Bytes.lowerByte x == byte 'x' && Numeral.isHexadecimal h then
      let digits := (h :: rest).takeWhile Numeral.isHexadecimal
      some (.ofQuotient isNegative (Numeral.value 16 digits) 1, (h :: rest).drop digits.length)
    else decimal? isNegative unsigned
  | _ =>
    ((named "infinity" (.infinite isNegative)).or
      ((named "inf" (.infinite isNegative)).or (named "nan" .notANumber))).or
      (decimal? isNegative unsigned)
where
  /-- The decimal number at the start of a text. -/
  decimal? (isNegative : Bool) (text : Bytes) : Option (Double × Bytes) :=
    let whole := text.takeWhile Bytes.isDigit
    let rest := text.drop whole.length
    let fraction := match rest with
      | 0x2E :: rest => byte '.' :: rest.takeWhile Bytes.isDigit
      | _ => []
    let rest := rest.drop fraction.length
    let exponent := match rest with
      | e :: rest =>
        let signed := rest.take (if rest.head?.any fun b => b == byte '-' || b == byte '+' then 1 else 0)
        let digits := (rest.drop signed.length).takeWhile Bytes.isDigit
        if Bytes.lowerByte e == byte 'e' && !digits.isEmpty then e :: signed ++ digits else []
      | [] => []
    if whole.isEmpty && fraction.length < 2 then none
    else
      let literal := (if isNegative then bytes "-" else []) ++ whole ++ fraction ++ exponent
      (Double.ofLiteral? literal).map fun value => (value, rest.drop exponent.length)

/-! ## Writing -/

/-- How a number is written. -/
inductive Form where
  | fixed
  | scientific
  | general
deriving Repr, DecidableEq

/-- A positive number with a number of decimals. -/
def fixed (n d decimals : Nat) : Bytes :=
  let digits := Decimal.padded (Double.roundedQuotient (n * Nat.pow 10 decimals) d) (decimals + 1)
  let (whole, fraction) := digits.splitAt (digits.length - decimals)
  if fraction.isEmpty then whole else whole ++ byte '.' :: fraction

/-- The digits of a positive number, one before the point and a number of them behind it, and the power of
ten of the first. -/
def leading (n d decimals : Nat) : Nat × Int :=
  if n == 0 then (0, 0)
  else
    let guess : Int := ((Decimal.ofNat n).length : Int) - (Decimal.ofNat d).length
    let scaledBy (power : Int) : Nat × Nat :=
      match power with
      | .ofNat k => (n, d * Nat.pow 10 k)
      | .negSucc k => (n * Nat.pow 10 (k + 1), d)
    let (n1, d1) := scaledBy guess
    let power := if n1 ≥ d1 then guess else guess - 1
    let (n2, d2) := scaledBy (power - decimals)
    let digits := Double.roundedQuotient n2 d2
    if digits ≥ Nat.pow 10 (decimals + 1) then (digits / 10, power + 1) else (digits, power)

/-- A positive number with a power of ten. -/
def scientific (n d decimals : Nat) : Bytes :=
  let (digits, power) := leading n d decimals
  let text := Decimal.padded digits (decimals + 1)
  text.take 1 ++ (if decimals > 0 then byte '.' :: text.drop 1 else [])
    ++ (if power < 0 then bytes "e-" else bytes "e+") ++ Decimal.padded power.natAbs 2

/-- A text without the zeros that end its decimals, which may stand before a power of ten. -/
def withoutZeros (text : Bytes) : Bytes :=
  let digits := text.takeWhile (· != byte 'e')
  if !digits.contains (byte '.') then text
  else Bytes.dropEndWhile (Bytes.dropEndWhile digits (· == byte '0')) (· == byte '.')
    ++ text.drop digits.length

/-- A positive number in the shorter form, with a number of digits. -/
def general (keepsZeros : Bool) (n d digits : Nat) : Bytes :=
  let digits := max digits 1
  let (_, power) := leading n d (digits - 1)
  let text := if power < -4 || power ≥ digits then scientific n d (digits - 1)
    else fixed n d (digits - 1 - power).toNat
  if keepsZeros then text else withoutZeros text

/-- A number without its sign. -/
def written (form : Form) (keepsZeros : Bool) (precision : Option Nat) : Double → Bytes
  | .infinite _ => bytes "inf"
  | .notANumber => bytes "nan"
  | .finite _ significand power =>
    let (n, d) := Double.quotient significand power
    let count := precision.getD 6
    match form with
    | .fixed => fixed n d count
    | .scientific => scientific n d count
    | .general => general keepsZeros n d count

/-- Whether a number is negative. -/
def isNegative : Double → Bool
  | .infinite isNegative => isNegative
  | .notANumber => false
  | .finite isNegative _ _ => isNegative

end Fraction

end Script

end FunctionChain
