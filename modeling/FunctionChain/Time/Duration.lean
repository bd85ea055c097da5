import FunctionChain.Text.Decimal
import FunctionChain.Text.Double
import FunctionChain.Text.Integer

/-!
# Durations

A duration is a number of nanoseconds in the range of 64-bit integers. It is written in hours,
minutes and seconds, or, below a second, in the largest unit that has a whole part; fractions have
no trailing zeros. Reading takes a sum of numbers with units.
-/

namespace FunctionChain

/-- A number of nanoseconds. -/
abbrev Duration := Int

namespace Duration

def microsecond : Nat := 1000
def millisecond : Nat := 1000000
def second : Nat := 1000000000
def minute : Nat := 60 * second
def hour : Nat := 60 * minute

/-- The longest duration. -/
def longest : Int := Word.half - 1

/-- The shortest duration, the furthest below zero. -/
def shortest : Int := -Word.half

/-- A difference as the nearest duration that there is. -/
def saturated (nanoseconds : Int) : Duration := max shortest (min longest nanoseconds)

/-! ## Writing -/

/-- `n` in units of `10 ^ places`, with as many decimals as needed. -/
def decimals (n places : Nat) : Bytes :=
  let fraction := Bytes.dropEndWhile (Decimal.padded (n % Nat.pow 10 places) places) (· == byte '0')
  Decimal.ofNat (n / Nat.pow 10 places)
    ++ (if n % Nat.pow 10 places == 0 then [] else byte '.' :: fraction)

/-- The text of a duration without its sign. -/
def magnitudeText (n : Nat) : Bytes :=
  if n == 0 then bytes "0s"
  else if n < microsecond then decimals n 0 ++ bytes "ns"
  else if n < millisecond then decimals n 3 ++ bytes "µs"
  else if n < second then decimals n 6 ++ bytes "ms"
  else
    let seconds := decimals (n % minute) 9 ++ bytes "s"
    if n < minute then seconds
    else
      let minutes := Decimal.ofNat (n / minute % 60) ++ bytes "m" ++ seconds
      if n < hour then minutes
      else Decimal.ofNat (n / hour) ++ bytes "h" ++ minutes

/-- The text of a duration. -/
def text (duration : Duration) : Bytes :=
  if duration < 0 then byte '-' :: magnitudeText duration.natAbs
  else magnitudeText duration.natAbs

/-! ## Reading -/

/-- A text in the messages about times and durations: control characters and everything beyond ASCII
are written as bytes in hexadecimal. -/
def quote (text : Bytes) : Bytes :=
  byte '"' :: text.flatMap (fun b =>
    if b < 0x20 || b ≥ 0x80 then bytes "\\x" ++ Hex.padded b.toNat 2
    else if b == 0x22 || b == 0x5C then [0x5C, b]
    else [b]) ++ [byte '"']

/-- The units by name. -/
def units : List (Bytes × Nat) :=
  [(bytes "ns", 1), (bytes "us", microsecond), (bytes "µs", microsecond),
    (bytes "μs", microsecond), (bytes "ms", millisecond), (bytes "s", second),
    (bytes "m", minute), (bytes "h", hour)]

/-- Why a text is no duration. -/
inductive Problem where
  | invalid (text : Bytes)
  | missingUnit (text : Bytes)
  | unknownUnit (unit text : Bytes)
deriving Repr, DecidableEq

/-- The message of a problem. -/
def Problem.message : Problem → Bytes
  | .invalid text => bytes "time: invalid duration " ++ quote text
  | .missingUnit text => bytes "time: missing unit in duration " ++ quote text
  | .unknownUnit unit text =>
    bytes "time: unknown unit " ++ quote unit ++ bytes " in duration " ++ quote text

/-- Whether a byte belongs to a number. -/
def isNumeral (b : UInt8) : Bool := Bytes.isDigit b || b == byte '.'

/-- The value of some digits. -/
def digitsValue (digits : Bytes) : Nat := digits.foldl (fun n b => n * 10 + (b.toNat - 48)) 0

/-- One step of `fractionParts`: a digit that takes the value beyond the words of 64 bits ends the
reading, and what follows does not count. -/
def fractionStep (parts : Nat × Nat × Bool) (digit : UInt8) : Nat × Nat × Bool :=
  let (value, scale, isFull) := parts
  let next := value * 10 + (digit.toNat - 48)
  if isFull || value > (Word.half - 1) / 10 || next > Word.half then (value, scale, true)
  else (next, scale * 10, false)

/-- The value of the digits after a point, and the power of ten that it is counted in. -/
def fractionParts (digits : Bytes) : Nat × Nat :=
  let (value, scale, _) := digits.foldl fractionStep (0, 1, false)
  (value, scale)

/-- The nanoseconds of a fraction of a unit. The product is taken in double precision. -/
def fractionValue (digits : Bytes) (unit : Nat) : Nat :=
  let (value, scale) := fractionParts digits
  ((Double.ofQuotient false value 1).product? (Double.ofQuotient false unit scale)).elim 0
    Double.whole

/-- One number with its unit from the start of a text: its value, and the rest. -/
def readTerm (whole text : Bytes) : Except Problem (Nat × Bytes) :=
  let (digits, afterDigits) := text.span Bytes.isDigit
  let (fraction, rest) := match afterDigits with
    | b :: more => if b == byte '.' then more.span Bytes.isDigit else ([], afterDigits)
    | [] => ([], [])
  if digits.isEmpty && fraction.isEmpty then .error (.invalid whole)
  else if digitsValue digits > Word.half then .error (.invalid whole)
  else
    let (unit, rest) := rest.span (!isNumeral ·)
    if unit.isEmpty then .error (.missingUnit whole)
    else match units.lookup unit with
      | none => .error (.unknownUnit unit whole)
      | some size =>
        let value := digitsValue digits * size + fractionValue fraction size
        if value > Word.half then .error (.invalid whole) else .ok (value, rest)

/-- The sum of the terms in a text; each takes at least one byte, so `fuel` is its length. -/
def readTerms (whole : Bytes) : Nat → Nat → Bytes → Except Problem Nat
  | _, sum, [] => .ok sum
  | 0, _, _ => .error (.invalid whole)
  | fuel + 1, sum, text =>
    match readTerm whole text with
    | .error problem => .error problem
    | .ok (value, rest) =>
      if sum + value > Word.half then .error (.invalid whole)
      else readTerms whole fuel (sum + value) rest

/-- The duration that a text stands for: a sign, and `0` or a sum of numbers with units. -/
def read (whole : Bytes) : Except Problem Duration :=
  let (negative, text) := match whole with
    | b :: rest =>
      if b == byte '-' then (true, rest) else if b == byte '+' then (false, rest)
      else (false, whole)
    | [] => (false, whole)
  if text == bytes "0" then .ok 0
  else if text.isEmpty then .error (.invalid whole)
  else match readTerms whole text.length 0 text with
    | .error problem => .error problem
    | .ok n =>
      if negative then .ok (-(n : Int))
      else if n == Word.half then .error (.invalid whole)
      else .ok n

end Duration

end FunctionChain
