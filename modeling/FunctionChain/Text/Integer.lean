import FunctionChain.Text.Quoted

/-!
# Integers and truth values in options

The values that options take on the command line, in the environment and in strings of configuration
files. An integer may have a sign and is decimal, or it is marked as hexadecimal (`0x`), octal (`0o` or
a leading zero) or binary (`0b`). A single underscore may stand between two digits, the mark counting as
a digit. It has to fit into a machine word, which has 64 bits.
-/

namespace FunctionChain

namespace Word

/-- The number of words. -/
def size : Nat := Nat.pow 2 64

/-- The number of words with a minus sign: signed words lie from its negative up to just below it. -/
def half : Nat := Nat.pow 2 63

/-- The signed word with the bits of a word. -/
def signed (n : Nat) : Int :=
  if n % size < half then ((n % size : Nat) : Int) else ((n % size : Nat) : Int) - (size : Int)

end Word

namespace Integer

/-- Why a text is no integer. -/
inductive Problem where
  | badForm
  | outOfRange
deriving Repr, DecidableEq

/-- The description of a problem. -/
def Problem.describe : Problem → Bytes
  | .badForm => bytes "invalid syntax"
  | .outOfRange => bytes "value out of range"

/-- The message about a text that is no integer. -/
def Problem.message (text : Bytes) (problem : Problem) : Bytes :=
  bytes "strconv.ParseInt: parsing " ++ Quoted.quote text ++ bytes ": " ++ problem.describe

/-- The largest number of 64 bits. -/
def wordMax : Nat := Word.size - 1

/-- The value of a digit or a letter. -/
def digitValue? (b : UInt8) : Option Nat :=
  if Bytes.isDigit b then some (b.toNat - 48)
  else if Bytes.isLower (Bytes.lowerByte b) then some ((Bytes.lowerByte b).toNat - 87)
  else none

/-- The base that a number is marked with, and the number without the mark. -/
def baseOf (text : Bytes) : Nat × Bytes :=
  match text with
  | a :: b :: c :: rest =>
    if a != byte '0' then (10, text)
    else if Bytes.lowerByte b == byte 'b' then (2, c :: rest)
    else if Bytes.lowerByte b == byte 'o' then (8, c :: rest)
    else if Bytes.lowerByte b == byte 'x' then (16, c :: rest)
    else (8, b :: c :: rest)
  | a :: rest => if a == byte '0' then (8, rest) else (10, text)
  | [] => (10, text)

/-- Read digits of a base, with `acc` for those before. Underscores are passed over. The first thing
that is wrong is reported. -/
def readDigits (base : Nat) : Nat → Bytes → Except Problem Nat
  | acc, [] => .ok acc
  | acc, b :: rest =>
    if b == byte '_' then readDigits base acc rest
    else match digitValue? b with
      | none => .error .badForm
      | some d =>
        if d ≥ base then .error .badForm
        else if acc * base + d > wordMax then .error .outOfRange
        else readDigits base (acc * base + d) rest

/-- Whether every underscore has a digit on both sides. `before` says whether there is one before the
text. -/
def underscoresFit (before : Bool) : Bytes → Bool
  | [] => true
  | b :: rest =>
    if b == byte '_' then before && !rest.isEmpty && underscoresFit false rest
    else underscoresFit true rest

/-- Whether a number carries a mark of its base that counts as a digit. -/
def hasMark (text : Bytes) : Bool :=
  match text with
  | a :: b :: _ => a == byte '0' && (bytes "box").contains (Bytes.lowerByte b)
  | _ => false

/-- Whether the underscores of a number without sign stand where they may. -/
def underscoresFine (text : Bytes) : Bool :=
  if hasMark text then underscoresFit true (text.drop 2) else underscoresFit false text

/-- Read a number without sign. -/
def readMagnitude (text : Bytes) : Except Problem Nat :=
  if text.isEmpty then .error .badForm else
  let (base, digits) := baseOf text
  match readDigits base 0 digits with
  | .error problem => .error problem
  | .ok n => if underscoresFine text then .ok n else .error .badForm

/-- Whether a text starts with a minus, and what follows its sign if it has one. -/
def splitSign (text : Bytes) : Bool × Bytes :=
  match text with
  | b :: rest =>
    if b == byte '-' then (true, rest) else if b == byte '+' then (false, rest) else (false, text)
  | [] => (false, text)

/-- An integer of 64 bits from its sign and its magnitude. -/
def ofMagnitude (isNegative : Bool) (n : Nat) : Except Problem Int :=
  if isNegative then if n > Word.half then .error .outOfRange else .ok (-(n : Int))
  else if n ≥ Word.half then .error .outOfRange else .ok n

/-- Read an integer of 64 bits. -/
def read (text : Bytes) : Except Problem Int :=
  let (isNegative, digits) := splitSign text
  match readMagnitude digits with
  | .error problem => .error problem
  | .ok n => ofMagnitude isNegative n

/-- Read an integer of 64 bits that has no mark, in a given base. -/
def readIn (base : Nat) (text : Bytes) : Except Problem Int :=
  let (isNegative, digits) := splitSign text
  if digits.isEmpty || digits.contains (byte '_') then .error .badForm
  else match readDigits base 0 digits with
    | .error problem => .error problem
    | .ok n => ofMagnitude isNegative n

end Integer

namespace Truth

/-- The texts for yes. -/
def yes : List Bytes :=
  [bytes "1", bytes "t", bytes "T", bytes "TRUE", bytes "true", bytes "True"]

/-- The texts for no. -/
def no : List Bytes :=
  [bytes "0", bytes "f", bytes "F", bytes "FALSE", bytes "false", bytes "False"]

/-- The truth value that a text stands for. -/
def read? (text : Bytes) : Option Bool :=
  if yes.contains text then some true else if no.contains text then some false else none

/-- The message about a text that is no truth value. -/
def problemMessage (text : Bytes) : Bytes :=
  bytes "strconv.ParseBool: parsing " ++ Quoted.quote text ++ bytes ": invalid syntax"

end Truth

end FunctionChain
