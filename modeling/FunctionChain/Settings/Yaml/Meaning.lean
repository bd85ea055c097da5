import FunctionChain.Settings.Value
import FunctionChain.Settings.Yaml.Problem
import FunctionChain.Text.Base64

/-!
# What scalars mean

A plain scalar without a tag means nothing, a truth value, a number or a point in time if it is written like
one, and a text otherwise. A tag says what a scalar has to mean; one that is not of the common types makes
it a text.
-/

namespace FunctionChain

namespace Settings

namespace Yaml

/-- What the tags of the common types start with. -/
def commonStart : Bytes := bytes "tag:yaml.org,2002:"

/-- The tag of a common type. -/
def commonTag (name : String) : Bytes := commonStart ++ bytes name

/-- A tag in messages. -/
def shortTag (tag : Bytes) : Bytes :=
  match Bytes.after? tag commonStart with
  | some name => bytes "!!" ++ name
  | none => tag

/-- The meaning of a scalar: its type and its value. A point in time has its text as value. -/
structure Meaning where
  tag : Bytes
  value : Value

namespace Meaning

/-- The meaning as a text. -/
def ofText (text : Bytes) : Meaning := ⟨commonTag "str", .text text⟩

/-- The meaning as an integer. -/
def ofInt (n : Int) : Meaning := ⟨commonTag "int", .integer n true⟩

/-- The meaning as a number. -/
def ofDouble (x : Double) : Meaning := ⟨commonTag "float", .number x⟩

/-! ## Words -/

/-- The words for truth values. -/
def truthWords : List (String × Bool) :=
  ["y", "Y", "yes", "Yes", "YES", "true", "True", "TRUE", "on", "On", "ON"].map (·, true)
    ++ ["n", "N", "no", "No", "NO", "false", "False", "FALSE", "off", "Off", "OFF"].map (·, false)

/-- The words for numbers that have no digits. -/
def numberWords : List (String × Double) :=
  [".nan", ".NaN", ".NAN"].map (·, .notANumber)
    ++ [".inf", ".Inf", ".INF", "+.inf", "+.Inf", "+.INF"].map (·, .infinite false)
    ++ ["-.inf", "-.Inf", "-.INF"].map (·, .infinite true)

/-- The words for nothing. -/
def nullWords : List String := ["", "~", "null", "Null", "NULL"]

/-- The meaning of a word. -/
def ofWord? (text : Bytes) : Option Meaning :=
  if nullWords.any (bytes · == text) then some ⟨commonTag "null", .null⟩
  else match truthWords.find? (bytes ·.1 == text), numberWords.find? (bytes ·.1 == text) with
    | some (_, b), _ => some ⟨commonTag "bool", .truth b⟩
    | none, some (_, x) => some (ofDouble x)
    | none, none => none

/-! ## Numbers -/

/-- Whether a text is decimal digits, maybe none. -/
def isDigits (text : Bytes) : Bool := text.all Bytes.isDigit

/-- Whether a text is empty or an exponent of ten. -/
def isExponent (text : Bytes) : Bool :=
  match text with
  | [] => true
  | e :: rest =>
    let (_, digits) := Integer.splitSign rest
    Bytes.lowerByte e == byte 'e' && !digits.isEmpty && isDigits digits

/-- Whether a text is a decimal number, maybe with a point and an exponent. -/
def isDecimal (text : Bytes) : Bool :=
  let (_, digits) := Integer.splitSign text
  let (whole, rest) := digits.span Bytes.isDigit
  match rest with
  | b :: more =>
    if b == byte '.' then
      let (fraction, rest) := more.span Bytes.isDigit
      !(whole.isEmpty && fraction.isEmpty) && isExponent rest
    else !whole.isEmpty && isExponent rest
  | [] => !whole.isEmpty

/-- The number that a text stands for, if it is within range. -/
def decimal? (text : Bytes) : Option Double :=
  if !isDecimal text then none
  else match Double.ofLiteral? text with
    | some (.infinite _) | none => none
    | some x => some x

/-- Whether every underscore stands between two digits. -/
def underscoresFit (afterDigit : Bool) : Bytes → Bool
  | [] => true
  | b :: rest =>
    if b == byte '_' then afterDigit && (rest.head?.any Bytes.isDigit) && underscoresFit false rest
    else underscoresFit (Bytes.isDigit b) rest

/-- A text without underscores. -/
def withoutUnderscores (text : Bytes) : Bytes := text.filter (· != byte '_')

/-- The number of a text that starts with a point. -/
def fraction? (text : Bytes) : Option Meaning :=
  if underscoresFit false text then (decimal? (withoutUnderscores text)).map ofDouble else none

/-- The integer of binary digits behind their mark. A sign may stand on either side of the mark. -/
def binary? (text : Bytes) : Option Int :=
  match Bytes.after? text (bytes "0b"), Bytes.after? text (bytes "-0b") with
  | some digits, _ => (Integer.readIn 2 digits).toOption
  | none, some digits => (Integer.readIn 2 (byte '-' :: digits)).toOption
  | none, none => none

/-- The number of a text without underscores that starts with a digit or a sign. -/
def number? (text : Bytes) : Option Meaning :=
  match Integer.read text, Integer.readMagnitude text with
  | .ok n, _ => some (ofInt n)
  | .error _, .ok n => some ⟨commonTag "int", .word n⟩
  | .error _, .error _ => ((decimal? text).map ofDouble).or ((binary? text).map ofInt)

/-! ## Points in time -/

/-- Read a time of day and check that each part of it is in its range. -/
def clock? (text : Bytes) : Except Timestamp.Problem Bytes := do
  let (_, rest) ← Timestamp.readPart Timestamp.oneOrTwoDigits? [] [] (· < 24) text
  let rest ← Timestamp.readMark (byte ':') rest
  let (_, rest) ← Timestamp.readPart Timestamp.oneOrTwoDigits? [] [] (· < 60) rest
  let rest ← Timestamp.readMark (byte ':') rest
  let (_, rest) ← Timestamp.readPart Timestamp.oneOrTwoDigits? [] [] (· < 60) rest
  return (Timestamp.readFraction rest).2

/-- Read what follows a date: nothing, a time of day after blanks, or a time of day and a zone. -/
def afterDate (text : Bytes) : Except Timestamp.Problem Bytes := do
  match text with
  | [] => return []
  | b :: rest =>
    if b == byte 'T' || b == byte 't' then
      let (_, rest) ← Timestamp.readZone (← clock? rest)
      return rest
    else if b == 0x20 then clock? (rest.dropWhile (· == 0x20))
    else return text

/-- Read a date and what follows it. -/
def readMoment (text : Bytes) : Except Timestamp.Problem Unit := do
  let (year, rest) ← Timestamp.readYear text
  let rest ← Timestamp.readMark (byte '-') rest
  let (month, rest) ← Timestamp.readPart Timestamp.oneOrTwoDigits? [] [] (fun n => 1 ≤ n && n ≤ 12) rest
  let rest ← Timestamp.readMark (byte '-') rest
  let (_, rest) ← Timestamp.readPart Timestamp.oneOrTwoDigits? [] []
    (fun n => 1 ≤ n && n ≤ Calendar.daysIn year month) rest
  let rest ← afterDate rest
  if !rest.isEmpty then throw (.extraText rest)

/-- Whether a text is a point in time. -/
def isMoment (text : Bytes) : Bool := (readMoment text).toBool

/-! ## Tags -/

/-- The types of which a scalar may be without being a text. -/
def commonTypes : List Bytes := ["str", "bool", "int", "float", "null", "timestamp"].map commonTag

/-- Whether a scalar that starts with a byte can be a word. -/
def startsWord (b : UInt8) : Bool := (bytes "yYnNtTfFoO~").contains b

/-- Whether a scalar that starts with a byte can be a number. -/
def startsNumber (b : UInt8) : Bool := Bytes.isDigit b || b == byte '+' || b == byte '-'

/-- The meaning of a scalar whose tag may leave it open. -/
def plain (tag text : Bytes) : Meaning :=
  match text with
  | [] => ⟨commonTag "null", .null⟩
  | b :: _ =>
    let found :=
      if !(startsWord b || startsNumber b || b == byte '.') then none
      else (ofWord? text).or <|
        if b == byte '.' then fraction? text
        else if !startsNumber b then none
        else if (tag.isEmpty || tag == commonTag "timestamp") && isMoment text then
          some ⟨commonTag "timestamp", .text text⟩
        else number? (withoutUnderscores text)
    found.getD (ofText text)

/-- The meaning of a scalar with a tag of a common type, if it is of that type. An integer is also a
number. -/
def checked (tag text : Bytes) (meaning : Meaning) : Except Problem Meaning :=
  if tag.isEmpty || tag == meaning.tag then .ok meaning
  else match tag == commonTag "float", meaning.value with
    | true, .integer n _ => .ok (ofDouble (Double.ofQuotient (n < 0) n.natAbs 1))
    | _, _ => .error (.notOfType (shortTag meaning.tag) text (shortTag tag))

/-- The meaning of a scalar. -/
def ofScalar (tag text : Bytes) (isImplicit : Bool) : Except Problem Meaning :=
  if tag.isEmpty && !isImplicit || tag == commonTag "str" then .ok (ofText text)
  else if tag == commonTag "binary" then
    match Base64.decode? text with
    | some content => .ok ⟨tag, .text content⟩
    | none => .error .badBinary
  else if tag.isEmpty || commonTypes.contains tag then checked tag text (plain tag text)
  else .ok ⟨tag, .text text⟩

end Meaning

end Yaml

end Settings

end FunctionChain
