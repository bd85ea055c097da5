import FunctionChain.Script.Editing
import FunctionChain.Script.Utility

/-!
# Lines in order

How lines are compared when they are put in order: as texts or by the numbers they start with, as a whole
or by some of their fields, and in which direction.
-/

namespace FunctionChain

namespace Script

namespace Order

/-- How texts are compared. -/
structure Rules where
  byNumber : Bool
  isReversed : Bool
  ignoresCase : Bool
  /-- Whether blanks before a field do not count. -/
  skipsBlanks : Bool
deriving Repr, DecidableEq

/-- The rules that letters ask for. -/
def Rules.ofLetters (letters : Bytes) : Rules :=
  ⟨letters.contains (byte 'n'), letters.contains (byte 'r'), letters.contains (byte 'f'),
    letters.contains (byte 'b')⟩

/-- Whether a byte is a blank between fields. -/
def isBlank (b : UInt8) : Bool := b == 0x20 || b == 9

/-- The number of decimals that count. -/
def decimals : Nat := 20

/-- The number at the start of a text, in units of the last decimal that counts. -/
def leadingNumber (text : Bytes) : Int :=
  let body := text.dropWhile isBlank
  let (isNegative, body) := match body with
    | 0x2D :: rest => (true, rest)
    | _ => (false, body)
  let whole := body.takeWhile Bytes.isDigit
  let fraction := match body.drop whole.length with
    | 0x2E :: rest => (rest.takeWhile Bytes.isDigit).take decimals
    | _ => []
  let digits := whole ++ fraction ++ List.replicate (decimals - fraction.length) (byte '0')
  let n : Int := (Decimal.toNat? digits).getD 0
  if isNegative then -n else n

/-- Compare two texts by rules. -/
def Rules.compare (rules : Rules) (a b : Bytes) : Ordering :=
  let plain (a b : Bytes) : Ordering :=
    if a == b then .eq else if Bytes.before a b then .lt else .gt
  let found :=
    if rules.byNumber then Ord.compare (leadingNumber a) (leadingNumber b)
    else if rules.ignoresCase then plain (Bytes.upper a) (Bytes.upper b)
    else plain a b
  if rules.isReversed then found.swap else found

/-! ## Fields -/

/-- A place in a line: a field, and a byte in it. The byte zero is the end of the field. -/
structure Spot where
  field : Nat
  byte : Nat
deriving Repr, DecidableEq

/-- A part of lines by which they are compared. -/
structure Key where
  start : Spot
  stop : Option Spot
  rules : Rules
deriving Repr, DecidableEq

/-- The place that a text names, and the letters behind it. -/
def spot? (whenPlain : Nat) (text : Bytes) : Option (Spot × Bytes) := do
  let digits := text.takeWhile Bytes.isDigit
  let field ← Decimal.toNat? digits
  match text.drop digits.length with
  | 0x2E :: rest =>
    let places := rest.takeWhile Bytes.isDigit
    some (⟨field, ← Decimal.toNat? places⟩, rest.drop places.length)
  | rest => some (⟨field, whenPlain⟩, rest)

/-- The key that a text asks for. Without letters, the rules are those for all keys. -/
def key? (common : Rules) (text : Bytes) : Option Key := do
  let (first, last) := match Bytes.cut? text (byte ',') with
    | some (first, last) => (first, some last)
    | none => (text, none)
  let (start, letters) ← spot? 1 first
  let stop ← match last with
    | none => some none
    | some last => (spot? 0 last).map some
  let all := letters ++ (stop.map (·.2)).getD []
  some ⟨start, stop.map (·.1), if all.isEmpty then common else Rules.ofLetters all⟩

/-- The fields of a line that a mark separates, or each with the blanks before it. The fuel is more than
the length of the line. -/
def fields (mark : Option UInt8) : Nat → Bytes → List Bytes
  | 0, _ => []
  | fuel + 1, line =>
    match mark with
    | some mark => Bytes.splitOn line mark
    | none =>
      let blanks := line.takeWhile isBlank
      let word := (line.drop blanks.length).takeWhile (!isBlank ·)
      let field := blanks ++ word
      if field.isEmpty then [] else field :: fields none fuel (line.drop field.length)

/-- The offset of a field in a line. -/
def offset (mark : Option UInt8) (parts : List Bytes) (field : Nat) : Nat :=
  let gap := if mark.isSome then 1 else 0
  (parts.take (field - 1)).foldl (fun n part => n + part.length + gap) 0

/-- The part of a line by which it is compared. -/
def Key.part (mark : Option UInt8) (line : Bytes) (key : Key) : Bytes :=
  let parts := fields mark (line.length + 1) line
  let begin := offset mark parts key.start.field
  let blanks := if key.rules.skipsBlanks then ((line.drop begin).takeWhile isBlank).length else 0
  let begin := begin + blanks + (key.start.byte - 1)
  match key.stop with
  | none => line.drop begin
  | some stop =>
    let start := offset mark parts stop.field
    let stopAt := if stop.byte == 0 then start + (parts.getD (stop.field - 1) []).length
      else start + stop.byte
    (line.take stopAt).drop begin

/-- How lines are put in order. -/
structure Plan where
  mark : Option UInt8
  keys : List Key
  common : Rules
  /-- Whether lines that compare as equal are not compared as texts as well. -/
  isStable : Bool

/-- Compare two lines by the keys of a plan. -/
def Plan.compareKeys (plan : Plan) (a b : Bytes) : Ordering :=
  if plan.keys.isEmpty then plan.common.compare a b
  else plan.keys.foldl (fun found key =>
    found.then (key.rules.compare (key.part plan.mark a) (key.part plan.mark b))) .eq

/-- Compare two lines. -/
def Plan.compare (plan : Plan) (a b : Bytes) : Ordering :=
  (plan.compareKeys a b).then (if plan.isStable then .eq
    else (⟨false, plan.common.isReversed, false, false⟩ : Rules).compare a b)

/-- Drop lines that compare as equal to the line before. -/
def Plan.withoutRepeats (plan : Plan) : List Bytes → List Bytes
  | [] => []
  | first :: rest =>
    match withoutRepeats plan rest with
    | second :: more =>
      if plan.compareKeys first second == .eq then first :: more else first :: second :: more
    | [] => [first]

/-- Lines in order. -/
def Plan.sorted (plan : Plan) (lines : List Bytes) : List Bytes :=
  lines.mergeSort fun a b => plan.compare a b != .gt

end Order

end Script

end FunctionChain
