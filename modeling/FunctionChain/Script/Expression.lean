import FunctionChain.Script.Regex
import FunctionChain.Script.Utility

/-!
# Expressions of words

The program `expr` writes the value of an expression whose operands and operators are words of their own.
Operators bind as in arithmetic, and those of one rank are taken from left to right. Words that are numbers
are compared as numbers, all others as texts.
-/

namespace FunctionChain

namespace Script

namespace Expression

open FunctionChain.Script.Utility (Effect quoted fail misuse)

/-! ## Operators -/

/-- Whether a value counts as no. -/
def isVoid (value : Bytes) : Bool :=
  value.isEmpty || (Numeral.decimal? value).any (· == 0)

/-- The value of a truth. -/
def truth (b : Bool) : Bytes := bytes (if b then "1" else "0")

/-- The value of a calculation on numbers. -/
def calculated (apply : Int → Int → Int) (left right : Bytes) : Except Bytes Bytes :=
  match Numeral.decimal? left, Numeral.decimal? right with
  | some a, some b => .ok (Decimal.ofInt (apply a b))
  | _, _ => .error (bytes "non-integer argument")

/-- The value of a division. -/
def divided (apply : Int → Int → Int) (left right : Bytes) : Except Bytes Bytes :=
  if (Numeral.decimal? left).isSome && (Numeral.decimal? right).any (· == 0) then
    .error (bytes "division by zero")
  else calculated apply left right

/-- The value of a comparison. -/
def compared (onNumbers : Int → Int → Bool) (onTexts : Bytes → Bytes → Bool) (left right : Bytes) :
    Except Bytes Bytes :=
  match Numeral.decimal? left, Numeral.decimal? right with
  | some a, some b => .ok (truth (onNumbers a b))
  | _, _ => .ok (truth (onTexts left right))

/-- Match the beginning of a text with an expression: the value is the part in brackets, if the expression
has brackets, and else the number of bytes that match. -/
def matched (text pattern : Bytes) : Except Bytes Bytes :=
  let hasPart := Bytes.includes pattern (bytes "\\(")
  let found := (Regex.read false pattern).bind fun regex =>
    (Regex.search false regex text).filter (·.before.isEmpty)
  match found with
  | some found =>
    .ok (if hasPart then (found.captures.lookup 1).getD [] else Decimal.ofNat found.found.length)
  | none => .ok (if hasPart then [] else bytes "0")

/-- An operator: its rank, which is higher for those that bind closer, and its value. -/
abbrev Operator := Nat × (Bytes → Bytes → Except Bytes Bytes)

/-- The operators. -/
def operators : List (Bytes × Operator) :=
  [(bytes "|", 0, fun a b => .ok (if !isVoid a then a else if b.isEmpty then bytes "0" else b)),
    (bytes "&", 1, fun a b => .ok (if isVoid a || isVoid b then bytes "0" else a)),
    (bytes "<", 2, compared (· < ·) Bytes.before),
    (bytes "<=", 2, compared (· ≤ ·) Bytes.atMost),
    (bytes "=", 2, compared (· == ·) (· == ·)),
    (bytes "==", 2, compared (· == ·) (· == ·)),
    (bytes "!=", 2, compared (· != ·) (· != ·)),
    (bytes ">=", 2, compared (· ≥ ·) fun a b => Bytes.atMost b a),
    (bytes ">", 2, compared (· > ·) fun a b => Bytes.before b a),
    (bytes "+", 3, calculated (· + ·)),
    (bytes "-", 3, calculated (· - ·)),
    (bytes "*", 4, calculated (· * ·)),
    (bytes "/", 4, divided Int.tdiv),
    (bytes "%", 4, divided Int.tmod),
    (bytes ":", 5, matched)]

/-- The rank of what stands between operators. -/
def operandRank : Nat := 6

/-! ## Reading -/

/-- Words that are left, with the last one before them. -/
structure Words where
  last : Bytes
  rest : List Bytes

/-- Take a word. -/
def Words.next (words : Words) : Except Bytes (Bytes × Words) :=
  match words.rest with
  | [] => .error (bytes "syntax error: missing argument after " ++ quoted words.last)
  | word :: rest => .ok (word, ⟨word, rest⟩)

/-- The part of a text from a place on. -/
def portion (text place length : Bytes) : Bytes :=
  match Numeral.decimal? place, Numeral.decimal? length with
  | some start, some count =>
    if start ≤ 0 || count ≤ 0 then [] else (text.drop (start.toNat - 1)).take count.toNat
  | _, _ => []

/-- The first place of a text at which one of some bytes stands, or zero. -/
def placeOf (text set : Bytes) : Nat :=
  match text.findIdx? set.contains with
  | some index => index + 1
  | none => 0

mutual

/-- The value of an expression whose operators are at least of a rank, and the words behind it. -/
def value : Nat → Nat → Words → Except Bytes (Bytes × Words)
  | 0, _, words => .ok ([], words)
  | fuel + 1, rank, words =>
    if rank ≥ operandRank then operand fuel words
    else do
      let (left, words) ← value fuel (rank + 1) words
      more fuel rank left words

/-- The value of what was read and the operators of a rank that follow it. -/
def more : Nat → Nat → Bytes → Words → Except Bytes (Bytes × Words)
  | 0, _, left, words => .ok (left, words)
  | fuel + 1, rank, left, words =>
    match words.rest with
    | [] => .ok (left, words)
    | word :: rest =>
      match operators.lookup word with
      | some (found, apply) =>
        if found != rank then .ok (left, words)
        else do
          let (right, words) ← value fuel (rank + 1) ⟨word, rest⟩
          more fuel rank (← apply left right) words
      | none => .ok (left, words)

/-- The value of an operand. -/
def operand : Nat → Words → Except Bytes (Bytes × Words)
  | 0, words => .ok ([], words)
  | fuel + 1, words => do
    let (word, words) ← words.next
    if word == bytes "(" then
      let (inner, words) ← value fuel 0 words
      match words.rest with
      | [0x29] :: rest => return (inner, ⟨bytes ")", rest⟩)
      | [] => .error (bytes "syntax error: expecting ')' after " ++ quoted words.last)
      | other :: _ => .error (bytes "syntax error: expecting ')' instead of " ++ quoted other)
    else if word == bytes ")" then .error (bytes "syntax error: unexpected ')'")
    else if word == bytes "+" then words.next
    else if word == bytes "length" then
      let (text, words) ← operand fuel words
      return (Decimal.ofNat text.length, words)
    else if word == bytes "match" then
      let (text, words) ← operand fuel words
      let (pattern, words) ← operand fuel words
      return (← matched text pattern, words)
    else if word == bytes "index" then
      let (text, words) ← operand fuel words
      let (set, words) ← operand fuel words
      return (Decimal.ofNat (placeOf text set), words)
    else if word == bytes "substr" then
      let (text, words) ← operand fuel words
      let (place, words) ← operand fuel words
      let (length, words) ← operand fuel words
      return (portion text place length, words)
    else return (word, words)

end

/-- The value of all words. -/
def evaluate (words : List Bytes) : Except Bytes Bytes := do
  let (found, left) ← value (16 * (words.length + 2)) 0 ⟨[], words⟩
  match left.rest with
  | [] => return found
  | word :: _ => .error (bytes "syntax error: unexpected argument " ++ quoted word)

/-- Write the value of an expression of words. -/
def expr : Effect := fun arguments state =>
  let name := bytes "expr"
  match (if arguments.head? == some (bytes "--") then arguments.tail else arguments) with
  | [] => misuse state name (bytes "missing operand")
  | words =>
    match evaluate words with
    | .ok found => (state.print (found ++ [10])).withStatus (if isVoid found then 1 else 0)
    | .error message => fail state name message 2

/-- The programs of this module. -/
def table : List (Bytes × Effect) := [(bytes "expr", expr)]

end Expression

end Script

end FunctionChain
