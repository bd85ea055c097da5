import FunctionChain.Script.Numeral

/-!
# Arithmetic in scripts

Integer expressions with the usual operators and their usual strength, over signed machine words. A name
stands for the value of the variable, or zero. Reading an expression and finding its value are two steps;
the value of an expression depends on the variables, and an expression may give them new values.
-/

namespace FunctionChain

namespace Script

namespace Arithmetic

/-- An operator between two operands. -/
inductive Operator where
  | either
  | both
  | bitOr
  | bitXor
  | bitAnd
  | equal
  | unequal
  | atMost
  | atLeast
  | less
  | greater
  | shiftLeft
  | shiftRight
  | plus
  | minus
  | times
  | over
  | remainder
deriving Repr, DecidableEq

/-- The operators of each strength, the weakest first. In a row, longer ones come first. -/
def rows : List (List (Bytes × Operator)) :=
  [[(bytes "||", .either)], [(bytes "&&", .both)], [(bytes "|", .bitOr)], [(bytes "^", .bitXor)],
    [(bytes "&", .bitAnd)], [(bytes "==", .equal), (bytes "!=", .unequal)],
    [(bytes "<=", .atMost), (bytes ">=", .atLeast), (bytes "<", .less), (bytes ">", .greater)],
    [(bytes "<<", .shiftLeft), (bytes ">>", .shiftRight)],
    [(bytes "+", .plus), (bytes "-", .minus)],
    [(bytes "*", .times), (bytes "/", .over), (bytes "%", .remainder)]]

/-- The number for a truth value. -/
def truth (b : Bool) : Int := if b then 1 else 0

/-- The value of an operator, or nothing for a division by zero. -/
def Operator.apply (a b : Int) : Operator → Option Int
  | .either => some (truth (a != 0 || b != 0))
  | .both => some (truth (a != 0 && b != 0))
  | .bitOr => some (ofWord (toWord a ||| toWord b))
  | .bitXor => some (ofWord (toWord a ^^^ toWord b))
  | .bitAnd => some (ofWord (toWord a &&& toWord b))
  | .equal => some (truth (a == b))
  | .unequal => some (truth (a != b))
  | .atMost => some (truth (a ≤ b))
  | .atLeast => some (truth (a ≥ b))
  | .less => some (truth (a < b))
  | .greater => some (truth (a > b))
  | .shiftLeft => some (wrapped (a * Nat.pow 2 (toWord b % 64)))
  | .shiftRight => some (a / Nat.pow 2 (toWord b % 64))
  | .plus => some (wrapped (a + b))
  | .minus => some (wrapped (a - b))
  | .times => some (wrapped (a * b))
  | .over => if b == 0 then none else some (wrapped (a.tdiv b))
  | .remainder => if b == 0 then none else some (a.tmod b)

/-- An operator before one operand. -/
inductive Sign where
  | negative
  | positive
  | complement
  | opposite
deriving Repr, DecidableEq

/-- The value of an operator before its operand. -/
def Sign.apply (a : Int) : Sign → Int
  | .negative => wrapped (-a)
  | .positive => a
  | .complement => -a - 1
  | .opposite => truth (a == 0)

/-- An expression. -/
inductive Expression where
  | number (value : Int)
  | name (text : Bytes)
  | signed (sign : Sign) (operand : Expression)
  | operation (operator : Operator) (left right : Expression)
  | choice (test yes no : Expression)
  /-- Give a variable a value, perhaps made of the one it has. -/
  | assignment (target : Bytes) (operator : Option Operator) (value : Expression)
deriving Repr

/-- What is wrong with an expression. -/
inductive Flaw where
  | noOperand
  | notClosed
  | noAlternative
  | notEnded
  | divisionByZero
  /-- A variable whose value is no number. -/
  | notNumber (text : Bytes)
deriving Repr, DecidableEq

/-- The message about a flaw of an expression. -/
def Flaw.message (expression : Bytes) (flaw : Flaw) : Bytes :=
  let about (what : Bytes) : Bytes :=
    bytes "arithmetic expression: " ++ what ++ bytes ": \"" ++ expression ++ bytes "\""
  match flaw with
  | .noOperand => about (bytes "expecting primary")
  | .notClosed => about (bytes "expecting ')'")
  | .noAlternative => about (bytes "expecting ':'")
  | .notEnded => about (bytes "expecting EOF")
  | .divisionByZero => about (bytes "division by zero")
  | .notNumber text => bytes "Illegal number: " ++ text

/-! ## Reading -/

/-- Whether an operator stands at the start of a text, and not a longer one. -/
def isAhead (operator text : Bytes) : Bool :=
  match Bytes.after? text operator with
  | none => false
  | some rest =>
    let isDoubled := (operator == bytes "|" || operator == bytes "&" || operator == bytes "<"
      || operator == bytes ">") && rest.head? == operator.head?
    let isAssignment := rest.head? == some (byte '=')
      && !(operator == bytes "<" || operator == bytes ">" || operator == bytes "==" || operator == bytes "!="
        || operator == bytes "<=" || operator == bytes ">=" || operator == bytes "&&"
        || operator == bytes "||")
    !isDoubled && !isAssignment

/-- Skip blanks. -/
def skip (text : Bytes) : Bytes := text.dropWhile fun b => b == 0x20 || b == 9 || b == 10

/-- Whether a byte can stand in a name. -/
def inName (b : UInt8) : Bool :=
  Bytes.isDigit b || Bytes.isUpper b || Bytes.isLower b || b == byte '_'

/-- The operators that can stand before the equals sign of an assignment. -/
def assigning : List (Bytes × Operator) :=
  [(bytes "<<", .shiftLeft), (bytes ">>", .shiftRight), (bytes "|", .bitOr), (bytes "^", .bitXor),
    (bytes "&", .bitAnd), (bytes "+", .plus), (bytes "-", .minus), (bytes "*", .times),
    (bytes "/", .over), (bytes "%", .remainder)]

/-- The sign of an assignment at the start of a text: the operator in it and what follows. -/
def assignmentSign? (text : Bytes) : Option (Option Operator × Bytes) :=
  match text with
  | 0x3D :: 0x3D :: _ => none
  | 0x3D :: rest => some (none, rest)
  | _ => assigning.findSome? fun (mark, operator) =>
    (Bytes.after? text (mark ++ [0x3D])).map (some operator, ·)

mutual

/-- A whole expression. -/
def expression : Nat → Bytes → Except Flaw (Expression × Bytes)
  | 0, _ => .error .noOperand
  | fuel + 1, text => do
    let text := skip text
    let name := if text.head?.any Bytes.isDigit then [] else text.takeWhile inName
    match if name.isEmpty then none else assignmentSign? (skip (text.drop name.length)) with
    | some (operator, rest) =>
      let (value, rest) ← expression fuel rest
      .ok (.assignment name operator value, rest)
    | none =>
      let (test, rest) ← operation fuel 0 text
      match skip rest with
      | 0x3F :: rest =>
        let (yes, rest) ← expression fuel rest
        match skip rest with
        | 0x3A :: rest =>
          let (no, rest) ← expression fuel rest
          .ok (.choice test yes no, rest)
        | _ => .error .noAlternative
      | rest => .ok (test, rest)

/-- Operands with operators of at least the strength `row` between them. -/
def operation : Nat → Nat → Bytes → Except Flaw (Expression × Bytes)
  | 0, _, _ => .error .noOperand
  | fuel + 1, row, text =>
    match rows[row]? with
    | none => operand fuel text
    | some _ => do
      let (first, rest) ← operation fuel (row + 1) text
      continued fuel row first rest

/-- What follows the first operand, taken from left to right. -/
def continued : Nat → Nat → Expression → Bytes → Except Flaw (Expression × Bytes)
  | 0, _, _, _ => .error .noOperand
  | fuel + 1, row, first, text =>
    let text := skip text
    match (rows.getD row []).find? fun (mark, _) => isAhead mark text with
    | none => .ok (first, text)
    | some (mark, operator) => do
      let (second, rest) ← operation fuel (row + 1) (text.drop mark.length)
      continued fuel row (.operation operator first second) rest

/-- A number, a name, a signed operand or an expression in parentheses. -/
def operand : Nat → Bytes → Except Flaw (Expression × Bytes)
  | 0, _ => .error .noOperand
  | fuel + 1, text => do
    let signed (sign : Sign) (rest : Bytes) : Except Flaw (Expression × Bytes) := do
      let (inner, rest) ← operand fuel rest
      .ok (.signed sign inner, rest)
    match skip text with
    | 0x28 :: rest =>
      let (inner, rest) ← expression fuel rest
      match skip rest with
      | 0x29 :: rest => .ok (inner, rest)
      | _ => .error .notClosed
    | 0x2D :: rest => signed .negative rest
    | 0x2B :: rest => signed .positive rest
    | 0x7E :: rest => signed .complement rest
    | 0x21 :: rest => signed .opposite rest
    | text =>
      match Numeral.integer? text with
      | some (n, rest) => .ok (.number n, rest)
      | none =>
        let name := text.takeWhile inName
        if name.isEmpty then .error .noOperand else .ok (.name name, text.drop name.length)

end

/-- The expression that a text stands for. -/
def read (text : Bytes) : Except Flaw Expression :=
  match expression (30 * (text.length + 2)) text with
  | .error flaw => .error flaw
  | .ok (result, rest) => if (skip rest).isEmpty then .ok result else .error .notEnded

/-! ## Values -/

/-- New values of variables, the latest first. -/
abbrev Changes := List (Bytes × Int)

/-- The value of a variable. -/
def valueOf (value? : Bytes → Option Bytes) (changes : Changes) (name : Bytes) : Except Flaw Int :=
  match changes.lookup name with
  | some n => .ok n
  | none =>
    match value? name with
    | none | some [] => .ok 0
    | some text =>
      match Numeral.integer? text with
      | some (n, rest) => if rest.all Numeral.isSpace then .ok n else .error (.notNumber text)
      | none => .error (.notNumber text)

/-- The value of an expression, and the changes it makes. The right side of `&&` and `||` counts only
when the left side leaves the outcome open. -/
def Expression.evaluate (value? : Bytes → Option Bytes) (changes : Changes) :
    Expression → Except Flaw (Int × Changes)
  | .number n => .ok (n, changes)
  | .name text => do .ok (← valueOf value? changes text, changes)
  | .signed sign operand => do
    let (n, changes) ← operand.evaluate value? changes
    .ok (sign.apply n, changes)
  | .operation operator left right => do
    let (a, changes) ← left.evaluate value? changes
    if (operator == .both && a == 0) || (operator == .either && a != 0) then
      .ok (truth (operator == .either), changes)
    else
      let (b, changes) ← right.evaluate value? changes
      match operator.apply a b with
      | some n => .ok (n, changes)
      | none => .error .divisionByZero
  | .choice test yes no => do
    let (n, changes) ← test.evaluate value? changes
    if n != 0 then yes.evaluate value? changes else no.evaluate value? changes
  | .assignment target operator value => do
    let (b, changes) ← value.evaluate value? changes
    match operator with
    | none => .ok (b, (target, b) :: changes)
    | some operator =>
      let a ← valueOf value? changes target
      match operator.apply a b with
      | some n => .ok (n, (target, n) :: changes)
      | none => .error .divisionByZero

/-- The value of the expression in a text. -/
def evaluate (value? : Bytes → Option Bytes) (text : Bytes) : Except Flaw (Int × Changes) := do
  (← read text).evaluate value? []

end Arithmetic

end Script

end FunctionChain
