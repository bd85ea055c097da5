import FunctionChain.Script.Numeral
import FunctionChain.Script.State

/-!
# Conditions

What the test command takes: words that compare texts or numbers or ask about files, joined by `-a`, `-o`,
`!` and parentheses. Reading goes from left to right with one word of look-ahead. Every reader gets the
words from the one at hand on, and gives them back from the last one that it used on.
-/

namespace FunctionChain

namespace Script

namespace Condition

/-- What a word means in its place. -/
inductive Token where
  | nothing
  | operand
  | not
  | opening
  | closing
  | both
  | either
  | unary (letter : UInt8)
  | binary (operator : Bytes)
deriving Repr, DecidableEq

/-- The letters of tests of one value. -/
def unaryLetters : Bytes := bytes "rwxefdcbpugkstznhOGLS"

/-- The comparisons of two values. -/
def comparisons : List Bytes :=
  [bytes "=", bytes "!=", bytes "<", bytes ">", bytes "-eq", bytes "-ne", bytes "-lt", bytes "-le",
    bytes "-gt", bytes "-ge", bytes "-nt", bytes "-ot", bytes "-ef"]

/-- What a word can mean. -/
def tokenOf (word : Bytes) : Token :=
  if comparisons.contains word then .binary word
  else if word == bytes "!" then .not
  else if word == bytes "(" then .opening
  else if word == bytes ")" then .closing
  else if word == bytes "-a" then .both
  else if word == bytes "-o" then .either
  else match word with
    | [0x2D, letter] => if unaryLetters.contains letter then .unary letter else .operand
    | _ => .operand

/-- Whether a word is a comparison. -/
def isComparison (word : Bytes) : Bool := comparisons.contains word

/-- What the first of some words means, given those after it. The letter of a test is a plain value when
nothing follows, or when a comparison with something after it follows. -/
def ahead : List Bytes → Token
  | [] => .nothing
  | word :: rest =>
    match tokenOf word, rest with
    | .unary _, [] => .operand
    | .unary letter, [_] => .unary letter
    | .unary letter, next :: _ => if isComparison next then .operand else .unary letter
    | .opening, [] => .operand
    | token, _ => token

/-- Whether something of a kind is at a path. -/
def pathIs (state : State) (isFine : Files.Node → Bool) (path : Bytes) : Bool :=
  match state.tree.stat path with
  | .ok node => isFine node
  | .error _ => false

/-- The outcome of a test of one value. -/
def unary (state : State) (letter : UInt8) (value : Bytes) : Bool :=
  if letter == byte 'z' then value.isEmpty
  else if letter == byte 'n' then !value.isEmpty
  else if value == State.nowherePath then letter == byte 'e' || letter == byte 'r'
    || letter == byte 'w' || letter == byte 'c'
  else if letter == byte 'h' || letter == byte 'L' then (state.tree.linkAt? value).isSome
  else if letter == byte 'e' || letter == byte 'r' || letter == byte 'w' || letter == byte 'O'
    || letter == byte 'G' then pathIs state (fun _ => true) value
  else if letter == byte 'f' then pathIs state (!·.isDirectory) value
  else if letter == byte 'd' then pathIs state (·.isDirectory) value
  else if letter == byte 'x' then pathIs state (fun node => node.isDirectory || node.isProgram) value
  else if letter == byte 's' then
    pathIs state (fun
      | .file _ content => !content.isEmpty
      | .directory _ => true) value
  else false

/-- The outcome of a comparison, or a complaint. -/
def binary (state : State) (left operator right : Bytes) : Except Bytes Bool := do
  let number (text : Bytes) : Except Bytes Int :=
    match Numeral.decimal? text with
    | some n => .ok n
    | none => .error (bytes "Illegal number: " ++ text)
  let numbers (holds : Int → Int → Bool) : Except Bytes Bool := do
    .ok (holds (← number left) (← number right))
  if operator == bytes "=" then .ok (left == right)
  else if operator == bytes "!=" then .ok (left != right)
  else if operator == bytes "<" then .ok (Bytes.before left right)
  else if operator == bytes ">" then .ok (Bytes.before right left)
  else if operator == bytes "-eq" then numbers (· == ·)
  else if operator == bytes "-ne" then numbers (· != ·)
  else if operator == bytes "-lt" then numbers (· < ·)
  else if operator == bytes "-le" then numbers (· ≤ ·)
  else if operator == bytes "-gt" then numbers (· > ·)
  else if operator == bytes "-ge" then numbers (· ≥ ·)
  else if operator == bytes "-ef" then
    match state.tree.locate left, state.tree.locate right with
    | .ok one, .ok other => .ok (one == other && state.tree.isThere left)
    | _, _ => .ok false
  else .ok false

/-- A complaint about a word. -/
def about (word message : Bytes) : Bytes := if word.isEmpty then message else word ++ bytes ": " ++ message

mutual

/-- Conditions of which one has to hold. -/
def anyOf (state : State) : Nat → Token → List Bytes → Except Bytes (Bool × List Bytes)
  | 0, _, words => .ok (false, words)
  | fuel + 1, token, words => do
    let (first, words) ← allOf state fuel token words
    if ahead (words.drop 1) == .either then
      let (second, words) ← anyOf state fuel (ahead (words.drop 2)) (words.drop 2)
      .ok (first || second, words)
    else .ok (first, words)

/-- Conditions that all have to hold. -/
def allOf (state : State) : Nat → Token → List Bytes → Except Bytes (Bool × List Bytes)
  | 0, _, words => .ok (false, words)
  | fuel + 1, token, words => do
    let (first, words) ← opposite state fuel token words
    if ahead (words.drop 1) == .both then
      let (second, words) ← allOf state fuel (ahead (words.drop 2)) (words.drop 2)
      .ok (first && second, words)
    else .ok (first, words)

/-- A condition, perhaps turned round. -/
def opposite (state : State) : Nat → Token → List Bytes → Except Bytes (Bool × List Bytes)
  | 0, _, words => .ok (false, words)
  | fuel + 1, token, words => do
    if token == .not then
      let rest := words.drop 1
      let (holds, words) ← opposite state fuel (ahead rest) (if rest.isEmpty then words else rest)
      .ok (!holds, words)
    else primary state fuel token words

/-- A single condition. -/
def primary (state : State) : Nat → Token → List Bytes → Except Bytes (Bool × List Bytes)
  | 0, _, words => .ok (false, words)
  | fuel + 1, token, words => do
    match token, words with
    | .nothing, words => .ok (false, words)
    | _, [] => .ok (false, [])
    | .opening, _ :: rest =>
      if ahead rest == .closing then .ok (false, rest)
      else
        let (holds, words) ← anyOf state fuel (ahead rest) rest
        if ahead (words.drop 1) == .closing then .ok (holds, words.drop 1)
        else .error (bytes "closing paren expected")
    | .unary letter, word :: rest =>
      match rest with
      | [] => .error (about word (bytes "argument expected"))
      | value :: _ => .ok (unary state letter value, rest)
    | _, word :: rest =>
      match ahead rest, rest with
      | .binary operator, _ :: right :: after => do
        .ok (← binary state word operator right, right :: after)
      | .binary operator, _ => .error (about operator (bytes "argument expected"))
      | _, _ => .ok (!word.isEmpty, words)

end

/-- Whether the words hold together, read from the first on. -/
def whole (state : State) (token : Token) (words : List Bytes) : Except Bytes Bool := do
  let (holds, left) ← anyOf state (8 * words.length + 8) token words
  match left with
  | word :: _ :: _ => .error (about word (bytes "unexpected operator"))
  | _ => .ok holds

/-- Whether some words hold as a condition, or a complaint. Three words with a comparison in the middle are
a comparison whatever they are; a `!` before two or three words turns them round. -/
def holds (state : State) : List Bytes → Except Bytes Bool
  | [] => .ok false
  | [a, b, c] =>
    if isComparison b then whole state .operand [a, b, c]
    else if a == bytes "(" && c == bytes ")" then whole state (ahead [b]) [b]
    else if a == bytes "!" then do .ok !(← holds state [b, c])
    else whole state (ahead [a, b, c]) [a, b, c]
  | [a, b, c, d] =>
    if a == bytes "(" && d == bytes ")" then whole state (ahead [b, c]) [b, c]
    else if a == bytes "!" then do .ok !(← holds state [b, c, d])
    else whole state (ahead [a, b, c, d]) [a, b, c, d]
  | words => whole state (ahead words) words

end Condition

end Script

end FunctionChain
