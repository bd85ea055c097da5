import FunctionChain.Script.Numeral
import FunctionChain.Script.Pattern

/-!
# Regular expressions

Regular expressions as line editors and searches use them, in both ways of writing them: the basic one, in
which groups, alternatives and some repetitions need a backslash, and the extended one, in which they need
none. An expression is a tree; a match is found by trying the longest repetitions and the first
alternatives first, and what groups have matched is kept.
-/

namespace FunctionChain

namespace Script

/-- A regular expression. -/
inductive Regex where
  | empty
  /-- One byte that is, or is not, in one of some ranges. -/
  | one (negated : Bool) (ranges : List (UInt8 × UInt8))
  | atStart
  | atEnd
  | sequence (first second : Regex)
  | either (first second : Regex)
  /-- Any number of times. -/
  | star (body : Regex)
  /-- A part whose match is kept under a number. -/
  | group (index : Nat) (body : Regex)
  /-- What a group has matched. -/
  | again (index : Nat)
deriving Repr

namespace Regex

/-! ## Symbols -/

/-- A symbol of a written expression. -/
inductive Symbol where
  | plain (b : UInt8)
  | set (negated : Bool) (ranges : List (UInt8 × UInt8))
  | any
  | caret
  | dollar
  | star
  | plus
  | option
  | bar
  | opening
  | closing
  /-- A number of times between two bounds. -/
  | times (least : Nat) (most : Option Nat)
  | again (index : Nat)
deriving Repr, DecidableEq

/-- The symbol of a byte that has a meaning without a backslash in one way of writing, and with one in the
other. -/
def shiftedSymbol? (b : UInt8) : Option Symbol :=
  if b == byte '(' then some .opening
  else if b == byte ')' then some .closing
  else if b == byte '|' then some .bar
  else if b == byte '+' then some .plus
  else if b == byte '?' then some .option
  else none

/-- The bounds between braces, and what follows the closing one. -/
def bounds? (extended : Bool) (text : Bytes) : Option (Symbol × Bytes) :=
  let number (text : Bytes) : Option Nat × Bytes :=
    (Decimal.toNat? (text.takeWhile Bytes.isDigit), text.dropWhile Bytes.isDigit)
  let closed (symbol : Symbol) (rest : Bytes) : Option (Symbol × Bytes) :=
    (Bytes.after? rest (if extended then [0x7D] else [0x5C, 0x7D])).map (symbol, ·)
  let (least, rest) := number text
  match rest with
  | 0x2C :: rest =>
    let (most, rest) := number rest
    closed (.times (least.getD 0) most) rest
  | _ => least.bind fun n => closed (.times n (some n)) rest

/-- The symbols of an expression. `fuel` is more than its length. -/
def symbols (extended : Bool) : Nat → Bytes → Option (List Symbol)
  | 0, _ => none
  | _, [] => some []
  | fuel + 1, b :: rest =>
    let goOn (symbol : Symbol) (rest : Bytes) : Option (List Symbol) :=
      (symbols extended fuel rest).map (symbol :: ·)
    let braces (rest : Bytes) : Option (List Symbol) := do
      let (symbol, rest) ← bounds? extended rest
      goOn symbol rest
    if b == 0x5C then
      match rest with
      | [] => none
      | c :: rest =>
        if !extended && c == 0x7B then braces rest
        else match if extended then none else shiftedSymbol? c with
          | some symbol => goOn symbol rest
          | none =>
            if c == byte 'n' then goOn (.plain 10) rest
            else if c == byte 't' then goOn (.plain 9) rest
            else if Bytes.isDigit c then goOn (.again (c.toNat - 48)) rest
            else goOn (.plain c) rest
    else if b == 0x5B then
      let (negated, inner) := match rest with
        | 0x5E :: inner => (true, inner)
        | _ => (false, rest)
      match ranges inner with
      | some (found, after) => goOn (.set negated found) after
      | none => none
    else if b == byte '.' then goOn .any rest
    else if b == byte '*' then goOn .star rest
    else if b == byte '^' then goOn .caret rest
    else if b == byte '$' then goOn .dollar rest
    else if extended && b == 0x7B then braces rest
    else match if extended then shiftedSymbol? b else none with
      | some symbol => goOn symbol rest
      | none => goOn (.plain b) rest

/-! ## Reading -/

/-- An expression a number of times. -/
def repeated (body : Regex) : Nat → Regex
  | 0 => .empty
  | n + 1 => .sequence body (repeated body n)

/-- An expression at most a number of times. -/
def upTo (body : Regex) : Nat → Regex
  | 0 => .empty
  | n + 1 => .either (.sequence body (upTo body n)) .empty

/-- The repetitions that follow an expression. `fuel` is more than the number of symbols. -/
def withRepetitions : Nat → Regex → List Symbol → Regex × List Symbol
  | 0, body, rest => (body, rest)
  | fuel + 1, body, rest =>
    match rest with
    | .star :: rest => withRepetitions fuel (.star body) rest
    | .plus :: rest => withRepetitions fuel (.sequence body (.star body)) rest
    | .option :: rest => withRepetitions fuel (.either body .empty) rest
    | .times least (some most) :: rest =>
      withRepetitions fuel (.sequence (repeated body least) (upTo body (most - least))) rest
    | .times least none :: rest =>
      withRepetitions fuel (.sequence (repeated body least) (.star body)) rest
    | rest => (body, rest)

/-- What has been read: the expression, the number of the next group and the symbols that are left. -/
abbrev Reading := Regex × Nat × List Symbol

mutual

/-- Alternatives up to the end or the end of the group. -/
def alternatives (extended : Bool) : Nat → Nat → List Symbol → Option Reading
  | 0, _, _ => none
  | fuel + 1, next, text => do
    let (first, next, rest) ← sequenceOf extended fuel true next text
    match rest with
    | .bar :: rest =>
      let (second, next, rest) ← alternatives extended fuel next rest
      some (.either first second, next, rest)
    | rest => some (first, next, rest)

/-- Expressions one after another. The flag tells whether nothing stands before them. -/
def sequenceOf (extended : Bool) : Nat → Bool → Nat → List Symbol → Option Reading
  | 0, _, _, _ => none
  | fuel + 1, isFirst, next, text =>
    let goOn (body : Regex) (next : Nat) (rest : List Symbol) : Option Reading := do
      let (body, rest) := withRepetitions (rest.length + 1) body rest
      let (more, next, rest) ← sequenceOf extended fuel false next rest
      some (.sequence body more, next, rest)
    let plain (b : UInt8) (rest : List Symbol) : Option Reading :=
      goOn (.one false [(b, b)]) next rest
    match text with
    | [] => some (.empty, next, [])
    | .bar :: _ => some (.empty, next, text)
    | .closing :: _ => some (.empty, next, text)
    | .opening :: rest => do
      let (body, after, rest) ← alternatives extended fuel (next + 1) rest
      match rest with
      | .closing :: rest => goOn (.group next body) after rest
      | _ => none
    | .caret :: rest =>
      if extended || isFirst then do
        let (more, next, rest) ← sequenceOf extended fuel true next rest
        some (.sequence .atStart more, next, rest)
      else plain (byte '^') rest
    | .dollar :: rest =>
      let isLast := match rest with
        | [] | .bar :: _ | .closing :: _ => true
        | _ => false
      if extended || isLast then goOn .atEnd next rest else plain (byte '$') rest
    | .star :: rest => if isFirst then plain (byte '*') rest else none
    | .plus :: rest => if isFirst then plain (byte '+') rest else none
    | .option :: rest => if isFirst then plain (byte '?') rest else none
    | .times .. :: _ => none
    | .any :: rest => goOn (.one true []) next rest
    | .set negated ranges :: rest => goOn (.one negated ranges) next rest
    | .again index :: rest => goOn (.again index) next rest
    | .plain b :: rest => plain b rest

end

/-- The expression that a text stands for. -/
def read (extended : Bool) (text : Bytes) : Option Regex := do
  let symbols ← symbols extended (text.length + 1) text
  let (found, _, rest) ← alternatives extended (4 * symbols.length + 8) 1 symbols
  if rest.isEmpty then some found else none

/-- The expression that matches one text only. -/
def exactly (text : Bytes) : Regex :=
  text.foldr (fun b rest => .sequence (.one false [(b, b)]) rest) .empty

/-! ## Matching -/

/-- What groups have matched, the latest first. -/
abbrev Captures := List (Nat × Bytes)

/-- What is tried on the rest of a line once a part has matched. -/
abbrev Continuation := Bytes → Captures → Option (Bytes × Captures)

/-- Match something as often as possible, as long as it takes something off the text. `fuel` is more than
the length of the text. -/
def repeating (body : Bytes → Captures → Continuation → Option (Bytes × Captures)) :
    Nat → Bytes → Captures → Continuation → Option (Bytes × Captures)
  | 0, text, captures, next => next text captures
  | fuel + 1, text, captures, next =>
    (body text captures fun rest captures =>
      if rest.length < text.length then repeating body fuel rest captures next else none)
    <|> next text captures

/-- Whether a byte is in one of some ranges, in either case of letters if `folds`. -/
def inEither (folds : Bool) (found : List (UInt8 × UInt8)) (b : UInt8) : Bool :=
  inRanges found b || (folds && (inRanges found (Bytes.lowerByte b) || inRanges found (Bytes.upperByte b)))

/-- Match at the start of the rest of a line, and go on with `next` on what is left. `whole` is the length
of the line. -/
def matchHere (folds : Bool) (whole : Nat) : Regex → Bytes → Captures → Continuation →
    Option (Bytes × Captures)
  | .empty, text, captures, next => next text captures
  | .one negated found, text, captures, next =>
    match text with
    | [] => none
    | b :: rest => if inEither folds found b != negated then next rest captures else none
  | .atStart, text, captures, next => if text.length == whole then next text captures else none
  | .atEnd, text, captures, next => if text.isEmpty then next text captures else none
  | .sequence first second, text, captures, next =>
    matchHere folds whole first text captures fun rest captures =>
      matchHere folds whole second rest captures next
  | .either first second, text, captures, next =>
    matchHere folds whole first text captures next <|> matchHere folds whole second text captures next
  | .star body, text, captures, next =>
    repeating (fun text captures next => matchHere folds whole body text captures next)
      (text.length + 1) text captures next
  | .group index body, text, captures, next =>
    matchHere folds whole body text captures fun rest captures =>
      next rest ((index, text.take (text.length - rest.length)) :: captures)
  | .again index, text, captures, next =>
    match Bytes.after? text ((captures.lookup index).getD []) with
    | some rest => next rest captures
    | none => none

/-- A match in a line: what stands before it, what it is, what follows and the groups. -/
structure Match where
  before : Bytes
  found : Bytes
  rest : Bytes
  captures : Captures

/-- The first match in the rest of a line. `before` is what has been passed over, the latest byte first. -/
def searchFrom (folds : Bool) (whole : Nat) (regex : Regex) (before : Bytes) : Bytes → Option Match
  | [] => (matchHere folds whole regex [] [] fun rest captures => some (rest, captures)).map
      fun (rest, captures) => ⟨before.reverse, [], rest, captures⟩
  | b :: text =>
    match matchHere folds whole regex (b :: text) [] fun rest captures => some (rest, captures) with
    | some (rest, captures) =>
      some ⟨before.reverse, (b :: text).take (text.length + 1 - rest.length), rest, captures⟩
    | none => searchFrom folds whole regex (b :: before) text

/-- The first match in a line. -/
def search (folds : Bool) (regex : Regex) (line : Bytes) : Option Match :=
  searchFrom folds line.length regex [] line

end Regex

end Script

end FunctionChain
