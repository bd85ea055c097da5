import FunctionChain.Settings.Toml.Token

/-!
# Cutting TOML into tokens

The lexer goes through the text in one of a few modes: between assignments, in a value, and in the name
of a table. In each mode the next character decides what is read, and what was read decides the mode that
follows. Brackets of lists are counted, because a line end ends a value only outside of them.

A token starts where the one before it ended, or where blanks were passed over. Every step reads at least
one character or ends the text, so that the length of the text bounds the steps.
-/

namespace FunctionChain

namespace Settings

namespace Toml

/-- What the lexer is in. -/
inductive Mode where
  /-- Between assignments. -/
  | between
  | value
  /-- The name of a table. -/
  | table
  /-- The name of a list of tables. -/
  | tables
deriving Repr, DecidableEq

/-- A text that is being cut. -/
structure Lexer where
  rest : List Nat
  /-- What was read since the last token, in reverse. -/
  current : List Nat
  /-- Where the next token starts. -/
  start : Place
  /-- Where the rest starts. -/
  here : Place
  /-- How many lists are open. Closing more than were opened makes it negative. -/
  depth : Int
  /-- The tokens so far, in reverse. -/
  tokens : List Token

namespace Lexer

/-- The lexer at the start of a text. -/
def ofText (text : List Nat) : Lexer := ⟨text, [], ⟨1, 1⟩, ⟨1, 1⟩, 0, []⟩

/-- Read a character. At the end only the place moves on. -/
def next (lexer : Lexer) : Lexer :=
  match lexer.rest with
  | [] => { lexer with here := ⟨lexer.here.line, lexer.here.column + 1⟩ }
  | c :: rest =>
    let here : Place :=
      if c == 10 then ⟨lexer.here.line + 1, 1⟩ else ⟨lexer.here.line, lexer.here.column + 1⟩
    { lexer with rest := rest, current := c :: lexer.current, here := here }

/-- Read several characters. -/
def advance : Nat → Lexer → Lexer
  | 0, lexer => lexer
  | n + 1, lexer => advance n lexer.next

/-- Forget what was read since the last token. -/
def drop (lexer : Lexer) : Lexer := { lexer with current := [], start := lexer.here }

/-- Read characters and forget them. -/
def skip (n : Nat) (lexer : Lexer) : Lexer := (lexer.advance n).drop

/-- End a token of the given text. -/
def emitAs (kind : TokenKind) (text : Bytes) (lexer : Lexer) : Lexer :=
  { lexer with tokens := ⟨lexer.start, kind, text⟩ :: lexer.tokens }.drop

/-- End a token of what was read. -/
def emit (kind : TokenKind) (lexer : Lexer) : Lexer :=
  lexer.emitAs kind (spelled lexer.current.reverse)

/-- End with a token that says why. -/
def fail (message : Bytes) (lexer : Lexer) : Lexer × Option Mode :=
  ({ lexer with tokens := ⟨lexer.start, .fault, message⟩ :: lexer.tokens }, none)

/-- Whether a text follows. -/
def follows (lexer : Lexer) (text : String) : Bool := (codes text).isPrefixOf lexer.rest

/-- Read characters as long as they are of a class. -/
def takeWhile (isOne : Nat → Bool) (lexer : Lexer) : Lexer :=
  lexer.advance (lexer.rest.takeWhile isOne).length

/-! ## Texts in quotes -/

/-- A message about an escape is itself a pattern in which a percent sign stands for something that is
missing. -/
def escapeMessage (c : Nat) : Bytes :=
  bytes "invalid escape sequence: \\" ++ Utf8.encode c
    ++ (if c == code '%' then bytes "!(NOVERB)" else [])

/-- The character of a short escape. -/
def escape? (c : Nat) : Option Nat :=
  [(code '"', code '"'), (code 'n', 10), (code 'b', 8), (code 'f', 12), (code '/', code '/'),
    (code 't', 9), (code 'r', 13), (0x5C, 0x5C)].lookup c

/-- The number of digits of a numbered escape. -/
def escapeSize? (c : Nat) : Option Nat := [(code 'u', 4), (code 'U', 8)].lookup c

/-- Read a numbered escape after its letter. -/
def numbered (letter size : Nat) (lexer : Lexer) : Except Bytes (Bytes × Lexer) :=
  let digits := lexer.rest.take size
  if digits.length < size || !digits.all (fun c => Letter.isNumeral c || isHexDigit c) then
    .error (bytes "unfinished unicode escape")
  else match hexValue? digits with
    | some n => .ok (Utf8.encode n, lexer.advance size)
    | none => .error (bytes "invalid unicode escape: \\" ++ spelled (letter :: digits))

/-- The message about a character that has to be escaped. -/
def controlMessage (c : Nat) : Bytes :=
  bytes "unescaped control character U+" ++ Bytes.upper (Hex.padded c 4)

/-- Whether a character may stand unescaped in a text. -/
def isPlain (hasLines : Bool) (c : Nat) : Bool :=
  c > 0x1F || (hasLines && (c == 10 || c == 13))

/-- Read a text with escapes up to its end mark. `done` is what was read, in reverse. -/
def basic (ending : String) (hasLines : Bool) :
    Nat → Bytes → Lexer → Except Bytes (Bytes × Lexer)
  | 0, _, _ => .error (bytes "unclosed string")
  | fuel + 1, done, lexer =>
    let goOn (done : Bytes) (lexer : Lexer) : Except Bytes (Bytes × Lexer) :=
      if lexer.rest.isEmpty then .error (bytes "unclosed string")
      else basic ending hasLines fuel done lexer
    if lexer.follows ending then .ok (done.reverse, lexer)
    else match lexer.rest with
      | [] => .error (bytes "unclosed string")
      | c :: rest =>
        if c != 0x5C then
          if isPlain hasLines c then goOn ((Utf8.encode c).reverse ++ done) lexer.next
          else .error (controlMessage c)
        else
          let lexer := lexer.next
          match rest with
          | [] => .error (escapeMessage Utf8.replacement)
          | e :: _ =>
            if isGap e || e == 10 || e == 13 then
              goOn done (lexer.takeWhile fun c => isGap c || c == 10 || c == 13)
            else match escape? e with
              | some c => goOn ((Utf8.encode c).reverse ++ done) lexer.next
              | none =>
                match escapeSize? e with
                | some size =>
                  match numbered e size lexer.next with
                  | .ok (spelling, lexer) => goOn (spelling.reverse ++ done) lexer
                  | .error message => .error message
                | none => .error (escapeMessage e)

/-- Read a text without escapes up to its end mark. -/
def literal (ending : String) : Nat → Bytes → Lexer → Except Bytes (Bytes × Lexer)
  | 0, _, _ => .error (bytes "unclosed string")
  | fuel + 1, done, lexer =>
    if lexer.follows ending then .ok (done.reverse, lexer)
    else match lexer.rest with
      | [] => .error (bytes "unclosed string")
      | c :: _ => literal ending fuel ((Utf8.encode c).reverse ++ done) lexer.next

/-- Pass over the line end that a long text may start with. -/
def dropLineEnd (lexer : Lexer) : Lexer :=
  if lexer.follows "\r\n" then lexer.skip 2
  else if lexer.follows "\n" then lexer.skip 1
  else lexer

/-- End a text that was read up to its end mark, and pass over that. -/
def closeText (ending : String) (text : Bytes) (lexer : Lexer) : Lexer :=
  (lexer.emitAs .text text).skip ending.length

/-- Read a text with escapes. -/
def basicText (lexer : Lexer) : Lexer × Option Mode :=
  let lexer := lexer.skip 1
  let isLong := lexer.follows "\"\""
  let lexer := if isLong then (lexer.skip 2).dropLineEnd else lexer
  let ending := if isLong then "\"\"\"" else "\""
  match basic ending isLong (lexer.rest.length + 1) [] lexer with
  | .error message => lexer.fail message
  | .ok (text, lexer) => (lexer.closeText ending text, some .value)

/-- Read a text without escapes. -/
def literalText (lexer : Lexer) : Lexer × Option Mode :=
  let lexer := lexer.skip 1
  let isLong := lexer.follows "\'\'"
  let lexer := if isLong then (lexer.skip 2).dropLineEnd else lexer
  let ending := if isLong then "\'\'\'" else "\'"
  match literal ending (lexer.rest.length + 1) [] lexer with
  | .error message => lexer.fail message
  | .ok (text, lexer) => (lexer.closeText ending text, some .value)

/-! ## Names -/

/-- Read a name: bare characters and texts in quotes, one after the other. -/
def name : Nat → Bytes → Lexer → Lexer × Option Mode
  | 0, done, lexer => (lexer.emitAs .key done.reverse, some .between)
  | fuel + 1, done, lexer =>
    let close := (lexer.emitAs .key done.reverse, some .between)
    let quoted (read : Except Bytes (Bytes × Lexer)) : Lexer × Option Mode :=
      match read with
      | .error message => lexer.fail message
      | .ok (text, lexer) => name fuel (text.reverse ++ done) lexer.next
    match lexer.rest with
    | [] => close
    | c :: _ =>
      if c == code '=' then close
      else if c == 0x22 then quoted (basic "\"" true (lexer.rest.length + 1) [] lexer.next)
      else if c == 0x27 then quoted (literal "\'" (lexer.rest.length + 1) [] lexer.next)
      else if c == 10 then lexer.fail (bytes "keys cannot contain new lines")
      else if isGap c then close
      else if !isBare c then
        lexer.fail (bytes "keys cannot contain " ++ Utf8.encode c ++ bytes " character")
      else name fuel ((Utf8.encode c).reverse ++ done) lexer.next

/-- Read a name from its start on. -/
def key (lexer : Lexer) : Lexer × Option Mode := name (lexer.rest.length + 1) [] lexer

/-- Pass over a comment. -/
def comment (mode : Mode) : Nat → Lexer → Lexer × Option Mode
  | 0, lexer => (lexer.drop, some mode)
  | fuel + 1, lexer =>
    match lexer.rest with
    | [] => (lexer.drop, some mode)
    | c :: _ =>
      if c == 10 || lexer.follows "\r\n" then (lexer.drop, some mode)
      else comment mode fuel lexer.next

/-! ## Numbers -/

/-- What follows `digits` decimal digits. -/
def afterDigits? (digits : Nat) (text : List Nat) : Option (List Nat) :=
  if (text.take digits).length == digits && (text.take digits).all isDigit then
    some (text.drop digits)
  else none

/-- What follows a character. -/
def afterCode? (c : Char) : List Nat → Option (List Nat)
  | d :: rest => if d == c.toNat then some rest else none
  | [] => none

/-- What follows a fraction of a second of up to nine digits, if there is one. -/
def afterFraction (text : List Nat) : List Nat :=
  match afterCode? '.' text with
  | none => text
  | some rest =>
    let digits := (rest.takeWhile isDigit).length
    if 1 ≤ digits && digits ≤ 9 then rest.drop digits else text

/-- What follows a zone: `Z`, or a sign and hours and minutes. -/
def afterZone? (text : List Nat) : Option (List Nat) :=
  match text with
  | c :: rest =>
    if c == code 'Z' then some rest
    else if c == code '+' || c == code '-' then do
      let rest ← afterDigits? 2 rest
      let rest ← afterCode? ':' rest
      afterDigits? 2 rest
    else none
  | [] => none

/-- The length of the date with a time and a zone that a text starts with. -/
def momentLength? (text : List Nat) : Option Nat := do
  let years := (text.takeWhile isDigit).length
  if years < 1 || years > 4 then none
  let rest ← afterCode? '-' (text.drop years)
  let rest ← afterDigits? 2 rest
  let rest ← afterCode? '-' rest
  let rest ← afterDigits? 2 rest
  let rest ← afterCode? 'T' rest
  let rest ← afterDigits? 2 rest
  let rest ← afterCode? ':' rest
  let rest ← afterDigits? 2 rest
  let rest ← afterCode? ':' rest
  let rest ← afterDigits? 2 rest
  let rest ← afterZone? (afterFraction rest)
  some (text.length - rest.length)

/-- The digits of a number that is marked with its base. -/
def baseDigits? (mark : Nat) : Option (Nat → Bool) :=
  if mark == code 'x' then some isHexDigit
  else if mark == code 'o' then some fun c => code '0' ≤ c && c ≤ code '7'
  else if mark == code 'b' then some fun c => c == code '0' || c == code '1'
  else none

/-- What was seen of a number. -/
structure Seen where
  point : Bool
  exponent : Bool
  digit : Bool

/-- Read a decimal number. -/
def decimal : Nat → Seen → Lexer → Lexer × Option Mode
  | 0, _, lexer => (lexer, none)
  | fuel + 1, seen, lexer =>
    let finish : Lexer × Option Mode :=
      if !seen.digit then lexer.fail (bytes "no digit in that number")
      else (lexer.emit (if seen.point || seen.exponent then .float else .integer), some .value)
    let goOn (seen : Seen) (lexer : Lexer) : Lexer × Option Mode :=
      if seen.point && !seen.digit then lexer.fail (bytes "cannot start float with a dot")
      else decimal fuel seen lexer
    match lexer.rest with
    | [] => finish
    | c :: _ =>
      if c == code '.' then
        if seen.point then lexer.fail (bytes "cannot have two dots in one float")
        else
          let lexer := lexer.next
          if !(lexer.rest.head?.any Letter.isNumeral) then
            lexer.fail (bytes "float cannot end with a dot")
          else goOn { seen with point := true } lexer
      else if c == code 'e' || c == code 'E' then
        let lexer := lexer.next
        let isSigned := lexer.rest.head?.any fun c => c == code '+' || c == code '-'
        goOn { seen with exponent := true } (if isSigned then lexer.next else lexer)
      else if Letter.isNumeral c then goOn { seen with digit := true } lexer.next
      else if c == code '_' then goOn seen lexer.next
      else finish

/-- Read an infinity or something that is not a number, after its sign. -/
def special (kind : TokenKind) (lexer : Lexer) : Lexer × Option Mode :=
  ((lexer.advance 3).emit kind, some .value)

/-- Read a number with or without a sign, in decimal digits. -/
def signed (lexer : Lexer) : Lexer × Option Mode :=
  let digits (lexer : Lexer) : Lexer × Option Mode :=
    decimal (lexer.rest.length + 1) ⟨false, false, false⟩ lexer
  if lexer.rest.head?.any fun c => c == code '+' || c == code '-' then
    let lexer := lexer.next
    if lexer.follows "inf" then lexer.special .infinity
    else if lexer.follows "nan" then lexer.special .notANumber
    else digits lexer
  else digits lexer

/-- Read a number. -/
def number (lexer : Lexer) : Lexer × Option Mode :=
  match lexer.rest with
  | first :: mark :: _ =>
    if first != code '0' then lexer.signed
    else match baseDigits? mark with
      | some isOne =>
        let marked := lexer.advance 2
        let whole := marked.takeWhile fun c => isOne c || c == code '_'
        if whole.rest.length == marked.rest.length then
          whole.fail (bytes "number needs at least one digit")
        else (whole.emit .integer, some .value)
      | none =>
        if mark < 0x80 && Letter.isLetter mark then
          lexer.fail (bytes "unknown number base: " ++ Utf8.encode mark
            ++ bytes ". possible options are x (hex) o (octal) b (binary)")
        else lexer.signed
  | _ => lexer.signed

/-! ## Modes -/

/-- One step between assignments. -/
def stepBetween (lexer : Lexer) : Lexer × Option Mode :=
  match lexer.rest with
  | [] =>
    if lexer.depth > 0 then (lexer, some .value) else (lexer.next.emit .finish, none)
  | c :: _ =>
    if c == 0x5B then
      let lexer := lexer.next
      if lexer.follows "[" then (lexer.next.emit .doubleOpening, some .tables)
      else (lexer.emit .opening, some .table)
    else if c == code '#' then comment .between (lexer.rest.length + 1) lexer
    else if c == code '=' then (lexer.next.emit .equals, some .value)
    else if c == 10 || c == 13 then (lexer.skip 1, some .between)
    else if isGap c then
      (lexer.skip 1, some (if lexer.depth > 0 then .value else .between))
    else if lexer.depth > 0 then (lexer, some .value)
    else lexer.key

/-- The token of a single character in a value, and how it changes the depth. -/
def markOf? (c : Nat) : Option (TokenKind × Int) :=
  [(code '=', (.equals, 0)), (0x5B, (.opening, 1)), (0x5D, (.closing, -1)), (0x7B, (.openingBrace, 0)),
    (0x7D, (.closingBrace, 0)), (code ',', (.comma, 0))].lookup c

/-- One step in a value, at something that is no mark. -/
def stepWord (c : Nat) (lexer : Lexer) : Lexer × Option Mode :=
  if lexer.follows "true" then ((lexer.advance 4).emit .yes, some .value)
  else if lexer.follows "false" then ((lexer.advance 5).emit .no, some .value)
  else if lexer.follows "inf" then lexer.special .infinity
  else if lexer.follows "nan" then lexer.special .notANumber
  else if isGap c then (lexer.skip 1, some .value)
  else match momentLength? lexer.rest with
    | some length => ((lexer.advance length).emit .moment, some .value)
    | none =>
      if c == code '+' || c == code '-' || Letter.isNumeral c then lexer.number
      else if isWordStart c then lexer.key
      else lexer.fail (bytes "no value can start with " ++ Utf8.encode c)

/-- One step in a value. -/
def stepValue (lexer : Lexer) : Lexer × Option Mode :=
  match lexer.rest with
  | [] => (lexer.next.emit .finish, none)
  | c :: _ =>
    match markOf? c with
    | some (kind, change) =>
      (({ lexer with depth := lexer.depth + change }).next.emit kind, some .value)
    | none =>
      if c == code '.' then lexer.fail (bytes "cannot start float with a dot")
      else if c == code '#' then comment .value (lexer.rest.length + 1) lexer
      else if c == 0x22 then lexer.basicText
      else if c == 0x27 then lexer.literalText
      else if c == 10 || c == 13 then
        (lexer.skip 1, some (if lexer.depth == 0 then .between else .value))
      else if c == code '_' then lexer.fail (bytes "cannot start number with underscore")
      else lexer.stepWord c

/-- End a token of what was read, if anything was. -/
def emitSome (kind : TokenKind) (lexer : Lexer) : Lexer :=
  if lexer.current.isEmpty then lexer else lexer.emit kind

/-- One step in the name of a table. -/
def stepTable (lexer : Lexer) : Lexer × Option Mode :=
  match lexer.rest with
  | [] => lexer.fail (bytes "unclosed table key")
  | c :: _ =>
    if c == 0x5D then (((lexer.emitSome .tableName).next).emit .closing, some .between)
    else if c == 0x5B then lexer.fail (bytes "table key cannot contain ']'")
    else (lexer.next, some .table)

/-- One step in the name of a list of tables. A single closing bracket is passed over. -/
def stepTables (lexer : Lexer) : Lexer × Option Mode :=
  match lexer.rest with
  | [] => lexer.fail (bytes "unclosed table array key")
  | c :: _ =>
    if c == 0x5D then
      let lexer := (lexer.emitSome .tablesName).next
      if lexer.follows "]" then (lexer.next.emit .doubleClosing, some .between)
      else (lexer, some .tables)
    else if c == 0x5B then lexer.fail (bytes "table array key cannot contain ']'")
    else (lexer.next, some .tables)

/-- One step in a mode, and the mode after it if there is one. -/
def step (lexer : Lexer) : Mode → Lexer × Option Mode
  | .between => lexer.stepBetween
  | .value => lexer.stepValue
  | .table => lexer.stepTable
  | .tables => lexer.stepTables

/-- Go on in a mode to the end of the text. -/
def run : Nat → Mode → Lexer → Lexer
  | 0, _, lexer => lexer
  | fuel + 1, mode, lexer =>
    match lexer.step mode with
    | (lexer, some mode) => run fuel mode lexer
    | (lexer, none) => lexer

end Lexer

/-- The tokens of a text. What is no character counts as the replacement. -/
def tokens (text : Bytes) : List Token :=
  let characters := (Utf8.pieces text).map Utf8.Piece.code
  ((Lexer.ofText characters).run (2 * characters.length + 4) .between).tokens.reverse

end Toml

end Settings

end FunctionChain
