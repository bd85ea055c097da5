import FunctionChain.Settings.Hcl.Token

/-!
# Cutting HCL into tokens

A reader passes over the characters of a text one by one, and may put the last one back. What is wrong with
the characters does not stop it: the last fault is remembered, and reading goes on.

The end of the text is met as a character of its own, and so is a null character.
-/

namespace FunctionChain

namespace Settings

namespace Hcl

/-- The character that stands for a byte that is part of none. -/
def strayCode : Nat := 0x110000

/-- The character that the end of the text is met as. -/
def finishCode : Nat := 0

/-- A reader of characters. -/
structure Reader where
  /-- Whether the text is in the native form. -/
  isNative : Bool
  rest : List Nat
  /-- The place of the last character. Its column is zero after the end of a line. -/
  place : Place
  /-- The number of characters of the last line. -/
  lineLength : Nat
  /-- The number of characters that were read. -/
  count : Nat
  /-- The text and the place before the last character. -/
  before : List Nat × Place × Nat
  /-- The last fault. -/
  fault : Option (Place × Bytes)

/-- The reader of a text. -/
def Reader.ofText (isNative : Bool) (text : Bytes) : Reader :=
  let characters := (Utf8.pieces text).map fun
    | .char code _ => code
    | .stray _ => strayCode
  ⟨isNative, characters, ⟨1, 0⟩, 0, 0, (characters, ⟨1, 0⟩, 0), none⟩

namespace Reader

/-- The place of the character that was read last. -/
def recent (reader : Reader) : Place :=
  if reader.place.column > 0 then reader.place
  else if reader.lineLength > 0 then ⟨reader.place.line - 1, reader.lineLength⟩
  else ⟨1, 1⟩

/-- Remember a fault at the last character. -/
def blame (reader : Reader) (message : Bytes) : Reader :=
  { reader with fault := some (reader.recent, message) }

/-- Read a character. -/
def next (reader : Reader) : Nat × Reader :=
  match reader.rest with
  | [] =>
    (finishCode, { reader with
      place := { reader.place with column := reader.place.column + 1 }
      before := ([], reader.before.2) })
  | c :: rest =>
    let column := reader.place.column + 1
    let moved : Reader := { reader with
      rest := rest
      place := { reader.place with column := column }
      count := reader.count + 1
      before := (reader.rest, reader.place, reader.count) }
    if c == strayCode then (Utf8.replacement, moved.blame (bytes "illegal UTF-8 encoding"))
    else if c == code '\n' then
      (c, { moved with place := ⟨reader.place.line + 1, 0⟩, lineLength := column })
    else if reader.isNative && c == 0 then
      (finishCode, moved.blame (bytes "unexpected null character (0x00)"))
    else if reader.isNative && c == 0xE123 then
      (Utf8.replacement, moved.blame (bytes "unicode code point U+E123 reserved for internal use"))
    else (c, moved)

/-- Put the last character back. -/
def unread (reader : Reader) : Reader :=
  let (rest, place, count) := reader.before
  { reader with rest := rest, place := place, count := count }

/-- Put the last character back, if it is not the end. -/
def unreadUnless (reader : Reader) (c : Nat) : Reader :=
  if c == finishCode then reader else reader.unread

/-- The next character, which is not read. -/
def peek (reader : Reader) : Nat := reader.rest.head?.getD finishCode

/-- Read characters of a kind, from the one that was read last on: the first other one, and whether there
were any. -/
def skip (isKind : Nat → Bool) : Nat → Nat → Reader → Nat × Reader
  | fuel + 1, c, reader =>
    if isKind c then
      let (c, reader) := reader.next
      skip isKind fuel c reader
    else (c, reader)
  | 0, c, reader => (c, reader)

/-- Read characters of a kind for as long as there are any. -/
def skipAll (isKind : Nat → Bool) (c : Nat) (reader : Reader) : Nat × Reader :=
  skip isKind (reader.rest.length + 1) c reader

end Reader

/-- Whether a character is a letter of a name. -/
def isNameStart (c : Nat) : Bool :=
  (code 'a' ≤ c && c ≤ code 'z') || (code 'A' ≤ c && c ≤ code 'Z') || c == code '_'
    || (0x80 ≤ c && Letter.isLetter c)

/-- Whether a character is a letter or a digit of a name. -/
def isWordCharacter (c : Nat) : Bool :=
  isNameStart c || Letter.isDecimal c

/-- Whether a character is white space. -/
def isBlank (c : Nat) : Bool := (codes " \t\n\r").contains c

namespace Reader

/-! ## Numbers -/

/-- Read digits, from a character on. The first character behind them is put back. -/
def mantissa (c : Nat) (reader : Reader) : Nat × Reader :=
  if isDigit c then
    let (c, reader) := reader.skipAll isDigit c
    (c, reader.unreadUnless c)
  else (c, reader)

/-- Whether a character begins an exponent. -/
def isExponent (c : Nat) : Bool := c == code 'e' || c == code 'E'

/-- Read the sign and the digits of an exponent. -/
def exponent (c : Nat) (reader : Reader) : Reader :=
  if !isExponent c then reader
  else
    let (c, reader) := reader.next
    let (c, reader) := if c == code '-' || c == code '+' then reader.next else (c, reader)
    (reader.mantissa c).2

/-- Read what follows the point of a number. -/
def fraction (reader : Reader) : Reader :=
  let (c, reader) := reader.mantissa reader.peek
  if isExponent c then
    let (c, reader) := reader.next
    reader.exponent c
  else reader

/-- Read what follows the digits of a number, of which the first character is read. -/
def numberEnd? (c : Nat) (reader : Reader) : Option (TokenKind × Reader) :=
  if isExponent c then some (.float, reader.exponent c)
  else if c == code '.' then some (.float, reader.fraction)
  else none

/-- Read hexadecimal digits. -/
def hexadecimal (reader : Reader) : TokenKind × Reader :=
  let (first, reader) := reader.next
  let (c, reader) := reader.skipAll isHexDigit first
  let reader := if isHexDigit first then reader else reader.blame (bytes "illegal hexadecimal number")
  (.number, reader.unreadUnless c)

/-- Read a number that begins with zero. The digits eight and nine are wrong in it after the first of its
digits, if there is no point. -/
def zero (reader : Reader) : TokenKind × Reader :=
  let (c, reader) := reader.next
  if c == code 'x' || c == code 'X' then reader.hexadecimal
  else
    let digits := reader.rest.takeWhile isDigit
    let isBad := isDigit c && digits.any fun d => d == code '8' || d == code '9'
    let (c, reader) := reader.skipAll isDigit c
    match reader.numberEnd? c with
    | some found => found
    | none =>
      let reader := if isBad then reader.blame (bytes "illegal octal number") else reader
      (.number, reader.unreadUnless c)

/-- Read a number, whose first digit is read. -/
def number (c : Nat) (reader : Reader) : TokenKind × Reader :=
  if reader.isNative && c == code '0' then reader.zero
  else
    let start := reader.place
    let (_, behind) := reader.mantissa c
    let (next, behind) := behind.next
    match behind.numberEnd? next with
    | some found => found
    | none =>
      let behind := behind.unreadUnless next
      (.number, if !reader.isNative && c == code '0' && behind.place != start then
        behind.blame (bytes "numbers cannot start with 0") else behind)

/-! ## Texts -/

/-- The value of a digit; that of another character is beyond all bases. -/
def digitValue (c : Nat) : Nat := (hexValue? [c]).getD 16

/-- Read digits of an escaped character, from one that is read on: how many are missing, and the character
behind them. -/
def digitsFrom (base : Nat) : Nat → Nat → Reader → Nat × Nat × Reader
  | 0, c, reader => (0, c, reader)
  | missing + 1, c, reader =>
    if digitValue c < base then
      let (c, reader) := reader.next
      if c == finishCode then (missing + 1, c, reader) else digitsFrom base missing c reader
    else (missing + 1, c, reader)

/-- Read digits of an escaped character. -/
def digits (base count : Nat) (c : Nat) (reader : Reader) : Reader :=
  let (missing, c, reader) := digitsFrom base count c reader
  let reader := if missing > 0 then reader.blame (bytes "illegal char escape") else reader
  if missing == count then reader else reader.unreadUnless c

/-- Read an escaped character. -/
def escape (reader : Reader) : Reader :=
  let (c, reader) := reader.next
  if (codes "abfnrtv\\\"").contains c then reader
  else if code '0' ≤ c && c ≤ code '7' then reader.digits 8 3 c
  else
    match [(code 'x', 2), (code 'u', 4), (code 'U', 8)].lookup c with
    | some count =>
      let (c, reader) := reader.next
      reader.digits 16 count c
    | none => reader.blame (bytes "illegal char escape")

/-- Read a text to the quote that closes it. In the native form, quotes and line ends in a dollar sign and
braces are part of it: `braces` counts those that are open. -/
def text : Nat → Nat → Reader → Reader
  | 0, _, reader => reader
  | fuel + 1, braces, reader =>
    let (c, reader) := reader.next
    let isOuter := braces == 0 || !reader.isNative
    if (c == code '\n' && isOuter) || c == finishCode then reader.blame (bytes "literal not terminated")
    else if c == code '"' && isOuter then reader
    else
      let (braces, reader) :=
        if braces == 0 && c == code '$' && reader.peek == code '\x7b' then (1, reader.next.2)
        else if braces > 0 && c == code '\x7b' then (braces + 1, reader)
        else if braces > 0 && c == code '\x7d' then (braces - 1, reader)
        else (braces, reader)
      text fuel braces (if c == code '\\' then reader.escape else reader)

/-- Whether a line ends the text over several lines that a word marks. -/
def endsDocument (word line : List Nat) : Bool :=
  let isIndent (c : Nat) : Bool := (codes " \t\n\r\x0B\x0C").contains c
  let mark := if word.head? == some (code '-') then word.tail else word
  let body := line.dropWhile isIndent
  (spelled line).length ≥ (spelled word).length && mark.isPrefixOf body
    && (body.drop mark.length).all (· == code '\r')

/-- Read the lines of a text up to the one that ends it, with the characters of the current line in
reverse. -/
def documentLines (word : List Nat) : Nat → List Nat → Reader → Reader
  | 0, _, reader => reader
  | fuel + 1, line, reader =>
    let (c, reader) := reader.next
    if c == finishCode then reader.blame (bytes "heredoc not terminated")
    else if c == code '\n' then
      if endsDocument word line.reverse then reader else documentLines word fuel [] reader
    else documentLines word fuel (c :: line) reader

/-- Read a text over several lines, whose first sign is read. -/
def document (reader : Reader) : Reader :=
  let (c, reader) := reader.next
  if c != code '<' then reader.blame (bytes "heredoc expected second '<', didn't see it")
  else
    let start := reader
    let (c, reader) := reader.next
    let (c, reader) := if c == code '-' then reader.next else (c, reader)
    let (c, reader) := reader.skipAll isWordCharacter c
    let (c, reader) :=
      if c == code '\r' && reader.peek == code '\n' then reader.next else (c, reader)
    let word := start.rest.take (reader.count - start.count - 1)
    if c == finishCode then reader.blame (bytes "heredoc not terminated")
    else if c != code '\n' then reader.blame (bytes "invalid characters in heredoc anchor")
    else if word.isEmpty || word == [code '-'] then reader.blame (bytes "zero-length heredoc anchor")
    else documentLines word (reader.rest.length + 1) [] reader

/-! ## Comments -/

/-- Read a comment to the sign that closes it, from a character on. -/
def longComment : Nat → Nat → Reader → Reader
  | 0, _, reader => reader
  | fuel + 1, c, reader =>
    if c == finishCode then reader.blame (bytes "comment not terminated")
    else
      let (next, reader) := reader.next
      if c == code '*' && next == code '/' then reader else longComment fuel next reader

/-- Read a comment, of which a character is read. -/
def comment (c : Nat) (reader : Reader) : Reader :=
  if c == code '/' && reader.peek == code '*' then
    let (_, reader) := reader.next
    let (c, reader) := reader.next
    longComment (reader.rest.length + 2) c reader
  else if c == code '/' && reader.peek != code '/' then
    reader.blame (bytes "expected '/' for comment")
  else
    let (c, reader) := reader.next
    let (c, reader) := reader.skipAll (fun c => c != code '\n' && c != finishCode) c
    reader.unreadUnless c

/-! ## Tokens -/

/-- Read a name, whose first character is read. In the native form it may have points in it. -/
def name (start : Reader) : Reader :=
  let (c, reader) := start.next
  let (c, reader) := reader.skipAll
    (fun c => isWordCharacter c || c == code '-' || (start.isNative && c == code '.')) c
  reader.unreadUnless c

/-- The signs of both forms. -/
def signs : List (Nat × TokenKind) :=
  [(code '[', .openingBracket), (code ']', .closingBracket), (code '\x7b', .openingBrace),
    (code '\x7d', .closingBrace), (code ',', .comma), (finishCode, .finish)]

/-- Read a token of another kind than names and numbers, whose first character is read. -/
def sign (c : Nat) (reader : Reader) : TokenKind × Reader :=
  match signs.lookup c with
  | some kind => (kind, reader)
  | none =>
    if c == code '"' then (.text, text (reader.rest.length + 1) 0 reader)
    else if c == code '.' then
      if isDigit reader.peek then
        let (c, reader) := reader.mantissa reader.peek
        (.float, reader.exponent c)
      else (.period, reader)
    else if c == code '-' then
      if isDigit reader.peek then
        let (c, reader) := reader.next
        reader.number c
      else if reader.isNative then (.minus, reader)
      else (.illegal, reader.blame (bytes "illegal char"))
    else if reader.isNative then
      if c == code '#' || c == code '/' then (.comment, reader.comment c)
      else if c == code '<' then (.document, reader.document)
      else if c == code '=' then (.equals, reader)
      else if c == code '+' then (.plus, reader)
      else (.illegal, reader.blame (bytes "illegal char"))
    else if c == code ':' then (.colon, reader)
    else (.illegal, reader.blame (bytes "illegal char: " ++ Utf8.encode c))

/-- Read a token, whatever it is. -/
def token (reader : Reader) : Token × Reader :=
  let (c, reader) := reader.next
  let (c, reader) := reader.skipAll isBlank c
  let place := if reader.place.column > 0 then reader.place
    else ⟨reader.place.line - 1, reader.lineLength⟩
  let start := if c == finishCode && reader.rest.isEmpty && reader.before.1.isEmpty then
    ([], reader.count) else (reader.before.1, reader.count - 1)
  let written (reader : Reader) : List Nat := start.1.take (reader.count - start.2)
  let (kind, reader) :=
    if isNameStart c then
      let reader := reader.name
      let word := written reader
      if word == codes "true" || word == codes "false" then (.truth, reader)
      else if reader.isNative then (.name, reader)
      else if word == codes "null" then (.null, reader)
      else (.illegal, reader.blame (bytes "illegal char"))
    else if isDigit c then reader.number c
    else reader.sign c
  (⟨kind, place, written reader⟩, reader)

/-- Read a token that is no comment. The fuel is more than the number of characters. -/
def significant : Nat → Reader → Token × Reader
  | 0, reader => reader.token
  | fuel + 1, reader =>
    let (token, reader) := reader.token
    if token.kind == .comment then significant fuel reader else (token, reader)

end Reader

end Hcl

end Settings

end FunctionChain
