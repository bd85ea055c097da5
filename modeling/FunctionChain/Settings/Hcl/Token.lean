import FunctionChain.Settings.Character
import FunctionChain.Text.Letter
import FunctionChain.Text.Quoted

/-!
# Tokens of HCL

The tokens of the native form and of the JSON form of a configuration in HCL, with the places where they
start. Lines and columns count from one, columns in characters.
-/

namespace FunctionChain

namespace Settings

namespace Hcl

/-- A place in a text. -/
structure Place where
  line : Nat
  column : Nat
deriving Repr, DecidableEq

/-- The place of what has none. -/
def Place.nowhere : Place := ⟨0, 0⟩

/-- The place as messages name it. -/
def Place.text (place : Place) : Bytes :=
  if place.line == 0 then bytes "-"
  else Decimal.ofNat place.line ++ bytes ":" ++ Decimal.ofNat place.column

/-- What a token is. -/
inductive TokenKind where
  | illegal
  | finish
  | comment
  | name
  | number
  | float
  | truth
  | null
  | text
  /-- A text over several lines. -/
  | document
  | openingBracket
  | closingBracket
  | openingBrace
  | closingBrace
  | comma
  | period
  | colon
  | equals
  | plus
  | minus
deriving Repr, DecidableEq

/-- The word for a kind in messages. -/
def TokenKind.word : TokenKind → Bytes
  | .illegal => bytes "ILLEGAL"
  | .finish => bytes "EOF"
  | .comment => bytes "COMMENT"
  | .name => bytes "IDENT"
  | .number => bytes "NUMBER"
  | .float => bytes "FLOAT"
  | .truth => bytes "BOOL"
  | .null => bytes "NULL"
  | .text => bytes "STRING"
  | .document => bytes "HEREDOC"
  | .openingBracket => bytes "LBRACK"
  | .closingBracket => bytes "RBRACK"
  | .openingBrace => bytes "LBRACE"
  | .closingBrace => bytes "RBRACE"
  | .comma => bytes "COMMA"
  | .period => bytes "PERIOD"
  | .colon => bytes "COLON"
  | .equals => bytes "ASSIGN"
  | .plus => bytes "ADD"
  | .minus => bytes "SUB"

/-- A token: what it is, where it starts, and its characters. -/
structure Token where
  kind : TokenKind
  place : Place
  characters : List Nat
deriving Repr, DecidableEq

namespace Token

/-- The token as it is written. -/
def spelling (token : Token) : Bytes := spelled token.characters

/-- The token without its place. -/
def unplaced (token : Token) : Token := { token with place := .nowhere }

/-- The token as messages show it. -/
def shown (token : Token) : Bytes :=
  token.place.text ++ bytes " " ++ token.kind.word ++ bytes " " ++ token.spelling

end Token

/-! ## Texts -/

/-- The bytes of an escaped character, and the characters behind it. -/
def unescape : List Nat → Bytes × List Nat
  | [] => ([], [])
  | c :: rest =>
    let numbered (count : Nat) (digits : List Nat) : Option (Nat × List Nat) :=
      (hexValue? (digits.take count)).map fun n => (n, digits.drop count)
    if c == code 'x' then
      match numbered 2 rest with
      | some (n, rest) => ([n.toUInt8], rest)
      | none => ([], rest)
    else if c == code 'u' || c == code 'U' then
      match numbered (if c == code 'u' then 4 else 8) rest with
      | some (n, rest) => (Utf8.encode n, rest)
      | none => ([], rest)
    else if code '0' ≤ c && c ≤ code '7' then
      let digits := (c :: rest).take 3
      ([(digits.foldl (fun n d => n * 8 + (d - code '0')) 0).toUInt8], rest.drop 2)
    else
      let plain := ([(code 'a', 7), (code 'b', 8), (code 'f', 12), (code 'n', 10), (code 'r', 13),
        (code 't', 9), (code 'v', 11)].lookup c).getD c
      (Utf8.encode plain, rest)

/-- The bytes of characters inside of quotes. In the native form, what stands in a dollar sign and braces
is kept as it is: `braces` counts those that are open. The fuel is the number of characters. -/
def unquoted (isNative : Bool) : Nat → Nat → List Nat → Bytes
  | fuel + 1, braces, c :: rest =>
    if braces > 0 then
      let depth := if c == code '\x7b' then braces + 1
        else if c == code '\x7d' then braces - 1 else braces
      Utf8.encode c ++ unquoted isNative fuel depth rest
    else if isNative && c == code '$' && rest.head? == some (code '\x7b') then
      bytes "$\x7b" ++ unquoted isNative fuel 1 rest.tail
    else if c == code '\\' then
      let (found, rest) := unescape rest
      found ++ unquoted isNative fuel 0 rest
    else Utf8.encode c ++ unquoted isNative fuel 0 rest
  | _, _, _ => []

/-- A text between two places of another. -/
def between (text : Bytes) (start stop : Nat) : Bytes := (text.take stop).drop start

/-- The content of a text over several lines. If it is marked with a dash, the white space before the line
that ends it is taken off all its lines, if they all have it. -/
def documentContent (spelling : Bytes) : Bytes :=
  let mark := (spelling.takeWhile (· != 0x0A)).length
  let plain := between spelling (mark + 1) (spelling.length - mark + 1)
  if (spelling.drop 2).head? != some (byte '-') then plain
  else
    let lines := (between spelling (mark + 1) (spelling.length - mark + 2)).splitOn 0x0A
    let indent := lines.getLast?.getD []
    if lines.all (·.startsWith indent) then
      Bytes.joined [0x0A] (lines.dropLast.map (·.drop indent.length) ++ [[]])
    else Bytes.dropEndWhile plain fun b => b == 0x20 || b == 0x09

/-- The text that a token stands for. -/
def Token.content (isNative : Bool) (token : Token) : Bytes :=
  match token.kind with
  | .text =>
    let inner := token.characters.tail.dropLast
    unquoted isNative inner.length 0 inner
  | .document => documentContent token.spelling
  | .null => []
  | _ => token.spelling

end Hcl

end Settings

end FunctionChain
