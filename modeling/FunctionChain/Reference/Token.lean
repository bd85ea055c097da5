import FunctionChain.Text.Blank

/-!
# Argument tokens

An argument of a call is a token. It is a numeric literal when it spells a decimal number, an
infinity or not-a-number, and an identifier otherwise. White space around the token does not count,
and a single underscore may stand between two digits. A token is only looked at: it is rendered
unchanged.
-/

namespace FunctionChain

/-- What an argument token is. -/
inductive TokenKind where
  | numeric
  | identifier
deriving Repr, DecidableEq

/-- The name of a kind in listings. -/
def TokenKind.name : TokenKind → Bytes
  | .numeric => bytes "NUMERIC_LITERAL"
  | .identifier => bytes "IDENTIFIER"

namespace Token

/-- Whether the byte is a plus or a minus. -/
def isSign (b : UInt8) : Bool := b == byte '+' || b == byte '-'

/-- Whether a token starts like a hexadecimal number, behind any number of signs. -/
def looksHexadecimal (token : Bytes) : Bool :=
  match token.dropWhile isSign with
  | a :: b :: _ => a == byte '0' && Bytes.lowerByte b == byte 'x'
  | _ => false

/-- Whether every underscore has a digit on both sides. `before` says whether the byte before is a
digit. -/
def underscoresFit (before : Bool) : Bytes → Bool
  | [] => true
  | b :: rest =>
    if b == byte '_' then
      before && (match rest with
        | next :: _ => Bytes.isDigit next
        | [] => false) && underscoresFit false rest
    else underscoresFit (Bytes.isDigit b) rest

/-- The token without one leading sign. -/
def dropSign : Bytes → Bytes
  | [] => []
  | b :: rest => if isSign b then rest else b :: rest

/-- Whether the rest of a number is an exponent, or nothing. -/
def isExponentOrEnd : Bytes → Bool
  | [] => true
  | b :: rest =>
    Bytes.lowerByte b == byte 'e' && !(dropSign rest).isEmpty && (dropSign rest).all Bytes.isDigit

/-- The digits after a decimal point and what follows them; nothing when there is no point. -/
def fraction : Bytes → Bytes × Bytes
  | [] => ([], [])
  | b :: rest => if b == byte '.' then rest.span Bytes.isDigit else ([], b :: rest)

/-- Whether the token is a decimal number: digits with at most one point among them and at least one
digit, then perhaps an exponent. -/
def isDecimal (token : Bytes) : Bool :=
  let (whole, rest) := (dropSign token).span Bytes.isDigit
  let (part, rest) := fraction rest
  !(whole.isEmpty && part.isEmpty) && isExponentOrEnd rest

/-- Whether the token names an infinity, with or without a sign, or is not-a-number, without one. -/
def isSpecial (token : Bytes) : Bool :=
  let name := Bytes.lower (dropSign token)
  name == bytes "inf" || name == bytes "infinity" || Bytes.lower token == bytes "nan"

/-- What the token is. -/
def classify (token : Bytes) : TokenKind :=
  let token := Blank.trimmed token
  if looksHexadecimal token then .identifier
  else if !underscoresFit false token then .identifier
  else
    let token := token.filter (· != byte '_')
    if isDecimal token || isSpecial token then .numeric else .identifier

end Token

end FunctionChain
