import FunctionChain.Text.Decimal
import FunctionChain.Text.Utf8

/-!
# JSON values and their strings

The tree of a JSON text. A string is kept in its written form, between the quotes and with its
escapes, because some readers look at that form. A number is kept as its literal. Object members
keep their order, and names may repeat.

From the written form of a string comes the text that it stands for. Escapes are resolved first;
a surrogate escape without its partner becomes the replacement character. Bytes that are no UTF-8
are replaced afterwards, one replacement for each.
-/

namespace FunctionChain

/-- A JSON value as it was written. -/
inductive Json where
  | null
  | bool (b : Bool)
  | number (literal : Bytes)
  | string (written : Bytes)
  | array (items : List Json)
  | object (members : List (Bytes × Json))

namespace Json

/-- The code unit of four hexadecimal digits. -/
def codeUnit? (a b c d : UInt8) : Option Nat :=
  match Hex.value? a, Hex.value? b, Hex.value? c, Hex.value? d with
  | some a, some b, some c, some d => some (((a * 16 + b) * 16 + c) * 16 + d)
  | _, _, _, _ => none

/-- Whether a code unit opens a surrogate pair. -/
def isHighSurrogate (unit : Nat) : Bool := 0xD800 ≤ unit && unit < 0xDC00

/-- Whether a code unit closes a surrogate pair. -/
def isLowSurrogate (unit : Nat) : Bool := 0xDC00 ≤ unit && unit < 0xE000

/-- The character of a surrogate pair. -/
def pairCode (high low : Nat) : Nat := 0x10000 + (high - 0xD800) * 1024 + (low - 0xDC00)

/-- The byte that a one-letter escape stands for. -/
def letterEscape (letter : UInt8) : UInt8 :=
  if letter == byte 'b' then 8
  else if letter == byte 'f' then 12
  else if letter == byte 'n' then 10
  else if letter == byte 'r' then 13
  else if letter == byte 't' then 9
  else letter

/-- What an open surrogate leaves behind when no partner follows. -/
def flushPending : Option Nat → Bytes → Bytes
  | none, done => done
  | some _, done => (Utf8.encode Utf8.replacement).reverse ++ done

/-- Take one code unit into account: close the open pair, open a new one, or write a character. -/
def takeUnit (pending : Option Nat) (unit : Nat) (done : Bytes) : Option Nat × Bytes :=
  match pending with
  | some high =>
    if isLowSurrogate unit then (none, (Utf8.encode (pairCode high unit)).reverse ++ done)
    else
      let done := flushPending (some high) done
      if isHighSurrogate unit then (some unit, done)
      else (none, (Utf8.encode unit).reverse ++ done)
  | none =>
    if isHighSurrogate unit then (some unit, done)
    else (none, (Utf8.encode unit).reverse ++ done)

/-- Resolve the escapes of a written string. `pending` is a high surrogate whose partner may be
next, and `done` holds the bytes so far in reverse. -/
def unescapeFrom (pending : Option Nat) (done : Bytes) : Bytes → Bytes
  | 0x5C :: 0x75 :: a :: b :: c :: d :: rest =>
    match codeUnit? a b c d with
    | some unit =>
      let (pending, done) := takeUnit pending unit done
      unescapeFrom pending done rest
    | none => unescapeFrom none (0x75 :: flushPending pending done) (a :: b :: c :: d :: rest)
  | 0x5C :: letter :: rest =>
    unescapeFrom none (letterEscape letter :: flushPending pending done) rest
  | b :: rest => unescapeFrom none (b :: flushPending pending done) rest
  | [] => (flushPending pending done).reverse

/-- The bytes of a written string with its escapes resolved. -/
def unescaped (written : Bytes) : Bytes := unescapeFrom none [] written

/-- The text that a written string stands for. -/
def unquoted (written : Bytes) : Bytes := Utf8.sanitized (unescaped written)

end Json

end FunctionChain
