import FunctionChain.Text.Bytes

/-!
# Characters in a byte text

A byte text falls apart in one way into *pieces*: well-formed UTF-8 sequences, each of which stands
for one character, and stray bytes that belong to none. Quoting, escaping, trimming and sanitising
are all defined piece by piece, so this is the only place that knows the shape of a sequence.
-/

namespace FunctionChain

namespace Utf8

/-- A part of a text that is decoded as a whole. -/
inductive Piece where
  /-- A well-formed sequence: the character's number and the bytes that spell it. -/
  | char (code : Nat) (spelling : Bytes)
  /-- A byte that starts no well-formed sequence. -/
  | stray (b : UInt8)
deriving Repr, DecidableEq

/-- The bytes of a piece. -/
def Piece.bytes : Piece → Bytes
  | .char _ spelling => spelling
  | .stray b => [b]

/-- The character that stands in for what cannot be decoded. -/
def replacement : Nat := 0xFFFD

/-- Whether `b` can continue a sequence. -/
def isContinuation (b : UInt8) : Bool := 0x80 ≤ b && b ≤ 0xBF

/-- The payload of a continuation byte. -/
def payload (b : UInt8) : Nat := b.toNat - 0x80

/-- The sequence of two bytes, if it is well formed. -/
def pair? (a b : UInt8) : Option Nat :=
  if 0xC2 ≤ a && a ≤ 0xDF && isContinuation b then
    some ((a.toNat - 0xC0) * 64 + payload b)
  else none

/-- The sequence of three bytes, if it is well formed: neither overlong nor a surrogate. -/
def triple? (a b c : UInt8) : Option Nat :=
  if 0xE0 ≤ a && a ≤ 0xEF && isContinuation b && isContinuation c
      && (a != 0xE0 || 0xA0 ≤ b) && (a != 0xED || b ≤ 0x9F) then
    some ((a.toNat - 0xE0) * 4096 + payload b * 64 + payload c)
  else none

/-- The sequence of four bytes, if it is well formed: neither overlong nor above the last character. -/
def quad? (a b c d : UInt8) : Option Nat :=
  if 0xF0 ≤ a && a ≤ 0xF4 && isContinuation b && isContinuation c && isContinuation d
      && (a != 0xF0 || 0x90 ≤ b) && (a != 0xF4 || b ≤ 0x8F) then
    some ((a.toNat - 0xF0) * 262144 + payload b * 4096 + payload c * 64 + payload d)
  else none

/-- The first piece of a non-empty text, as the number of bytes after the first that belong to it
and, for a character, its number. -/
def leading (a : UInt8) (rest : Bytes) : Nat × Option Nat :=
  if a < 0x80 then (0, some a.toNat) else
  match rest with
  | [] => (0, none)
  | b :: rest =>
    match pair? a b with
    | some code => (1, some code)
    | none =>
      match rest with
      | [] => (0, none)
      | c :: rest =>
        match triple? a b c with
        | some code => (2, some code)
        | none =>
          match rest with
          | [] => (0, none)
          | d :: _ =>
            match quad? a b c d with
            | some code => (3, some code)
            | none => (0, none)

/-- The pieces of a text, with `done` in reverse before them. `skip` counts the bytes of the piece
just taken that are still to be passed over. -/
def piecesFrom : Nat → Bytes → List Piece → List Piece
  | _, [], done => done.reverse
  | skip + 1, _ :: rest, done => piecesFrom skip rest done
  | 0, a :: rest, done =>
    match leading a rest with
    | (extra, some code) => piecesFrom extra rest (.char code (a :: rest.take extra) :: done)
    | (_, none) => piecesFrom 0 rest (.stray a :: done)

/-- The pieces of a text, in order. -/
def pieces (text : Bytes) : List Piece := piecesFrom 0 text []

/-- Whether the text is well-formed UTF-8 throughout. -/
def isValid (text : Bytes) : Bool :=
  (pieces text).all fun
    | .char .. => true
    | .stray _ => false

/-- The bytes that spell a character. Numbers that are no character spell the replacement. -/
def encode (code : Nat) : Bytes :=
  if code < 0x80 then [code.toUInt8]
  else if code < 0x800 then [(0xC0 + code / 64).toUInt8, (0x80 + code % 64).toUInt8]
  else if 0xD800 ≤ code && code < 0xE000 || 0x110000 ≤ code then [0xEF, 0xBF, 0xBD]
  else if code < 0x10000 then
    [(0xE0 + code / 4096).toUInt8, (0x80 + code / 64 % 64).toUInt8, (0x80 + code % 64).toUInt8]
  else
    [(0xF0 + code / 262144).toUInt8, (0x80 + code / 4096 % 64).toUInt8,
      (0x80 + code / 64 % 64).toUInt8, (0x80 + code % 64).toUInt8]

/-- The number of a piece's character; a stray byte counts as the replacement. -/
def Piece.code : Piece → Nat
  | .char code _ => code
  | .stray _ => replacement

/-- The piece as well-formed text: a stray byte becomes the replacement character. -/
def Piece.clean : Piece → Bytes
  | .char _ spelling => spelling
  | .stray _ => encode replacement

/-- The text with every stray byte replaced. -/
def sanitized (text : Bytes) : Bytes := (pieces text).flatMap Piece.clean

/-- How many pieces the text has. -/
def length (text : Bytes) : Nat := (pieces text).length

end Utf8

end FunctionChain
