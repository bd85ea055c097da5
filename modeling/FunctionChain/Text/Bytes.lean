/-!
# Byte texts

Documents, names, messages and program output are all sequences of bytes: nothing promises that
they are valid UTF-8. This file fixes the type, the bytewise order that every sorted listing uses,
and the handful of searching and cutting operations the rest of the library is written in.

Loops over a text keep what they have done in an accumulator, so that a text of a million bytes is
walked in constant stack.
-/

namespace FunctionChain

/-- A text as the bytes it is made of. -/
abbrev Bytes := List UInt8

/-- The UTF-8 bytes of a literal text. -/
def bytes (s : String) : Bytes := s.toByteArray.data.toList

/-- The byte of an ASCII character. -/
@[inline] def byte (c : Char) : UInt8 := c.toNat.toUInt8

namespace Bytes

/-! ## Order -/

/-- Bytewise order: the first differing byte decides, and a text comes after its own beginnings. -/
def before : Bytes → Bytes → Bool
  | [], [] => false
  | [], _ :: _ => true
  | _ :: _, [] => false
  | a :: s, b :: t => if a < b then true else if b < a then false else before s t

/-- The reflexive bytewise order, in the form that sorting takes. -/
def atMost (s t : Bytes) : Bool := !before t s

/-- The texts in bytewise order. Equal texts keep their places. -/
def sorted (texts : List Bytes) : List Bytes := texts.mergeSort atMost

/-! ## Searching and cutting -/

/-- Whether `text` starts with `start`. -/
def startsWith (text start : Bytes) : Bool := start.isPrefixOf text

/-- Whether `text` ends with `ending`. -/
def endsWith (text ending : Bytes) : Bool := ending.isSuffixOf text

/-- The text after `start`, if it starts so. -/
def after? : Bytes → Bytes → Option Bytes
  | text, [] => some text
  | [], _ :: _ => none
  | a :: text, b :: start => if a == b then after? text start else none

/-- Whether `part` occurs in the text. -/
def includes (text part : Bytes) : Bool :=
  match text with
  | [] => part.isEmpty
  | _ :: rest => startsWith text part || includes rest part

/-- Cut at the first occurrence of `mark`: what stands before it and what follows it. -/
def cut? (text : Bytes) (mark : UInt8) : Option (Bytes × Bytes) :=
  match text.span (· != mark) with
  | (_, []) => none
  | (head, _ :: tail) => some (head, tail)

/-- One step of `splitOn`: a mark closes the piece that is being gathered. -/
def splitStep (mark : UInt8) (state : List Bytes × Bytes) (b : UInt8) : List Bytes × Bytes :=
  if b == mark then (state.2.reverse :: state.1, []) else (state.1, b :: state.2)

/-- The pieces between the marks. There is one more piece than there are marks. -/
def splitOn (text : Bytes) (mark : UInt8) : List Bytes :=
  let (pieces, last) := text.foldl (splitStep mark) ([], [])
  (last.reverse :: pieces).reverse

/-- The texts one after another with `mark` between neighbours. -/
def joined (mark : Bytes) : List Bytes → Bytes
  | [] => []
  | first :: rest => first ++ rest.flatMap (mark ++ ·)

/-- The text without the bytes at its end that `p` accepts. -/
def dropEndWhile (text : Bytes) (p : UInt8 → Bool) : Bytes := (text.reverse.dropWhile p).reverse

/-- The text with every occurrence of `part` replaced, from left to right. `skip` counts the bytes
of the occurrence just replaced that are still to be passed over. -/
def replaceFrom (part replacement : Bytes) : Nat → Bytes → Bytes → Bytes
  | _, [], done => done.reverse
  | skip + 1, _ :: rest, done => replaceFrom part replacement skip rest done
  | 0, b :: rest, done =>
    if startsWith (b :: rest) part then
      replaceFrom part replacement (part.length - 1) rest (replacement.reverse ++ done)
    else replaceFrom part replacement 0 rest (b :: done)

/-- The text with every occurrence of the non-empty `part` replaced, from left to right. -/
def replaceAll (text part replacement : Bytes) : Bytes := replaceFrom part replacement 0 text []

/-! ## ASCII classes -/

/-- Whether the byte is one of `0` to `9`. -/
def isDigit (b : UInt8) : Bool := byte '0' ≤ b && b ≤ byte '9'

/-- Whether the byte is an upper case ASCII letter. -/
def isUpper (b : UInt8) : Bool := byte 'A' ≤ b && b ≤ byte 'Z'

/-- Whether the byte is a lower case ASCII letter. -/
def isLower (b : UInt8) : Bool := byte 'a' ≤ b && b ≤ byte 'z'

/-- The lower case form of an ASCII letter; every other byte is its own. -/
def lowerByte (b : UInt8) : UInt8 := if isUpper b then b + 32 else b

/-- The upper case form of an ASCII letter; every other byte is its own. -/
def upperByte (b : UInt8) : UInt8 := if isLower b then b - 32 else b

/-- The text with its ASCII letters in lower case. -/
def lower (text : Bytes) : Bytes := text.map lowerByte

/-- The text with its ASCII letters in upper case. -/
def upper (text : Bytes) : Bytes := text.map upperByte

/-- `text` followed by blanks up to `width` bytes. -/
def padRight (text : Bytes) (width : Nat) : Bytes :=
  text ++ List.replicate (width - text.length) (byte ' ')

end Bytes

end FunctionChain
