import FunctionChain.Settings.Yaml.Problem

/-!
# Characters of YAML

A text is in UTF-8, or in UTF-16 if it starts with the mark of one of its two orders. Control characters
are not allowed in it, apart from the tabulator and line ends.

The text is decoded in windows of 512 bytes, each as soon as something of it is asked for. So a fault is
met when the first character of its window is wanted, and not before.
-/

namespace FunctionChain

namespace Settings

namespace Yaml

/-- How characters are written. -/
inductive Encoding where
  | bytes
  /-- Units of two bytes, the lower one first or the higher one. -/
  | units (lowFirst : Bool)
deriving Repr, DecidableEq

/-- The characters of a text. -/
structure Source where
  characters : List Nat
  /-- The fault behind the characters, with the number of characters that can be had without it. -/
  fault : Option (Nat × CharacterFault)
deriving Repr, DecidableEq

/-- What decoding the next character brings. -/
inductive Decoded where
  | character (code size : Nat)
  /-- The window ends inside of a character. -/
  | cut (fault : CharacterFault)
  | fault (fault : CharacterFault)

/-- The size of a character by its first byte; none for a byte that starts no character. -/
def sizeOf? (b : UInt8) : Option Nat :=
  if b < 0x80 then some 1
  else if 0xC0 ≤ b && b < 0xE0 then some 2
  else if 0xE0 ≤ b && b < 0xF0 then some 3
  else if 0xF0 ≤ b && b < 0xF8 then some 4
  else none

/-- The bits of a first byte that belong to the character. -/
def leadBits (size : Nat) (b : UInt8) : Nat :=
  match size with
  | 1 => b.toNat
  | 2 => b.toNat % 32
  | 3 => b.toNat % 16
  | _ => b.toNat % 8

/-- The least character of a size. -/
def leastOf (size : Nat) : Nat :=
  match size with
  | 1 => 0
  | 2 => 0x80
  | 3 => 0x800
  | _ => 0x10000

/-- Whether a character may stand in a text. -/
def isAllowed (code : Nat) : Bool :=
  code == 9 || code == 10 || code == 13 || (0x20 ≤ code && code ≤ 0x7E) || code == 0x85
    || (0xA0 ≤ code && code ≤ 0xD7FF) || (0xE000 ≤ code && code ≤ 0xFFFD)
    || (0x10000 ≤ code && code ≤ 0x10FFFF)

/-- A character, if it is allowed. -/
def allowed (code size : Nat) : Decoded :=
  if isAllowed code then .character code size else .fault .control

/-- Decode a character from bytes, of which `window` can be seen. -/
def decodeBytes (window : Nat) (text : Bytes) : Decoded :=
  match text with
  | [] => .cut .incomplete
  | lead :: rest =>
    match sizeOf? lead with
    | none => .fault .badLead
    | some size =>
      if size > window then .cut .incomplete
      else
        let trail := rest.take (size - 1)
        let code := trail.foldl (fun n b => n * 64 + b.toNat % 64) (leadBits size lead)
        if !trail.all (fun b => 0x80 ≤ b && b < 0xC0) then .fault .badTrail
        else if code < leastOf size then .fault .badLength
        else if (0xD800 ≤ code && code ≤ 0xDFFF) || code > 0x10FFFF then .fault .noCharacter
        else allowed code size

/-- The unit of two bytes. -/
def unitOf (lowFirst : Bool) (a b : UInt8) : Nat :=
  if lowFirst then a.toNat + b.toNat * 256 else a.toNat * 256 + b.toNat

/-- Decode a character from units of two bytes, of which `window` bytes can be seen. -/
def decodeUnits (lowFirst : Bool) (window : Nat) (text : Bytes) : Decoded :=
  match text with
  | a :: b :: rest =>
    if window < 2 then .cut .halfUnit
    else
      let high := unitOf lowFirst a b
      if 0xDC00 ≤ high && high < 0xE000 then .fault .strayLow
      else if 0xD800 ≤ high && high < 0xDC00 then
        match rest with
        | c :: d :: _ =>
          if window < 4 then .cut .halfPair
          else
            let low := unitOf lowFirst c d
            if 0xDC00 ≤ low && low < 0xE000 then
              allowed (0x10000 + high % 1024 * 1024 + low % 1024) 4
            else .fault .missingLow
        | _ => .cut .halfPair
      else allowed high 2
  | _ => .cut .halfUnit

/-- Decode a character. -/
def Encoding.decode (encoding : Encoding) (window : Nat) (text : Bytes) : Decoded :=
  match encoding with
  | .bytes => decodeBytes window text
  | .units lowFirst => decodeUnits lowFirst window text

/-- The size of a window. -/
def windowSize : Nat := 512

/-- Decode the rest of a text. `window` bytes of it can be seen, `reach` characters were decoded when the
window was opened, and `done` are the characters so far in reverse, `count` in number. -/
def decodeFrom (encoding : Encoding) : (fuel window reach count : Nat) → List Nat → Bytes → Source
  | 0, _, _, _, done, _ => ⟨done.reverse, none⟩
  | fuel + 1, window, reach, count, done, text =>
    if text.isEmpty then ⟨done.reverse, none⟩
    else if window == 0 then
      decodeFrom encoding fuel (min windowSize text.length) count count done text
    else match encoding.decode window text with
      | .character code size =>
        decodeFrom encoding fuel (window - size) reach (count + 1) (code :: done) (text.drop size)
      | .fault fault => ⟨done.reverse, some (reach, fault)⟩
      | .cut fault =>
        if window == text.length then ⟨done.reverse, some (count, fault)⟩
        else decodeFrom encoding fuel (min windowSize text.length) count count done text

/-- The encoding that a text is marked with, and the text without the mark. -/
def encodingOf (text : Bytes) : Encoding × Bytes :=
  match text with
  | 0xFF :: 0xFE :: rest => (.units true, rest)
  | 0xFE :: 0xFF :: rest => (.units false, rest)
  | 0xEF :: 0xBB :: 0xBF :: rest => (.bytes, rest)
  | _ => (.bytes, text)

/-- The characters of a text. -/
def Source.ofText (text : Bytes) : Source :=
  let (encoding, rest) := encodingOf text
  let window := min windowSize text.length - (text.length - rest.length)
  decodeFrom encoding (3 * text.length + 3) window 0 0 [] rest

end Yaml

end Settings

end FunctionChain
