import FunctionChain.Text.Bytes

/-!
# Patterns

Patterns of the shell: a star stands for any text, a question mark for any byte, and brackets for one
of some bytes. Quoted bytes of a pattern stand for themselves.
-/

namespace FunctionChain

namespace Script

/-- One element of a pattern. -/
inductive Glob where
  | exactly (b : UInt8)
  | any
  | many
  | oneOf (negated : Bool) (ranges : List (UInt8 × UInt8))
deriving Repr, DecidableEq

/-- The ranges of a class of bytes. -/
def classRanges : List (Bytes × List (UInt8 × UInt8)) :=
  let upper := (byte 'A', byte 'Z')
  let lower := (byte 'a', byte 'z')
  let digit := (byte '0', byte '9')
  [(bytes "alpha", [upper, lower]), (bytes "digit", [digit]), (bytes "alnum", [upper, lower, digit]),
    (bytes "upper", [upper]), (bytes "lower", [lower]), (bytes "space", [(9, 13), (32, 32)]),
    (bytes "blank", [(9, 9), (32, 32)]), (bytes "cntrl", [(0, 31), (127, 127)]),
    (bytes "print", [(32, 126)]), (bytes "graph", [(33, 126)]),
    (bytes "punct", [(33, 47), (58, 64), (91, 96), (123, 126)]),
    (bytes "xdigit", [digit, (byte 'A', byte 'F'), (byte 'a', byte 'f')])]

/-- The class of bytes whose name stands at the start of a text, between a bracket with a colon on either
side; the first bracket is already taken off. -/
def classAt? (text : Bytes) : Option (List (UInt8 × UInt8) × Bytes) :=
  classRanges.findSome? fun (name, ranges) =>
    (Bytes.after? text (bytes ":" ++ name ++ bytes ":]")).map (ranges, ·)

/-- The ranges between brackets, and the rest after the closing one. `fuel` is more than the length of the
text. -/
def rangesWithin : Nat → List (UInt8 × UInt8) → Bytes → Option (List (UInt8 × UInt8) × Bytes)
  | 0, _, _ => none
  | _, _, [] => none
  | fuel + 1, done, b :: rest =>
    let single (b : UInt8) (rest : Bytes) : Option (List (UInt8 × UInt8) × Bytes) :=
      match rest with
      | 0x2D :: high :: after =>
        if high == 0x5D then rangesWithin fuel ((b, b) :: done) rest
        else rangesWithin fuel ((b, high) :: done) after
      | _ => rangesWithin fuel ((b, b) :: done) rest
    if b == 0x5D && !done.isEmpty then some (done.reverse, rest)
    else if b == 0x5B then
      match classAt? rest with
      | some (ranges, after) => rangesWithin fuel (ranges.reverse ++ done) after
      | none => single b rest
    else single b rest

/-- The ranges between brackets, and the rest after the closing one. -/
def ranges (text : Bytes) : Option (List (UInt8 × UInt8) × Bytes) :=
  rangesWithin (text.length + 1) [] text

/-- The elements of unquoted pattern text. `fuel` is its length. -/
def globsWithin : Nat → Bytes → List Glob
  | 0, _ => []
  | _, [] => []
  | fuel + 1, b :: rest =>
    if b == byte '*' then .many :: globsWithin fuel rest
    else if b == byte '?' then .any :: globsWithin fuel rest
    else if b == 0x5B then
      let (negated, inner) := match rest with
        | 0x21 :: inner => (true, inner)
        | _ => (false, rest)
      match ranges inner with
      | some (found, after) => .oneOf negated found :: globsWithin fuel after
      | none => .exactly b :: globsWithin fuel rest
    else .exactly b :: globsWithin fuel rest

/-- The elements of unquoted pattern text. -/
def globs (text : Bytes) : List Glob := globsWithin text.length text

/-- Whether a byte is in one of the ranges. -/
def inRanges (ranges : List (UInt8 × UInt8)) (b : UInt8) : Bool :=
  ranges.any fun (low, high) => low ≤ b && b ≤ high

/-- Whether a text matches a pattern as a whole. -/
def Glob.matches : List Glob → Bytes → Bool
  | [], text => text.isEmpty
  | .many :: rest, text => (List.range (text.length + 1)).any fun n => Glob.matches rest (text.drop n)
  | .any :: rest, text =>
    match text with
    | [] => false
    | _ :: text => Glob.matches rest text
  | .exactly b :: rest, text =>
    match text with
    | [] => false
    | c :: text => b == c && Glob.matches rest text
  | .oneOf negated found :: rest, text =>
    match text with
    | [] => false
    | c :: text => (inRanges found c != negated) && Glob.matches rest text

end Script

end FunctionChain
