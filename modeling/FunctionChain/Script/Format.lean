import FunctionChain.Script.Fraction

/-!
# Text by format

The text that `echo` makes of its words and `printf` of a format and its arguments. Escapes start with a
backslash; conversions of a format start with a percent sign and take one argument each. A format is used
again and again until no argument is left.
-/

namespace FunctionChain

namespace Script

namespace Format

/-- The byte of an escape by one letter. -/
def letterEscape? (b : UInt8) : Option UInt8 :=
  if b == byte 'a' then some 7
  else if b == byte 'b' then some 8
  else if b == byte 'e' then some 27
  else if b == byte 'f' then some 12
  else if b == byte 'n' then some 10
  else if b == byte 'r' then some 13
  else if b == byte 't' then some 9
  else if b == byte 'v' then some 11
  else if b == 0x5C then some 0x5C
  else none

/-- The byte of the escape whose text follows a backslash, and the number of bytes of that text. -/
def escape? (text : Bytes) : Option (UInt8 × Nat) :=
  match text with
  | [] => none
  | b :: _ =>
    if Numeral.isOctal b then
      let digits := (text.take 3).takeWhile Numeral.isOctal
      some ((Numeral.value 8 digits).toUInt8, digits.length)
    else (letterEscape? b).map (·, 1)

/-- A text with its escapes resolved. In it, a zero may stand before the three octal digits of an escape,
and `\c` ends the text, which the flag tells. `jump` counts bytes that belong to an escape already
resolved. -/
def resolved : Nat → Bytes → Bytes → Bytes × Bool
  | _, done, [] => (done.reverse, false)
  | jump + 1, done, _ :: rest => resolved jump done rest
  | 0, done, 0x5C :: b :: rest =>
    if b == byte 'c' then (done.reverse, true)
    else
      let zeros := if b == byte '0' && rest.head?.any Numeral.isOctal then 1 else 0
      match escape? ((b :: rest).drop zeros) with
      | some (escaped, length) => resolved (length + zeros) (escaped :: done) (b :: rest)
      | none => resolved 0 (0x5C :: done) (b :: rest)
  | 0, done, b :: rest => resolved 0 (b :: done) rest

/-! ## Conversions -/

/-- How an argument is to be written. -/
structure Layout where
  left : Bool
  zeros : Bool
  plus : Bool
  space : Bool
  marked : Bool
  width : Nat
  precision : Option Nat

/-- A text in a field. -/
def Layout.field (layout : Layout) (text : Bytes) : Bytes :=
  let fill := List.replicate (layout.width - text.length) 0x20
  if layout.left then text ++ fill else fill ++ text

/-- Digits with what stands before them, in a field. -/
def Layout.number (layout : Layout) (before digits : Bytes) : Bytes :=
  let digits := List.replicate (layout.precision.getD 0 - digits.length) 0x30 ++ digits
  let zeros := if layout.zeros && !layout.left && layout.precision.isNone
    then List.replicate (layout.width - before.length - digits.length) 0x30 else []
  layout.field (before ++ zeros ++ digits)

/-- The number of an argument, and what is to complain about. A quote asks for the code of the byte after
it. -/
def argumentNumber (text : Bytes) : Int × Option Bytes :=
  match text with
  | [] => (0, none)
  | 0x27 :: b :: _ | 0x22 :: b :: _ => (b.toNat, none)
  | _ =>
    match Numeral.integer? text with
    | some (n, []) => (n, none)
    | some (n, _) => (n, some (text ++ bytes ": not completely converted"))
    | none => (0, some (text ++ bytes ": expected numeric value"))

/-- The number with decimals of an argument, and what is to complain about. -/
def argumentFraction (text : Bytes) : Double × Option Bytes :=
  match text with
  | [] => (.finite false 0 0, none)
  | 0x27 :: b :: _ | 0x22 :: b :: _ => (.ofQuotient false b.toNat 1, none)
  | _ =>
    match Fraction.read? text with
    | some (x, []) => (x, none)
    | some (x, _) => (x, some (text ++ bytes ": not completely converted"))
    | none => (.finite false 0 0, some (text ++ bytes ": expected numeric value"))

/-- A number with decimals in a field. -/
def Layout.fraction (layout : Layout) (form : Fraction.Form) (x : Double) : Bytes :=
  let before := if Fraction.isNegative x then bytes "-" else if layout.plus then bytes "+"
    else if layout.space then bytes " " else []
  let digits := Fraction.written form layout.marked layout.precision x
  let isPlain := digits.head?.any Bytes.isDigit
  { layout with precision := none, zeros := layout.zeros && isPlain }.number before digits

/-- The forms of numbers with decimals, by their letters. -/
def forms : List (UInt8 × Fraction.Form) :=
  [(byte 'f', .fixed), (byte 'e', .scientific), (byte 'g', .general)]

/-- The text of one converted argument, if the letter is a conversion, and what is to complain about. -/
def Layout.convert (layout : Layout) (letter : UInt8) (argument : Bytes) :
    Option (Bytes × Option Bytes) :=
  let (n, complaint) := argumentNumber argument
  let unsigned (base : Nat) (mark : Bytes) : Bytes :=
    layout.number (if layout.marked && n != 0 then mark else []) (Numeral.written base (toWord n))
  let cut (text : Bytes) : Bytes := match layout.precision with
    | some n => text.take n
    | none => text
  if letter == byte 's' || letter == byte 'b' then some (layout.field (cut argument), none)
  else if letter == byte 'c' then some (layout.field (argument.take 1), none)
  else if letter == byte 'd' || letter == byte 'i' then
    let before := if n < 0 then bytes "-" else if layout.plus then bytes "+"
      else if layout.space then bytes " " else []
    some (layout.number before (Decimal.ofNat n.natAbs), complaint)
  else if letter == byte 'u' then some (unsigned 10 [], complaint)
  else if letter == byte 'o' then some (unsigned 8 (bytes "0"), complaint)
  else if letter == byte 'x' then some (unsigned 16 (bytes "0x"), complaint)
  else if letter == byte 'X' then some (Bytes.upper (unsigned 16 (bytes "0x")), complaint)
  else (forms.lookup (Bytes.lowerByte letter)).map fun form =>
    let (x, complaint) := argumentFraction argument
    let text := layout.fraction form x
    (if Bytes.isUpper letter then Bytes.upper text else text, complaint)

/-- How using a format came to an end. -/
inductive Stop where
  /-- An escape ended all output. -/
  | cut
  /-- The format is wrong. -/
  | refused (message : Bytes)
deriving Repr, DecidableEq

/-- What has come of a format so far. -/
structure Progress where
  /-- The text, the latest byte first. -/
  done : Bytes
  arguments : List Bytes
  /-- The complaints, the latest first. -/
  complaints : List Bytes
  stopped : Option Stop

namespace Progress

/-- Add text. -/
def add (progress : Progress) (text : Bytes) : Progress :=
  { progress with done := text.reverse ++ progress.done }

/-- Take an argument. -/
def take (progress : Progress) : Bytes × Progress :=
  (progress.arguments.headD [], { progress with arguments := progress.arguments.tail })

/-- Stop. -/
def stop (progress : Progress) (why : Stop) : Progress := { progress with stopped := some why }

/-- A width or a precision at the start of a text, which may be an argument. -/
def measure (progress : Progress) (text : Bytes) : Int × Bytes × Progress :=
  match text with
  | 0x2A :: rest =>
    let (argument, progress) := progress.take
    ((argumentNumber argument).1, rest, progress)
  | _ => (Numeral.value 10 (text.takeWhile Bytes.isDigit), text.dropWhile Bytes.isDigit, progress)

/-- One conversion, whose text follows a percent sign. The rest of the format is what follows it. -/
def conversion (progress : Progress) (text : Bytes) : Progress × Bytes :=
  let isFlag (b : UInt8) : Bool := (bytes "#-+ 0").contains b
  let flags := text.takeWhile isFlag
  let (width, rest, progress) := progress.measure (text.dropWhile isFlag)
  let (precision, rest, progress) := match rest with
    | 0x2E :: rest =>
      let (precision, rest, progress) := progress.measure rest
      (some precision.toNat, rest, progress)
    | _ => (none, rest, progress)
  let layout : Layout :=
    { left := flags.contains (byte '-') || width < 0
      zeros := flags.contains (byte '0')
      plus := flags.contains (byte '+')
      space := flags.contains (byte ' ')
      marked := flags.contains (byte '#')
      width := width.natAbs
      precision }
  match rest with
  | [] => (progress.stop (.refused (bytes "missing format character")), [])
  | letter :: rest =>
    let (argument, after) := progress.take
    let (argument, isCut) := if letter == byte 'b' then resolved 0 [] argument else (argument, false)
    match layout.convert letter argument with
    | none =>
      let directive := byte '%' :: text.take (text.length - rest.length)
      (progress.stop (.refused (directive ++ bytes ": invalid directive")), rest)
    | some (written, complaint) =>
      let after := { after.add written with
        complaints := complaint.toList ++ progress.complaints }
      (if isCut then after.stop .cut else after, rest)

/-- Use a format once. `fuel` is more than the length of the format. -/
def once : Nat → Bytes → Progress → Progress
  | 0, _, progress => progress
  | _, [], progress => progress
  | fuel + 1, b :: rest, progress =>
    if progress.stopped.isSome then progress
    else if b == 0x5C then
      match escape? rest with
      | some (escaped, length) => once fuel (rest.drop length) (progress.add [escaped])
      | none => once fuel rest (progress.add [b])
    else if b == byte '%' then
      match rest with
      | 0x25 :: rest => once fuel rest (progress.add [b])
      | _ =>
        let (progress, rest) := progress.conversion rest
        once fuel rest progress
    else once fuel rest (progress.add [b])

/-- Use a format until no argument is left. `fuel` is the number of arguments. -/
def again (format : Bytes) : Nat → Progress → Progress
  | 0, progress => progress
  | fuel + 1, progress =>
    let after := once (format.length + 1) format progress
    if after.stopped.isSome || after.arguments.isEmpty
      || after.arguments.length == progress.arguments.length then after
    else again format fuel after

end Progress

/-- What comes of a format and arguments. -/
def apply (format : Bytes) (arguments : List Bytes) : Progress :=
  Progress.again format (arguments.length + 1) ⟨[], arguments, [], none⟩

end Format

end Script

end FunctionChain
