import FunctionChain.Time.Calendar
import FunctionChain.Time.Duration

/-!
# Points in time

A point in time to the nanosecond, with the zone in which it is shown. Texts of it have date, time,
an optional fraction of a second and the zone, which is `Z` or an offset from it.

The reader goes through the parts of that form one by one, and says of a text that is not of the form
where it stopped and what it was looking for.
-/

namespace FunctionChain

/-- A point in time. -/
structure Timestamp where
  /-- Seconds since the beginning of year 1, in the zone without offset. -/
  seconds : Int
  /-- The nanoseconds of the second. -/
  nanos : Nat
  /-- The seconds by which the zone in which it is shown is ahead. -/
  offset : Int
deriving Repr, DecidableEq

namespace Timestamp

/-- The beginning of year 1, which stands for no time at all. -/
def zero : Timestamp := ⟨0, 0, 0⟩

/-- Whether it stands for no time at all. -/
def isZero (time : Timestamp) : Bool := time.seconds == 0 && time.nanos == 0

/-- Whether a time is earlier than another. -/
def isBefore (a b : Timestamp) : Bool :=
  a.seconds < b.seconds || (a.seconds == b.seconds && a.nanos < b.nanos)

/-- The same point in time, shown in the zone without offset. -/
def toUtc (time : Timestamp) : Timestamp := { time with offset := 0 }

/-- How long after `b` the time `a` is. -/
def since (a b : Timestamp) : Duration :=
  Duration.saturated ((a.seconds - b.seconds) * Duration.second + (a.nanos - b.nanos : Int))

/-- The seconds of a day. -/
def daySeconds : Int := 86400

/-! ## Writing -/

/-- The date in the zone of the time. -/
def date (time : Timestamp) : Calendar.Date :=
  Calendar.dateOf ((time.seconds + time.offset) / daySeconds)

/-- The second of the day in the zone of the time. -/
def secondOfDay (time : Timestamp) : Nat := ((time.seconds + time.offset) % daySeconds).toNat

/-- A year in at least four digits. -/
def yearText (year : Int) : Bytes :=
  (if year < 0 then [byte '-'] else []) ++ Decimal.padded year.natAbs 4

/-- The zone of an offset, to the minute. An offset of less than a minute is written as none. -/
def zoneText (offset : Int) : Bytes :=
  if offset == 0 then [byte 'Z']
  else
    let minutes := offset.tdiv 60
    (if minutes < 0 then byte '-' else byte '+') :: Decimal.padded (minutes.natAbs / 60) 2
      ++ bytes ":" ++ Decimal.padded (minutes.natAbs % 60) 2

/-- The fraction of a second, without trailing zeros. -/
def fractionText (nanos : Nat) : Bytes :=
  if nanos == 0 then []
  else byte '.' :: Bytes.dropEndWhile (Decimal.padded nanos 9) (· == byte '0')

/-- Date and time of day with a mark between them. -/
def markedText (mark : UInt8) (time : Timestamp) : Bytes :=
  let date := time.date
  let second := time.secondOfDay
  yearText date.year ++ bytes "-" ++ Decimal.padded date.month 2 ++ bytes "-"
    ++ Decimal.padded date.day 2 ++ mark :: Decimal.padded (second / 3600) 2 ++ bytes ":"
    ++ Decimal.padded (second / 60 % 60) 2 ++ bytes ":" ++ Decimal.padded (second % 60) 2

/-- Date and time of day. -/
def clockText (time : Timestamp) : Bytes := time.markedText (byte 'T')

/-- The text of a time to the second. -/
def text (time : Timestamp) : Bytes := time.clockText ++ zoneText time.offset

/-- The text of a time to the nanosecond. -/
def preciseText (time : Timestamp) : Bytes :=
  time.clockText ++ fractionText time.nanos ++ zoneText time.offset

/-- The hours and minutes of an offset. -/
def offsetText (offset : Int) : Bytes :=
  let minutes := offset.tdiv 60
  (if minutes < 0 then byte '-' else byte '+') :: Decimal.padded (minutes.natAbs / 60) 2
    ++ Decimal.padded (minutes.natAbs % 60) 2

/-- The text of a time for people: date, time, offset, and the name of the zone, which is the offset once
more unless there is none. -/
def plainText (time : Timestamp) : Bytes :=
  time.markedText (byte ' ') ++ fractionText time.nanos ++ bytes " " ++ offsetText time.offset
    ++ bytes " " ++ (if time.offset == 0 then bytes "UTC" else offsetText time.offset)

/-- Why a time has no text that can be read back. -/
inductive Unwritable where
  | year
  | zone
deriving Repr, DecidableEq

/-- The message about a time that cannot be written. -/
def Unwritable.message : Unwritable → Bytes
  | .year => bytes "year outside of range [0,9999]"
  | .zone => bytes "timezone hour outside of range [0,23]"

/-- The exact text of a time of which all parts have their usual widths. -/
def write (time : Timestamp) : Except Unwritable Bytes :=
  let year := time.date.year
  if year < 0 || year > 9999 then .error .year
  else if time.offset.natAbs ≥ 24 * 3600 then .error .zone
  else .ok time.preciseText

/-! ## Reading -/

/-- The form of a time, as messages name it. -/
def form : Bytes := bytes "2006-01-02T15:04:05Z07:00"

/-- Why a text is no time. -/
inductive Problem where
  /-- Something else than a part of the form was found. -/
  | expected (rest piece : Bytes)
  /-- A part is out of its range. -/
  | outOfRange (part : Bytes)
  /-- There is text after the time. -/
  | extraText (rest : Bytes)
deriving Repr, DecidableEq

/-- The form of a time with a fraction, as messages name it. -/
def preciseForm : Bytes := bytes "2006-01-02T15:04:05.999999999Z07:00"

/-- The message of a problem with a text that should have the form `form`. -/
def Problem.messageAs (form text : Bytes) : Problem → Bytes
  | .expected rest piece =>
    bytes "parsing time " ++ Duration.quote text ++ bytes " as " ++ Duration.quote form
      ++ bytes ": cannot parse " ++ Duration.quote rest ++ bytes " as " ++ Duration.quote piece
  | .outOfRange part =>
    bytes "parsing time " ++ Duration.quote text ++ bytes ": " ++ part ++ bytes " out of range"
  | .extraText rest =>
    bytes "parsing time " ++ Duration.quote text ++ bytes ": extra text: " ++ Duration.quote rest

/-- The message of a problem with a text. -/
def Problem.message (text : Bytes) (problem : Problem) : Bytes := problem.messageAs form text

/-- The mark `piece` at the start of the text, and the rest. -/
def readMark (piece : UInt8) : Bytes → Except Problem Bytes
  | b :: rest => if b == piece then .ok rest else .error (.expected (b :: rest) [piece])
  | [] => .error (.expected [] [piece])

/-- Two digits at the start of the text. -/
def twoDigits? : Bytes → Option (Nat × Bytes)
  | a :: b :: rest =>
    if Bytes.isDigit a && Bytes.isDigit b then
      some ((a.toNat - 48) * 10 + (b.toNat - 48), rest)
    else none
  | _ => none

/-- One or two digits at the start of the text. -/
def oneOrTwoDigits? : Bytes → Option (Nat × Bytes)
  | [] => none
  | a :: rest =>
    match twoDigits? (a :: rest) with
    | some found => some found
    | none => if Bytes.isDigit a then some (a.toNat - 48, rest) else none

/-- A number that the reader `digits` finds and that `isFine` accepts. -/
def readPart (digits : Bytes → Option (Nat × Bytes)) (piece part : Bytes) (isFine : Nat → Bool)
    (text : Bytes) : Except Problem (Nat × Bytes) :=
  match digits text with
  | none => .error (.expected text piece)
  | some (n, rest) => if isFine n then .ok (n, rest) else .error (.outOfRange part)

/-- The year: four digits. -/
def readYear (text : Bytes) : Except Problem (Nat × Bytes) :=
  match text.take 4 with
  | [a, b, c, d] =>
    match Decimal.toNat? [a, b, c, d] with
    | some year => .ok (year, text.drop 4)
    | none => .error (.expected text (bytes "2006"))
  | _ => .error (.expected text (bytes "2006"))

/-- The nanoseconds of a fraction's digits. Digits after the ninth do not count. -/
def fractionNanos (digits : Bytes) : Nat :=
  Duration.digitsValue (digits.take 9) * Nat.pow 10 (9 - (digits.take 9).length)

/-- A fraction of a second: a point or a comma before one or more digits. -/
def readFraction : Bytes → Nat × Bytes
  | mark :: digit :: rest =>
    if (mark == byte '.' || mark == byte ',') && Bytes.isDigit digit then
      let (digits, rest) := (digit :: rest).span Bytes.isDigit
      (fractionNanos digits, rest)
    else (0, mark :: digit :: rest)
  | text => (0, text)

/-- The form of a zone, as messages name it. -/
def zoneForm : Bytes := bytes "Z07:00"

/-- The zone: `Z`, or a sign, two digits of hours, a colon and two digits of minutes. -/
def readZone (text : Bytes) : Except Problem (Int × Bytes) :=
  match text with
  | 0x5A :: rest => .ok (0, rest)
  | sign :: h1 :: h2 :: colon :: m1 :: m2 :: rest =>
    if colon != byte ':' then .error (.expected text zoneForm)
    else match twoDigits? [h1, h2], twoDigits? [m1, m2] with
      | some (hours, _), some (minutes, _) =>
        if minutes > 60 then .error (.outOfRange (bytes "time zone offset minute"))
        else if hours > 24 then .error (.outOfRange (bytes "time zone offset hour"))
        else if sign == byte '+' then .ok (((hours * 60 + minutes) * 60 : Nat), rest)
        else if sign == byte '-' then .ok (-((hours * 60 + minutes) * 60 : Nat), rest)
        else .error (.expected text zoneForm)
      | some (hours, _), none =>
        if hours > 24 then .error (.outOfRange (bytes "time zone offset hour"))
        else .error (.expected text zoneForm)
      | none, _ => .error (.expected text zoneForm)
  | _ => .error (.expected text zoneForm)

/-- The time that a text stands for. Whether the month has such a day is looked at last. -/
def parse (text : Bytes) : Except Problem Timestamp := do
  let (year, rest) ← readYear text
  let rest ← readMark (byte '-') rest
  let (month, rest) ← readPart twoDigits? (bytes "01") (bytes "month")
    (fun n => 1 ≤ n && n ≤ 12) rest
  let rest ← readMark (byte '-') rest
  let (day, rest) ← readPart twoDigits? (bytes "02") (bytes "day") (fun _ => true) rest
  let rest ← readMark (byte 'T') rest
  let (hour, rest) ← readPart oneOrTwoDigits? (bytes "15") (bytes "hour") (· < 24) rest
  let rest ← readMark (byte ':') rest
  let (minute, rest) ← readPart twoDigits? (bytes "04") (bytes "minute") (· < 60) rest
  let rest ← readMark (byte ':') rest
  let (second, rest) ← readPart twoDigits? (bytes "05") (bytes "second") (· < 60) rest
  let (nanos, rest) := readFraction rest
  let (offset, rest) ← readZone rest
  if !rest.isEmpty then throw (.extraText rest)
  if day < 1 || day > Calendar.daysIn year month then throw (.outOfRange (bytes "day"))
  let days := Calendar.dayNumber ⟨year, month, day⟩
  return ⟨days * daySeconds + (hour * 3600 + minute * 60 + second : Nat) - offset, nanos, offset⟩

end Timestamp

end FunctionChain
