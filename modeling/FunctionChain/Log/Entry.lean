import FunctionChain.Failure.Error
import FunctionChain.Log.Level
import FunctionChain.Text.Quoted
import FunctionChain.Time.Timestamp

/-!
# Log entries

A log entry has a time, a level, a message and named values. It is written on a line, either for
reading, in columns with the values at the end, or as one JSON record. Both write the values in
JSON; the first puts a blank after each colon and comma.
-/

namespace FunctionChain

namespace Log

/-- A value of an entry. -/
inductive Value where
  | text (content : Bytes)
  | texts (items : List Bytes)
  | int (n : Int)
  | duration (d : Duration)
  | time (t : Timestamp)
  /-- The errors that an error combines. -/
  | causes (messages : List Bytes)
deriving Repr, DecidableEq

/-- One thing to tell. -/
structure Entry where
  level : Level
  message : Bytes
  fields : List (Bytes × Value)
deriving Repr, DecidableEq

/-- The fields of an error: its text and, when it combines several, theirs. -/
def errorFields (error : Error) : List (Bytes × Value) :=
  (bytes "error", .text error.text) ::
    match error with
    | .combined errors => [(bytes "errorCauses", .causes (Error.texts errors))]
    | _ => []

/-! ## Writing -/

/-- The forms of a log. -/
inductive Format where
  | console
  | json
deriving Repr, DecidableEq

/-- The form of a name. -/
def Format.ofName? (name : Bytes) : Option Format :=
  if name.isEmpty || name == bytes "auto" || name == bytes "console" then some .console
  else if name == bytes "json" then some .json
  else none

/-- The message for a name that no form has. -/
def Format.unknownMessage (name : Bytes) : Bytes :=
  bytes "unknown log format " ++ Quoted.quote name
    ++ bytes "; supported formats are console and json"

/-- The blank after colons and commas, in the form that has one. -/
def Format.gap : Format → Bytes
  | .console => bytes " "
  | .json => []

/-- A character inside a string. -/
def escapePiece : Utf8.Piece → Bytes
  | .stray _ => bytes "\\ufffd"
  | .char code spelling =>
    if code == 0x22 || code == 0x5C then 0x5C :: spelling
    else if code == 10 then bytes "\\n"
    else if code == 13 then bytes "\\r"
    else if code == 9 then bytes "\\t"
    else if code < 0x20 then bytes "\\u" ++ Hex.padded code 4
    else spelling

/-- A text as a string. -/
def stringText (text : Bytes) : Bytes :=
  byte '"' :: (Utf8.pieces text).flatMap escapePiece ++ [byte '"']

/-- Values between brackets. -/
def listText (format : Format) (items : List Bytes) : Bytes :=
  0x5B :: Bytes.joined (byte ',' :: format.gap) items ++ [0x5D]

/-- A name and a value. -/
def memberText (format : Format) (name value : Bytes) : Bytes :=
  stringText name ++ byte ':' :: format.gap ++ value

/-- A time, to the second and without offset. -/
def timeText (time : Timestamp) : Bytes := time.toUtc.text

/-- A value of an entry. -/
def Value.write (format : Format) : Value → Bytes
  | .text content => stringText content
  | .texts items => listText format (items.map stringText)
  | .int n => Decimal.ofInt n
  | .duration d => stringText (Duration.text d)
  | .time t => stringText (timeText t)
  | .causes messages =>
    listText format (messages.map fun message =>
      0x7B :: memberText format (bytes "error") (stringText message) ++ [0x7D])

/-- The names and values of an entry, one after another. -/
def membersText (format : Format) (fields : List (Bytes × Value)) : Bytes :=
  Bytes.joined (byte ',' :: format.gap)
    (fields.map fun (name, value) => memberText format name (value.write format))

/-- The line of an entry. -/
def Entry.line (format : Format) (time : Timestamp) (entry : Entry) : Bytes :=
  match format with
  | .console =>
    timeText time ++ bytes "\t" ++ entry.level.name ++ bytes "\t" ++ entry.message
      ++ (if entry.fields.isEmpty then []
        else bytes "\t\x7b" ++ membersText format entry.fields ++ [0x7D])
      ++ bytes "\n"
  | .json =>
    0x7B :: membersText format
      ((bytes "level", .text entry.level.name) :: (bytes "ts", .text (timeText time))
        :: (bytes "msg", .text entry.message) :: entry.fields)
      ++ bytes "\x7d\n"

/-! ## Logs -/

/-- How a log is written, and from which level on. -/
structure Config where
  format : Format
  level : Level
deriving Repr, DecidableEq

/-- The lines of the entries that are grave enough, all of one time. -/
def Config.lines (config : Config) (time : Timestamp) (entries : List Entry) : Bytes :=
  (entries.filter fun entry => config.level.rank ≤ entry.level.rank).flatMap
    (Entry.line config.format time)

end Log

end FunctionChain
