import FunctionChain.Text.Decimal
import FunctionChain.Text.Utf8

/-!
# Writing JSON

The form in which results, traces and archive files are written. Strings escape the quote, the
backslash and control characters, further the three characters that matter inside markup and the two
line separators; what is no UTF-8 is written as an escaped replacement character. A record is
written either without any white space or with one member per line.
-/

namespace FunctionChain

namespace Json

/-- The escape of a character inside a string, if it is not written as it is. -/
def escape? (code : Nat) : Option Bytes :=
  if code == 0x22 then some (bytes "\\\"")
  else if code == 0x5C then some (bytes "\\\\")
  else if code == 8 then some (bytes "\\b")
  else if code == 12 then some (bytes "\\f")
  else if code == 10 then some (bytes "\\n")
  else if code == 13 then some (bytes "\\r")
  else if code == 9 then some (bytes "\\t")
  else if code < 0x20 || code == 0x3C || code == 0x3E || code == 0x26
      || code == 0x2028 || code == 0x2029 then
    some (bytes "\\u" ++ Hex.padded code 4)
  else none

/-- A piece of text inside a string. -/
def escapePiece : Utf8.Piece → Bytes
  | .char code spelling => (escape? code).getD spelling
  | .stray _ => bytes "\\ufffd"

/-- The written form of a text, between the quotes. -/
def escaped (text : Bytes) : Bytes := (Utf8.pieces text).flatMap escapePiece

/-- A text as a JSON string. -/
def ofText (text : Bytes) : Bytes := byte '"' :: escaped text ++ [byte '"']

/-- A member of a record that is written out: its name and the text of its value. -/
abbrev Field := Bytes × Bytes

/-- A record without white space. -/
def compactRecord (fields : List Field) : Bytes :=
  0x7B :: Bytes.joined (bytes ",")
    (fields.map fun (name, value) => ofText name ++ byte ':' :: value) ++ [0x7D]

/-- A flat record with two blanks before each member, and a newline at the end. -/
def indentedRecord (fields : List Field) : Bytes :=
  bytes "\x7b\n" ++ Bytes.joined (bytes ",\n")
    (fields.map fun (name, value) => bytes "  " ++ ofText name ++ bytes ": " ++ value)
    ++ bytes "\n\x7d\n"

end Json

end FunctionChain
