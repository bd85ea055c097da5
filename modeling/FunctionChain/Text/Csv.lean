import FunctionChain.Text.Decimal

/-!
# Records of fields

A list may be written as one record: fields between commas. A field that starts with a double quote
ends at the next one that is alone; inside, commas and line ends stand for themselves and a quote is
written twice. Blank lines before the record are passed over, and what follows the record's last line
is not looked at. A line may end in a carriage return and a line feed, which count as a line feed.
-/

namespace FunctionChain

namespace Csv

/-- Why a text is no record, with the place of the byte where that shows. -/
inductive Problem where
  /-- There is no line that is not blank. -/
  | nothing
  /-- A quote inside a field that does not start with one. -/
  | bareQuote (start line column : Nat)
  /-- A quote that neither ends the field nor is written twice, or a field without end. -/
  | strayQuote (start line column : Nat)
deriving Repr, DecidableEq

/-- The message about a place in a record that starts on a line. -/
def placeMessage (start line column : Nat) (what : Bytes) : Bytes :=
  (if start == line then [] else bytes "record on line " ++ Decimal.ofNat start ++ bytes "; ")
    ++ bytes "parse error on line " ++ Decimal.ofNat line ++ bytes ", column "
    ++ Decimal.ofNat column ++ bytes ": " ++ what

/-- The message of a problem. -/
def Problem.message : Problem → Bytes
  | .nothing => bytes "EOF"
  | .bareQuote start line column =>
    placeMessage start line column (bytes "bare \" in non-quoted-field")
  | .strayQuote start line column =>
    placeMessage start line column (bytes "extraneous or missing \" in quoted-field")

/-! ## Lines -/

/-- A line as it is read: with its line feed, and without a carriage return before it. -/
def normalLine (line : Bytes) : Bytes :=
  match line.reverse with
  | 10 :: 13 :: rest => (10 :: rest).reverse
  | _ => line

/-- The last line, which has no line feed. A carriage return at its end is dropped. -/
def lastLine (line : Bytes) : Bytes :=
  match line.reverse with
  | 13 :: rest => rest.reverse
  | _ => line

/-- The lines of a text, from the bytes of the line under way in reverse. -/
def linesFrom : Bytes → Bytes → List Bytes
  | current, [] => if current.isEmpty then [] else [lastLine current.reverse]
  | current, b :: rest =>
    if b == 10 then normalLine (b :: current).reverse :: linesFrom [] rest
    else linesFrom (b :: current) rest

/-- The lines of a text. -/
def lines (text : Bytes) : List Bytes := linesFrom [] text

/-- Whether a line is blank: it has nothing before its line feed. -/
def isBlankLine (line : Bytes) : Bool := line.isEmpty || line == [10]

/-! ## Fields -/

/-- What the reader is in the middle of. -/
inductive Part where
  /-- Before the first byte of a field. -/
  | start
  /-- In a field without quotes, with its bytes in reverse. -/
  | plain (field : Bytes)
  /-- In a field with quotes. -/
  | quoted (field : Bytes)
  /-- After a quote in a field with quotes. -/
  | afterQuote (field : Bytes)

/-- The reader: the fields that are complete in reverse, and what it is in the middle of. -/
structure Reader where
  fields : List Bytes
  part : Part

/-- The outcome of one step of the reader. -/
inductive Step where
  | next (reader : Reader)
  /-- The record is complete. -/
  | done (fields : List Bytes)
  | bareQuote
  | strayQuote

/-- A byte in a field without quotes. -/
def plainStep (fields : List Bytes) (field : Bytes) (b : UInt8) : Step :=
  if b == byte ',' then .next ⟨field.reverse :: fields, .start⟩
  else if b == 10 then .done (field.reverse :: fields).reverse
  else if b == 0x22 then .bareQuote
  else .next ⟨fields, .plain (b :: field)⟩

/-- One step of the reader. -/
def step (reader : Reader) (b : UInt8) : Step :=
  match reader.part with
  | .start =>
    if b == 0x22 then .next ⟨reader.fields, .quoted []⟩ else plainStep reader.fields [] b
  | .plain field => plainStep reader.fields field b
  | .quoted field =>
    if b == 0x22 then .next ⟨reader.fields, .afterQuote field⟩
    else .next ⟨reader.fields, .quoted (b :: field)⟩
  | .afterQuote field =>
    if b == 0x22 then .next ⟨reader.fields, .quoted (b :: field)⟩
    else if b == byte ',' then .next ⟨field.reverse :: reader.fields, .start⟩
    else if b == 10 then .done (field.reverse :: reader.fields).reverse
    else .strayQuote

/-- The record of a text that ends here, unless it ends inside quotes. -/
def Reader.finish (reader : Reader) : Option (List Bytes) :=
  match reader.part with
  | .start => some ([] :: reader.fields).reverse
  | .plain field | .afterQuote field => some (field.reverse :: reader.fields).reverse
  | .quoted _ => none

/-- Run the reader over the bytes of a record that starts on a line. -/
def readFrom (start : Nat) : Nat → Nat → Reader → Bytes → Except Problem (List Bytes)
  | line, column, reader, [] =>
    match reader.finish with
    | some fields => .ok fields
    | none => .error (.strayQuote start line column)
  | line, column, reader, b :: rest =>
    match step reader b with
    | .done fields => .ok fields
    | .bareQuote => .error (.bareQuote start line column)
    | .strayQuote => .error (.strayQuote start line (column - 1))
    | .next reader =>
      if b == 10 && !rest.isEmpty then readFrom start (line + 1) 1 reader rest
      else readFrom start line (column + 1) reader rest

/-- The fields of the record that a text starts with. -/
def read (text : Bytes) : Except Problem (List Bytes) :=
  let all := lines text
  let blank := (all.takeWhile isBlankLine).length
  match all.drop blank with
  | [] => .error .nothing
  | record => readFrom (blank + 1) (blank + 1) 1 ⟨[], .start⟩ record.flatten

/-- The entries of a list that is written as a record. Nothing is the empty list. -/
def entries (text : Bytes) : Except Problem (List Bytes) :=
  if text.isEmpty then .ok [] else read text

/-- The entries of a list once they were written as a record and read again: a lone empty entry is
lost, and line ends are line feeds. -/
def settled (list : List Bytes) : List Bytes :=
  if list == [[]] then [] else list.map fun entry => entry.replaceAll [13, 10] [10]

end Csv

end FunctionChain
