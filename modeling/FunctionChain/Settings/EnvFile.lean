import FunctionChain.Settings.Value

/-!
# Configuration as lines of assignments

Every line of the file gives a name its value, as a shell would: `NAME=value`, also with `export` before it,
or `NAME: value`. A value may stand in quotes, a comment may follow it, and names after a dollar sign stand
for what was assigned to them before, or for variables of the environment.
-/

namespace FunctionChain

namespace Settings

namespace EnvFile

/-- Why a text is no configuration. -/
inductive Problem where
  /-- A line that exports a name without a value. -/
  | unset (line : Bytes)
  | malformed (line : Bytes)
deriving Repr, DecidableEq

/-- The message of a problem. -/
def Problem.message : Problem → Bytes
  | .unset line => bytes "line `" ++ line ++ bytes "` has an unset variable"
  | .malformed line => bytes "line `" ++ line ++ bytes "` doesn't match format"

/-! ## Lines -/

/-- The length from which on a line is too long to be read. -/
def lineLimit : Nat := 65536

/-- A line without the carriage return that may end it. -/
def withoutReturn (line : Bytes) : Bytes :=
  if line.getLast? == some 0x0D then line.dropLast else line

/-- The lines of a text, up to the first one that is too long. -/
def lines (text : Bytes) : List Bytes :=
  let parts := text.splitOn 0x0A
  let complete := if parts.getLast? == some [] then parts.dropLast else parts
  (complete.takeWhile (·.length < lineLimit)).map withoutReturn

/-- The mark that may stand before the first line. -/
def byteOrderMark : Bytes := [0xEF, 0xBB, 0xBF]

/-- The lines of a file, without a mark of the byte order. -/
def fileLines (text : Bytes) : List Bytes :=
  match lines text with
  | [] => []
  | first :: rest => (Bytes.after? first byteOrderMark).getD first :: rest

/-! ## Assignments -/

/-- Whether a byte is white space of a line. -/
def isSpace (b : UInt8) : Bool := [0x09, 0x0A, 0x0C, 0x0D, 0x20].contains b

/-- Whether a byte can be part of a name. -/
def isNameByte (b : UInt8) : Bool :=
  Bytes.isDigit b || Bytes.isUpper b || Bytes.isLower b || b == byte '_' || b == byte '.'

/-- Whether only white space and a comment stand there. -/
def isComment (rest : Bytes) : Bool :=
  match rest.dropWhile isSpace with
  | [] => true
  | b :: _ => b == byte '#'

/-- The number of bytes up to the last closing quote after which only a comment stands. -/
def closing? (mark : UInt8) : Nat → Bytes → Option Nat
  | _, [] => none
  | n, b :: rest =>
    (closing? mark (n + 1) rest).or (if b == mark && isComment rest then some (n + 1) else none)

/-- The value that stands at the beginning of a text, with its quotes. -/
def writtenValue (text : Bytes) : Bytes :=
  let plain := text.takeWhile (· != byte '#')
  match text with
  | mark :: rest =>
    if mark == byte '\'' || mark == byte '"' then
      ((closing? mark 1 rest).map fun n => text.take n).getD plain
    else plain
  | [] => []

/-- The name and the value of an assignment. After a colon, a blank has to follow. -/
def assignment? (text : Bytes) : Option (Bytes × Bytes) :=
  let name := text.takeWhile isNameByte
  let rest := text.drop name.length
  if name.isEmpty then none
  else
    match rest.dropWhile isSpace, rest with
    | 0x3D :: value, _ => some (name, writtenValue (value.dropWhile isSpace))
    | _, 0x3A :: blank :: value =>
      if isSpace blank then some (name, writtenValue value) else none
    | _, _ => none

/-- The assignment of a line, which may be marked as exported. -/
def entry? (line : Bytes) : Option (Bytes × Bytes) :=
  let text := line.dropWhile isSpace
  let exported :=
    match Bytes.after? text (bytes "export") with
    | some (b :: rest) => if isSpace b then assignment? (rest.dropWhile isSpace) else none
    | _ => none
  exported.or (assignment? text)

/-! ## Values -/

/-- A value without quotes around it. -/
def unquoted (value : Bytes) : Bytes :=
  let isMark (b : UInt8) : Bool := b == byte '\'' || b == byte '"'
  match value with
  | first :: rest =>
    if isMark first && (rest.getLast?.map isMark).getD false then rest.dropLast else value
  | [] => []

/-- A value without its backslashes, other than those before dollar signs. -/
def unescaped : Bytes → Bytes
  | 0x5C :: b :: rest => if b == byte '$' then 0x5C :: b :: unescaped rest else b :: unescaped rest
  | b :: rest => b :: unescaped rest
  | [] => []

/-- Whether a byte can be part of a name after a dollar sign. -/
def isVariableByte (b : UInt8) : Bool := Bytes.isDigit b || Bytes.isUpper b || b == byte '_'

/-- The mention of a name at the beginning of what follows a dollar sign: how it is written, and the
name. -/
def mention (rest : Bytes) : Bytes × Bytes :=
  let opening := rest.take (if rest.head? == some (byte '\x7b') then 1 else 0)
  let inner := rest.drop opening.length
  let name := inner.takeWhile isVariableByte
  let behind := inner.drop name.length
  (opening ++ name ++ behind.take (if behind.head? == some (byte '\x7d') then 1 else 0), name)

/-- A value with what its names stand for. A backslash before a dollar sign keeps the sign. The fuel is the
length of the value. -/
def expanded (valueOf : Bytes → Bytes) (isLiteral : Bool) : Nat → Bytes → Bytes
  | 0, text => text
  | fuel + 1, text =>
    match text with
    | 0x5C :: 0x24 :: rest =>
      let written := (mention rest).1
      byte '$' :: written ++ expanded valueOf isLiteral fuel (rest.drop written.length)
    | 0x24 :: rest =>
      let (written, name) := mention rest
      (if isLiteral || name.isEmpty then byte '$' :: written else valueOf name)
        ++ expanded valueOf isLiteral fuel (rest.drop written.length)
    | b :: rest => b :: expanded valueOf isLiteral fuel rest
    | [] => []

/-- A value without the spaces around it. -/
def withoutSpaces (value : Bytes) : Bytes :=
  Bytes.dropEndWhile (value.dropWhile (· == 0x20)) (· == 0x20)

/-- The meaning of a value as it is written. -/
def meaning (valueOf : Bytes → Bytes) (written : Bytes) : Bytes :=
  let inner := unquoted (withoutSpaces written)
  let text :=
    if written.head? == some (byte '"') then
      unescaped ((inner.replaceAll (bytes "\\n") [0x0A]).replaceAll (bytes "\\r") [0x0D])
    else inner
  expanded valueOf (written.head? == some (byte '\'')) text.length text

/-! ## Files -/

/-- What is wrong with a line that is no assignment, if it is not empty or a comment. -/
def problemOf? (table : List (Bytes × Bytes)) (line : Bytes) : Option Problem :=
  let text := Blank.trimmed line
  if text.isEmpty || text.head? == some (byte '#') then none
  else
    match text.startsWith (bytes "export"), Bytes.cut? text 0x20 with
    | true, some (_, name) =>
      if (table.lookup name).isSome then some (.malformed line) else some (.unset text)
    | _, _ => some (.malformed line)

/-- Take a line into a table, in which the newest entry of a name stands first. A value without double
quotes ends at a carriage return if there is an equals sign in it, and more lines may follow there. -/
def enter (environment : List (Bytes × Bytes)) :
    Nat → List (Bytes × Bytes) → Bytes → Except Problem (List (Bytes × Bytes))
  | 0, table, _ => .ok table
  | fuel + 1, table, line =>
    match entry? line with
    | none =>
      match problemOf? table line with
      | some problem => .error problem
      | none => .ok table
    | some (name, written) =>
      let valueOf (name : Bytes) : Bytes := ((table.lookup name).or (environment.lookup name)).getD []
      let value := meaning valueOf written
      if value.contains (byte '=') && written.head? != some (byte '"') then
        match value.splitOn 0x0D with
        | first :: more =>
          let table := more.foldl (fun table line =>
            (enter environment fuel table line).toOption.getD table) table
          .ok ((name, first) :: table)
        | [] => .ok ((name, value) :: table)
      else .ok ((name, value) :: table)

/-- Read a configuration, with the variables of the environment. -/
def read (environment : List (Bytes × Bytes)) (text : Bytes) : Except Problem Table := do
  let table ← (fileLines text).foldlM (fun table line => enter environment line.length.succ table line) []
  return table.reverse.map fun (name, value) => (name, .text value)

end EnvFile

end Settings

end FunctionChain
