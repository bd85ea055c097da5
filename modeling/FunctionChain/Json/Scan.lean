import FunctionChain.Json.Unquoted
import FunctionChain.Text.Quoted

/-!
# Scanning JSON

One value is read off the front of a byte text by a pushdown machine that takes a single step per
byte. Containers that are still open are kept as a stack of frames, so the nesting depth of a
document costs no call stack, and the run is a structural recursion over the bytes.

A value that is complete by itself, such as an object, ends at its last byte. A number at the top
ends at the first byte that cannot continue it. The first byte that fits nowhere is reported with
the place where it stands; a text that ends too early is reported as such.
-/

namespace FunctionChain

namespace Json

/-- The deepest nesting of containers that is accepted. -/
def maxDepth : Nat := 10000

/-- Where a byte was when it turned out not to fit. -/
inductive Place where
  | valueStart
  | keyStart
  | afterKey
  | afterMember
  | afterElement
  | inString
  | inEscape
  | inHexEscape
  | inNumber
  | afterPoint
  | inExponent
  /-- Inside one of the words `true`, `false` and `null`, before the given letter. -/
  | inWord (word : Bytes) (expected : UInt8)
  | tooDeep
deriving Repr, DecidableEq

/-- A byte that cannot stand where it stands. -/
structure Fault where
  found : UInt8
  place : Place
deriving Repr, DecidableEq

/-- The description of a place in messages. -/
def Place.describe : Place → Bytes
  | .valueStart => bytes "looking for beginning of value"
  | .keyStart => bytes "looking for beginning of object key string"
  | .afterKey => bytes "after object key"
  | .afterMember => bytes "after object key:value pair"
  | .afterElement => bytes "after array element"
  | .inString => bytes "in string literal"
  | .inEscape => bytes "in string escape code"
  | .inHexEscape => bytes "in \\u hexadecimal character escape"
  | .inNumber => bytes "in numeric literal"
  | .afterPoint => bytes "after decimal point in numeric literal"
  | .inExponent => bytes "in exponent of numeric literal"
  | .inWord word expected =>
    bytes "in literal " ++ word ++ bytes " (expecting " ++ Quoted.quoteByte expected ++ bytes ")"
  | .tooDeep => bytes "exceeded max depth"

/-- The message for a byte that does not fit. -/
def Fault.message (fault : Fault) : Bytes :=
  bytes "invalid character " ++ Quoted.quoteByte fault.found ++ bytes " " ++ fault.place.describe

/-- A container that is still open, with what it holds so far in reverse. -/
inductive Frame where
  | array (items : List Json)
  /-- The name belongs to the member whose value is next, or being read. -/
  | object (members : List (Bytes × Json)) (name : Bytes)

/-- How far a number literal has been read. -/
inductive NumberPart where
  | minus
  | zero
  | integer
  | point
  | fraction
  | exponent
  | exponentSign
  | exponentDigits
deriving Repr, DecidableEq

/-- Whether a number literal may end here. -/
def NumberPart.isComplete : NumberPart → Bool
  | .zero | .integer | .fraction | .exponentDigits => true
  | .minus | .point | .exponent | .exponentSign => false

/-- How far a string has been read. -/
inductive StringPart where
  | plain
  | escape
  /-- Inside a `\u` escape, with so many digits still to come. -/
  | hex (missing : Nat)
deriving Repr, DecidableEq

/-- What the machine is reading. -/
inductive Expect where
  /-- A value must come. -/
  | value
  /-- The first element of an array, or its end. -/
  | firstElement
  /-- The first name of an object, or its end. -/
  | firstName
  /-- A name must come. -/
  | name
  /-- Inside a name. -/
  | inName (part : StringPart) (written : Bytes)
  /-- The colon after a name. -/
  | colon (name : Bytes)
  /-- Inside a string value. -/
  | inString (part : StringPart) (written : Bytes)
  /-- Inside a number. -/
  | inNumber (part : NumberPart) (literal : Bytes)
  /-- Inside a word: the letters that are still to come and the value it stands for. -/
  | inWord (word : Bytes) (missing : Bytes) (value : Json)
  /-- A value inside a container is complete: a comma or the end of the container. -/
  | afterValue (value : Json)

/-- The machine: the open containers, innermost first, and what is being read. -/
structure Scanner where
  opened : List Frame
  expect : Expect

/-- The outcome of one step. -/
inductive Step where
  | next (scanner : Scanner)
  /-- The top value is complete and the byte belongs to it. -/
  | done (value : Json)
  /-- The top value was complete before the byte. -/
  | doneBefore (value : Json)
  | fault (fault : Fault)

/-- JSON white space. -/
def isSpace (b : UInt8) : Bool := b == 0x20 || b == 0x09 || b == 0x0D || b == 0x0A

/-- Open one more container, unless there are too many. -/
def push (b : UInt8) (frames : List Frame) (frame : Frame) (expect : Expect) : Step :=
  if frames.length < maxDepth then .next ⟨frame :: frames, expect⟩
  else .fault ⟨b, .tooDeep⟩

/-- A value is complete together with the byte that ended it. -/
def complete (frames : List Frame) (value : Json) : Step :=
  match frames with
  | [] => .done value
  | _ :: _ => .next ⟨frames, .afterValue value⟩

/-- A byte where a value starts. -/
def startValue (frames : List Frame) (b : UInt8) : Step :=
  if b == 0x7B then push b frames (.object [] []) .firstName
  else if b == 0x5B then push b frames (.array []) .firstElement
  else if b == 0x22 then .next ⟨frames, .inString .plain []⟩
  else if b == byte '-' then .next ⟨frames, .inNumber .minus [b]⟩
  else if b == byte '0' then .next ⟨frames, .inNumber .zero [b]⟩
  else if Bytes.isDigit b then .next ⟨frames, .inNumber .integer [b]⟩
  else if b == byte 't' then .next ⟨frames, .inWord (bytes "true") (bytes "rue") (.bool true)⟩
  else if b == byte 'f' then .next ⟨frames, .inWord (bytes "false") (bytes "alse") (.bool false)⟩
  else if b == byte 'n' then .next ⟨frames, .inWord (bytes "null") (bytes "ull") .null⟩
  else .fault ⟨b, .valueStart⟩

/-- A byte after a complete value: white space, a comma, or the end of the container. -/
def afterValue (frames : List Frame) (value : Json) (b : UInt8) : Step :=
  match frames with
  | [] => .doneBefore value
  | .array items :: outer =>
    if isSpace b then .next ⟨frames, .afterValue value⟩
    else if b == byte ',' then .next ⟨.array (value :: items) :: outer, .value⟩
    else if b == 0x5D then complete outer (.array (value :: items).reverse)
    else .fault ⟨b, .afterElement⟩
  | .object members name :: outer =>
    if isSpace b then .next ⟨frames, .afterValue value⟩
    else if b == byte ',' then
      .next ⟨.object ((name, value) :: members) [] :: outer, .name⟩
    else if b == 0x7D then complete outer (.object ((name, value) :: members).reverse)
    else .fault ⟨b, .afterMember⟩

/-- What one byte does to the part of a string that is being read: go on, or end the string, or a
fault. -/
def stringStep (part : StringPart) (b : UInt8) : Except Fault (Option StringPart) :=
  match part with
  | .plain =>
    if b == 0x22 then .ok none
    else if b == 0x5C then .ok (some .escape)
    else if b < 0x20 then .error ⟨b, .inString⟩
    else .ok (some .plain)
  | .escape =>
    if b == byte 'u' then .ok (some (.hex 4))
    else if (bytes "bfnrt\\/\"").contains b then .ok (some .plain)
    else .error ⟨b, .inEscape⟩
  | .hex missing =>
    match Hex.value? b with
    | some _ => .ok (some (if missing ≤ 1 then .plain else .hex (missing - 1)))
    | none => .error ⟨b, .inHexEscape⟩

/-- What one byte does to the part of a number that is being read: `none` when the number cannot go
on with it. -/
def numberStep (part : NumberPart) (b : UInt8) : Except Fault (Option NumberPart) :=
  let isExponent := b == byte 'e' || b == byte 'E'
  match part with
  | .minus =>
    if b == byte '0' then .ok (some .zero)
    else if Bytes.isDigit b then .ok (some .integer)
    else .error ⟨b, .inNumber⟩
  | .zero =>
    if b == byte '.' then .ok (some .point)
    else if isExponent then .ok (some .exponent)
    else .ok none
  | .integer =>
    if Bytes.isDigit b then .ok (some .integer)
    else if b == byte '.' then .ok (some .point)
    else if isExponent then .ok (some .exponent)
    else .ok none
  | .point => if Bytes.isDigit b then .ok (some .fraction) else .error ⟨b, .afterPoint⟩
  | .fraction =>
    if Bytes.isDigit b then .ok (some .fraction)
    else if isExponent then .ok (some .exponent)
    else .ok none
  | .exponent =>
    if b == byte '+' || b == byte '-' then .ok (some .exponentSign)
    else if Bytes.isDigit b then .ok (some .exponentDigits)
    else .error ⟨b, .inExponent⟩
  | .exponentSign =>
    if Bytes.isDigit b then .ok (some .exponentDigits) else .error ⟨b, .inExponent⟩
  | .exponentDigits => if Bytes.isDigit b then .ok (some .exponentDigits) else .ok none

/-- Leave the innermost object, which has no member under way. -/
def closeObject (frames : List Frame) (b : UInt8) : Step :=
  match frames with
  | .object members _ :: outer => complete outer (.object members.reverse)
  | _ => .fault ⟨b, .keyStart⟩

/-- Go on to the value of a name in the innermost object. -/
def enterMember (frames : List Frame) (name : Bytes) (b : UInt8) : Step :=
  match frames with
  | .object members _ :: outer => .next ⟨.object members name :: outer, .value⟩
  | _ => .fault ⟨b, .afterKey⟩

/-- One step of the machine. -/
def step (scanner : Scanner) (b : UInt8) : Step :=
  let frames := scanner.opened
  match scanner.expect with
  | .value => if isSpace b then .next scanner else startValue frames b
  | .firstElement =>
    if isSpace b then .next scanner
    else if b == 0x5D then complete frames.tail (.array [])
    else startValue frames b
  | .firstName =>
    if isSpace b then .next scanner
    else if b == 0x7D then closeObject frames b
    else if b == 0x22 then .next ⟨frames, .inName .plain []⟩
    else .fault ⟨b, .keyStart⟩
  | .name =>
    if isSpace b then .next scanner
    else if b == 0x22 then .next ⟨frames, .inName .plain []⟩
    else .fault ⟨b, .keyStart⟩
  | .inName part written =>
    match stringStep part b with
    | .error fault => .fault fault
    | .ok none => .next ⟨frames, .colon written.reverse⟩
    | .ok (some part) => .next ⟨frames, .inName part (b :: written)⟩
  | .colon name =>
    if isSpace b then .next scanner
    else if b == byte ':' then enterMember frames name b
    else .fault ⟨b, .afterKey⟩
  | .inString part written =>
    match stringStep part b with
    | .error fault => .fault fault
    | .ok none => complete frames (.string written.reverse)
    | .ok (some part) => .next ⟨frames, .inString part (b :: written)⟩
  | .inNumber part literal =>
    match numberStep part b with
    | .error fault => .fault fault
    | .ok (some part) => .next ⟨frames, .inNumber part (b :: literal)⟩
    | .ok none => afterValue frames (.number literal.reverse) b
  | .inWord word missing value =>
    match missing with
    | [] => afterValue frames value b
    | expected :: rest =>
      if b != expected then .fault ⟨b, .inWord word expected⟩
      else if rest.isEmpty then complete frames value
      else .next ⟨frames, .inWord word rest value⟩
  | .afterValue value => afterValue frames value b

/-- The machine before the first byte. -/
def Scanner.start : Scanner := ⟨[], .value⟩

/-- What was found at the front of a text. -/
inductive Scanned where
  | value (value : Json) (rest : Bytes)
  /-- There was nothing but white space. -/
  | blank
  /-- The text ended inside a value. -/
  | truncated
  | fault (fault : Fault)

/-- What a text that ends here has brought. -/
def Scanner.finish (scanner : Scanner) : Scanned :=
  match scanner.opened, scanner.expect with
  | [], .value => .blank
  | [], .inNumber part literal =>
    if part.isComplete then .value (.number literal.reverse) [] else .truncated
  | _, _ => .truncated

/-- Run the machine over a text. -/
def scanFrom (scanner : Scanner) : Bytes → Scanned
  | [] => scanner.finish
  | b :: rest =>
    match step scanner b with
    | .next scanner => scanFrom scanner rest
    | .done value => .value value rest
    | .doneBefore value => .value value (b :: rest)
    | .fault fault => .fault fault

/-- Read one value off the front of a text. -/
def scan (text : Bytes) : Scanned := scanFrom .start text

end Json

end FunctionChain
