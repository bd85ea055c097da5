import FunctionChain.Settings.Value

/-!
# Configuration in sections

Lines with a key and a value stand in sections. The name of an entry is that of its section, a dot and the
key, where the lines before the first section are in one of their own.

A value in backquotes or in three double quotes may go over several lines, and so may one whose lines end
in a backslash.
-/

namespace FunctionChain

namespace Settings

namespace IniFile

/-- Why a text is no configuration. -/
inductive Problem where
  | unclosedSection (line : Bytes)
  | namelessSection
  /-- A key in quotes that do not close. -/
  | unclosedKey (line : Bytes)
  /-- A line without a sign between key and value. -/
  | unparted (line : Bytes)
  | namelessKey
  /-- A value in quotes that do not close, with its first and its last line. -/
  | unclosedValue (first last : Bytes)
deriving Repr, DecidableEq

/-- The message of a problem. -/
def Problem.message : Problem → Bytes
  | .unclosedSection line => bytes "unclosed section: " ++ line
  | .namelessSection => bytes "error creating new section: empty section name"
  | .unclosedKey line => bytes "missing closing key quote: " ++ line
  | .unparted line => bytes "key-value delimiter not found: " ++ line
  | .namelessKey => bytes "error creating new key: empty key name"
  | .unclosedValue first last =>
    bytes "missing closing key quote from '" ++ first ++ bytes "' to '" ++ last ++ bytes "'"

/-! ## Lines -/

/-- The lines of a text, each with the character that ends it. What stands behind the last one is a line
too, if only an empty one. -/
def lines : Bytes → List Bytes
  | [] => [[]]
  | b :: rest =>
    if b == 0x0A then [b] :: lines rest
    else
      match lines rest with
      | first :: more => (b :: first) :: more
      | [] => [[b]]

/-- A text without a mark of the byte order before it. -/
def withoutMark : Bytes → Bytes
  | 0xFE :: 0xFF :: rest => rest
  | 0xFF :: 0xFE :: rest => rest
  | 0xEF :: 0xBB :: 0xBF :: rest => rest
  | text => text

/-- A text without white space before it. -/
def withoutIndent (text : Bytes) : Bytes :=
  ((Utf8.pieces text).dropWhile Blank.isBlankPiece).flatMap (·.bytes)

/-- The three quotes around a long text. -/
def longQuote : Bytes := bytes "\"\"\""

/-! ## Keys -/

/-- What stands before the first place at which a part begins, and what stands behind the part. -/
def cutAt? (part : Bytes) : Bytes → Option (Bytes × Bytes)
  | [] => none
  | b :: rest =>
    match Bytes.after? (b :: rest) part with
    | some behind => some ([], behind)
    | none => (cutAt? part rest).map fun (before, behind) => (b :: before, behind)

/-- What stands before the last place at which a part begins. -/
def cutAtLast? (part : Bytes) : Bytes → Option Bytes
  | [] => none
  | b :: rest =>
    match cutAtLast? part rest with
    | some before => some (b :: before)
    | none => if Bytes.startsWith (b :: rest) part then some [] else none

/-- Whether a byte stands between a key and its value. -/
def isSign (b : UInt8) : Bool := b == byte '=' || b == byte ':'

/-- The quotes that a line begins with, if it does. -/
def keyQuote? (line : Bytes) : Option Bytes :=
  match line with
  | 0x22 :: _ =>
    some (if line.length > 6 && line.startsWith longQuote then longQuote else [0x22])
  | 0x60 :: _ => some [0x60]
  | _ => none

/-- The key of a line, and what stands behind the sign after it. -/
def key (line : Bytes) : Except Problem (Bytes × Bytes) :=
  match keyQuote? line with
  | some quote =>
    match cutAt? quote (line.drop quote.length) with
    | none => .error (.unclosedKey line)
    | some (name, behind) =>
      match behind.dropWhile (!isSign ·) with
      | [] => .error (.unparted line)
      | _ :: value => .ok (Blank.trimmed name, value)
  | none =>
    match line.dropWhile (!isSign ·) with
    | [] => .error (.unparted line)
    | _ :: value => .ok (Blank.trimmed (line.takeWhile (!isSign ·)), value)

/-! ## Values -/

/-- The rest of a value in quotes that began in the line `first`, and the lines behind it. -/
def longValue (quote first : Bytes) : Bytes → List Bytes → Except Problem (Bytes × List Bytes)
  | _, [] => .error (.unclosedValue first [])
  | sofar, [next] =>
    match cutAtLast? quote next with
    | some part => .ok (sofar ++ part, [])
    | none => .error (.unclosedValue first next)
  | sofar, next :: rest =>
    match cutAtLast? quote next with
    | some part => .ok (sofar ++ part, rest)
    | none => longValue quote first (sofar ++ next) rest

/-- A value that goes on in the next lines, and the lines behind it. -/
def continued : Bytes → List Bytes → Bytes × List Bytes
  | sofar, [] => (sofar, [])
  | sofar, next :: rest =>
    match Blank.trimmed next with
    | [] => (sofar, rest)
    | more =>
      let value := sofar ++ more
      if value.getLast? == some 0x5C then continued value.dropLast rest else (value, rest)

/-- A value without the quotes around it. -/
def unquoted (value : Bytes) : Bytes :=
  match value with
  | first :: rest =>
    if (first == 0x22 || first == 0x27) && rest.getLast? == some first && !rest.dropLast.contains first
    then rest.dropLast else value
  | [] => []

/-- The value that begins in what follows a sign, and the lines behind it. A comment may follow it. -/
def value (written : Bytes) (rest : List Bytes) : Except Problem (Bytes × List Bytes) :=
  let text := withoutIndent written
  let quote :=
    if text.length > 3 && text.startsWith longQuote then longQuote
    else if text.head? == some 0x60 then [0x60]
    else []
  if text.isEmpty then .ok ([], rest)
  else if !quote.isEmpty then
    let inner := text.drop quote.length
    match cutAtLast? quote inner with
    | some content => .ok (content, rest)
    | none => longValue quote text inner rest
  else
    let plain := Blank.trimmed text
    if plain.getLast? == some 0x5C then .ok (continued plain.dropLast rest)
    else
      let content := plain.takeWhile fun b => b != byte '#' && b != byte ';'
      .ok (unquoted (if content.length < plain.length then Blank.trimmed content else plain), rest)

/-! ## Files -/

/-- The section of the lines before the first section. -/
def firstSection : Bytes := bytes "DEFAULT"

/-- The entries of lines that stand in a section. A key that is a dash counts up from one. The fuel is the
number of lines. -/
def entriesFrom :
    Nat → Bytes → Nat → List Bytes → List (Bytes × Bytes) → Except Problem (List (Bytes × Bytes))
  | fuel + 1, name, count, next :: rest, entries =>
    let line := withoutIndent next
    match line with
    | [] => entriesFrom fuel name count rest entries
    | first :: inner =>
      if first == byte '#' || first == byte ';' then entriesFrom fuel name count rest entries
      else if first == byte '[' then
        match cutAtLast? [byte ']'] inner with
        | none => .error (.unclosedSection line)
        | some [] => .error .namelessSection
        | some name => entriesFrom fuel name 1 rest entries
      else do
        let (found, written) ← key line
        let isCounted := found == [byte '-']
        let (content, rest) ← value written rest
        if found.isEmpty then throw .namelessKey
        let label := if isCounted then byte '#' :: Decimal.ofNat count else found
        entriesFrom fuel name (if isCounted then count + 1 else count) rest
          (entries ++ [(name ++ [byte '.'] ++ label, content)])
  | _, _, _, _, entries => .ok entries

/-- Read a configuration. -/
def read (text : Bytes) : Except Problem Table := do
  let parts := lines (withoutMark text)
  let entries ← entriesFrom parts.length firstSection 1 parts []
  return entries.map fun (name, content) => (name, .text content)

end IniFile

end Settings

end FunctionChain
