import FunctionChain.Settings.Toml.Lexer
import FunctionChain.Settings.Toml.Tree

/-!
# Configuration in TOML

The tokens of a text are read as assignments and heads of tables, from the first to the last. A name is
assigned once in its table, and a table has one head. The values of a list are of one kind, and a list of
tables in a line is the same as tables with heads of their own.

Values in values are read with a fuel that is the number of tokens, as each takes a token at least.
-/

namespace FunctionChain

namespace Settings

namespace Toml

/-- Why a text is no configuration. -/
inductive Problem where
  | located (place : Place) (message : Bytes)
  /-- A number with a zero before its digits. -/
  | badBase
deriving Repr, DecidableEq

/-- The message of a problem. -/
def Problem.message : Problem → Bytes
  | .located place message => place.text ++ bytes ": " ++ message
  | .badBase => bytes "invalid base"

/-- Fail at a token. -/
def refuse {α : Type} (token : Token) (message : Bytes) : Except Problem α :=
  .error (.located token.place message)

/-- The first token and those after it. Behind the last one there is always the end of the text. -/
def pop : List Token → Token × List Token
  | [] => (⟨⟨0, 0⟩, .finish, []⟩, [])
  | token :: rest => (token, rest)

/-- Pass over a token of a kind. -/
def expect (kind : TokenKind) (tokens : List Token) : Except Problem (List Token) :=
  let (token, rest) := pop tokens
  if token.kind == kind then .ok rest
  else refuse token (bytes "was expecting token " ++ kind.word ++ bytes ", but got " ++ token.shown
    ++ bytes " instead")

/-! ## Numbers -/

/-- Whether two neighbours in a text fulfil a condition. -/
def hasNeighbours (isPair : UInt8 → UInt8 → Bool) : Bytes → Bool
  | a :: b :: rest => isPair a b || hasNeighbours isPair (b :: rest)
  | _ => false

/-- Whether an underscore of a number stands at its ends, or next to something that is no digit. -/
def misusesUnderscore (isDigit : UInt8 → Bool) (text : Bytes) : Bool :=
  let mark := byte '_'
  text.head? == some mark || text.getLast? == some mark
    || hasNeighbours (fun a b => (b == mark && !isDigit a) || (a == mark && !isDigit b)) text

/-- Whether a byte is a digit of a hexadecimal number between underscores. -/
def isHexByte (b : UInt8) : Bool := Bytes.isDigit b || (byte 'a' ≤ b && b ≤ byte 'f')

/-- The value of an integer token. -/
def integerValue (token : Token) : Except Problem Value :=
  let digits := token.text.filter (· != byte '_')
  let inBase (base : Nat) (digits : Bytes) : Except Problem Value :=
    match Integer.readIn base digits with
    | .ok n => .ok (.integer n false)
    | .error problem => refuse token (problem.message digits)
  let plain (base : Nat) (digits : Bytes) : Except Problem Value :=
    if misusesUnderscore Bytes.isDigit token.text then
      refuse token (bytes "invalid use of _ in number")
    else inBase base digits
  match digits with
  | first :: mark :: d :: rest =>
    if first != byte '0' then plain 10 digits
    else if mark == byte 'x' then
      if token.text.startsWith (bytes "0x_") || misusesUnderscore isHexByte token.text then
        refuse token (bytes "invalid use of _ in hex number")
      else inBase 16 (d :: rest)
    else if mark == byte 'o' then plain 8 (d :: rest)
    else if mark == byte 'b' then plain 2 (d :: rest)
    else .error .badBase
  | _ => plain 10 digits

/-- The value of a token of a number with a point or an exponent. -/
def floatValue (token : Token) : Except Problem Value :=
  let digits := token.text.filter (· != byte '_')
  let failed (reason : String) : Except Problem Value :=
    refuse token (bytes "strconv.ParseFloat: parsing " ++ Quoted.quote digits ++ bytes ": "
      ++ bytes reason)
  if misusesUnderscore Bytes.isDigit token.text then refuse token (bytes "invalid use of _ in number")
  else match Double.ofLiteral? digits with
    | none => failed "invalid syntax"
    | some (.infinite _) => failed "value out of range"
    | some x => .ok (.number x)

/-- The value of a token of a time. -/
def momentValue (token : Token) : Except Problem Value :=
  match Timestamp.parse token.text with
  | .ok time => .ok (.moment time)
  | .error problem => refuse token (problem.messageAs Timestamp.preciseForm token.text)

/-! ## Values -/

/-- The kind of an entry in a list. -/
def kindOf : Entry → Nat
  | .leaf (.text _) _ => 0
  | .leaf (.truth _) _ => 1
  | .leaf (.integer ..) _ => 2
  | .leaf (.number _) _ => 3
  | .leaf (.moment _) _ => 4
  | .leaf .. => 5
  | .table _ => 6
  | .tables _ => 7

/-- A value without a place. -/
def leafOf (value : Value) : Entry := .leaf value ⟨0, 0⟩

/-- The list of entries, which are all of one kind. A list of tables stays one. -/
def listOf (entries : List Entry) : Entry :=
  match entries with
  | .table _ :: _ => .tables (entries.map fun entry => (Tree.ofEntry? entry).getD [])
  | _ => leafOf (.list (entries.map Entry.toValue))

/-- The entry of a token that is a value by itself. -/
def simpleValue? (token : Token) : Option (Except Problem Entry) :=
  let value (value : Value) : Option (Except Problem Entry) := some (.ok (leafOf value))
  match token.kind with
  | .text => value (.text token.text)
  | .yes => value (.truth true)
  | .no => value (.truth false)
  | .infinity => value (.number (.infinite (token.text.head? == some (byte '-'))))
  | .notANumber => value (.number .notANumber)
  | .integer => some ((integerValue token).map leafOf)
  | .float => some ((floatValue token).map leafOf)
  | .moment => some ((momentValue token).map leafOf)
  | _ => none

mutual

/-- Read a value off the front of tokens. -/
def readValue : Nat → List Token → Except Problem (Entry × List Token)
  | 0, tokens => refuse (pop tokens).1 (bytes "expecting a value")
  | fuel + 1, tokens =>
    let (token, rest) := pop tokens
    match simpleValue? token with
    | some (.ok entry) => .ok (entry, rest)
    | some (.error problem) => .error problem
    | none =>
      match token.kind with
      | .finish => refuse token (bytes "expecting a value")
      | .opening => readItems fuel [] rest
      | .openingBrace => readPairs fuel [] none rest
      | .equals => refuse token (bytes "cannot have multiple equals for the same key")
      | .fault => refuse token token.shown
      | _ => refuse token (bytes "never reached")

/-- Read the items of a list up to its end. `done` is what was read, in reverse. -/
def readItems : Nat → List Entry → List Token → Except Problem (Entry × List Token)
  | 0, _, tokens => refuse (pop tokens).1 (bytes "unterminated array")
  | fuel + 1, done, tokens =>
    let (first, rest) := pop tokens
    if first.kind == .finish then refuse first (bytes "unterminated array")
    else if first.kind == .closing then .ok (listOf done.reverse, rest)
    else match readValue fuel tokens with
      | .error problem => .error problem
      | .ok (entry, rest) =>
        if (done.head?.map kindOf).any (· != kindOf entry) then
          refuse first (bytes "mixed types in array")
        else
          let (follow, after) := pop rest
          match follow.kind with
          | .finish => refuse follow (bytes "unterminated array")
          | .closing => .ok (listOf (entry :: done).reverse, after)
          | .comma => readItems fuel (entry :: done) after
          | _ => refuse follow (bytes "missing comma")

/-- Read the entries of a table in a line up to its end, after the token `before`. -/
def readPairs : Nat → Tree → Option Token → List Token → Except Problem (Entry × List Token)
  | 0, _, _, tokens => refuse (pop tokens).1 (bytes "unterminated inline table")
  | fuel + 1, tree, before, tokens =>
    let (token, rest) := pop tokens
    let isAfterComma := (before.map (·.kind)) == some .comma
    match token.kind with
    | .finish => refuse token (bytes "unterminated inline table")
    | .closingBrace =>
      match before with
      | some comma =>
        if isAfterComma then refuse comma (bytes "trailing comma at the end of inline table")
        else .ok (.table tree, rest)
      | none => .ok (.table tree, rest)
    | .key =>
      if before.isSome && !isAfterComma then
        refuse token (bytes "comma expected between fields in inline table")
      else match expect .equals rest with
        | .error problem => .error problem
        | .ok rest =>
          match readValue fuel rest with
          | .error problem => .error problem
          | .ok (entry, rest) =>
            readPairs fuel (tree.putAt entry (Bytes.splitOn token.text (byte '.'))) (some token) rest
    | .comma =>
      if before.isNone then refuse token (bytes "inline table cannot start with a comma")
      else if isAfterComma then refuse token (bytes "need field between two commas in inline table")
      else readPairs fuel tree (some token) rest
    | _ => refuse token (bytes "unexpected token type in inline table: " ++ token.shown)

end

/-! ## Paths -/

/-- A path that is being read: the names so far in reverse, the name at hand in reverse, and what is
expected. -/
structure PathReader where
  names : List Bytes
  name : Bytes
  isQuoted : Bool
  wasQuoted : Bool
  skipsBlanks : Bool
  expectsPoint : Bool

/-- Read one character of a path. -/
def PathReader.step (reader : PathReader) (c : Nat) : Except Bytes PathReader :=
  if reader.skipsBlanks && c == 0x20 then .ok reader
  else
    let reader := { reader with skipsBlanks := false }
    let add := { reader with name := (Utf8.encode c).reverse ++ reader.name }
    if c == 0x22 then
      let reader := { reader with isQuoted := !reader.isQuoted, expectsPoint := false }
      if reader.isQuoted then .ok reader
      else .ok { reader with
        names := reader.name.reverse :: reader.names, name := [], wasQuoted := true }
    else if c == code '.' then
      if reader.isQuoted then .ok add
      else
        let next := { reader with skipsBlanks := true, expectsPoint := false, wasQuoted := false }
        if reader.wasQuoted then .ok next
        else if reader.name.isEmpty then .error (bytes "empty table key")
        else .ok { next with names := reader.name.reverse :: reader.names, name := [] }
    else if c == 0x20 then
      if reader.isQuoted then .ok add else .ok { reader with expectsPoint := true }
    else if !reader.isQuoted && !isBare c then
      .error (bytes "invalid bare character: " ++ Utf8.encode c)
    else if !reader.isQuoted && reader.expectsPoint then .error (bytes "what?")
    else .ok { add with expectsPoint := false }

/-- The names of a path: names with points between them, of which some may stand in quotes. -/
def pathOf (text : Bytes) : Except Bytes (List Bytes) :=
  match ((Utf8.pieces text).map Utf8.Piece.code).foldlM PathReader.step
      ⟨[], [], false, false, true, false⟩ with
  | .error message => .error message
  | .ok reader =>
    if reader.isQuoted then .error (bytes "mismatched quotes")
    else
      let names := if reader.name.isEmpty then reader.names else reader.name.reverse :: reader.names
      if names.isEmpty then .error (bytes "empty key") else .ok names.reverse

/-- A path as messages show it. -/
def pathText (path : List Bytes) : Bytes := Bytes.joined (bytes ".") path

/-! ## Documents -/

/-- A document that is being read. -/
structure Document where
  tree : Tree
  /-- The table that assignments go to. -/
  path : List Bytes
  /-- The names in the heads of tables so far, as they were written. -/
  heads : List Bytes

/-- Read an assignment to a name. -/
def Document.assign (document : Document) (key : Token) (tokens : List Token) :
    Except Problem (Document × List Token) := do
  let rest ← expect .equals tokens
  let (entry, rest) ← readValue (rest.length + 1) rest
  match (document.tree.find? document.path).bind Tree.ofEntry? with
  | none => refuse key (bytes "Unknown table type for path: " ++ pathText document.path)
  | some target =>
    if (target.lookup key.text).isSome then
      refuse key (bytes "The following key was defined twice: "
        ++ pathText (document.path ++ [key.text]))
    else
      let placed : Entry := match entry with
        | .leaf value _ => .leaf value key.place
        | other => other
      let tree := document.tree.change (·.put key.text placed) document.path
      .ok ({ document with tree := tree }, rest)

/-- Read the head of a table. -/
def Document.openTable (document : Document) (tokens : List Token) :
    Except Problem (Document × List Token) := do
  let (head, rest) := pop tokens
  if head.kind != .tableName then
    refuse head (bytes "unexpected token " ++ head.shown ++ bytes ", was expecting a table key")
  else if document.heads.contains head.text then refuse head (bytes "duplicated tables")
  else match pathOf head.text with
    | .error message => refuse head (bytes "invalid table array key: " ++ message)
    | .ok path =>
      match document.tree.open? path with
      | .error (name, value, place) =>
        refuse head (bytes "unknown type for path " ++ pathText path ++ bytes " (" ++ name
          ++ bytes "): *toml.tomlValue (" ++ valueShown value place ++ bytes ")")
      | .ok tree =>
        let rest ← expect .closing rest
        .ok (⟨tree, path, head.text :: document.heads⟩, rest)

/-- Read the head of one more table of a list. -/
def Document.openTables (document : Document) (tokens : List Token) :
    Except Problem (Document × List Token) := do
  let (head, rest) := pop tokens
  if head.kind != .tablesName then
    refuse head (bytes "unexpected token " ++ head.shown ++ bytes ", was expecting a table array key")
  else match pathOf head.text with
    | .error message => refuse head (bytes "invalid table array key: " ++ message)
    | .ok path =>
      let tree := (document.tree.open? path.dropLast).toOption.getD document.tree
      let tables? : Option (List Tree) := match tree.find? path with
        | none => some []
        | some (.tables tables) => some tables
        | some _ => none
      match tables? with
      | none =>
        refuse head (bytes "key " ++ head.shown
          ++ bytes " is already assigned and not of type table array")
      | some tables =>
        let rest ← expect .doubleClosing rest
        let below := head.text ++ bytes "."
        .ok (⟨tree.putAt (.tables (tables ++ [[]])) path, path,
          head.text :: document.heads.filter (!·.startsWith below)⟩, rest)

/-- Read the assignments and heads of a document. -/
def Document.read : Nat → Document → List Token → Except Problem Document
  | 0, document, _ => .ok document
  | fuel + 1, document, tokens =>
    let (token, rest) := pop tokens
    match token.kind with
    | .finish => .ok document
    | .key =>
      match document.assign token rest with
      | .error problem => .error problem
      | .ok (document, rest) => read fuel document rest
    | .opening =>
      match document.openTable rest with
      | .error problem => .error problem
      | .ok (document, rest) => read fuel document rest
    | .doubleOpening =>
      match document.openTables rest with
      | .error problem => .error problem
      | .ok (document, rest) => read fuel document rest
    | _ => refuse token (bytes "unexpected token")

/-- Read a configuration. -/
def read (text : Bytes) : Except Problem Table :=
  let tokens := tokens text
  (Document.read (tokens.length + 1) ⟨[], [], []⟩ tokens).map fun document =>
    Entry.toTable document.tree

end Toml

end Settings

end FunctionChain
