import FunctionChain.Settings.Hcl.Lexer
import FunctionChain.Text.Blank

/-!
# The tree of a configuration in HCL

A text is a list of items. An item has keys and a value: `key = value` or `key "key" { ... }`. The JSON form
has one object around them.

A reader that meets something wrong is left where it stands, as the object around may still end well: if it
stands at a closing brace, the object takes the items that were read before.
-/

namespace FunctionChain

namespace Settings

namespace Hcl

/-- A value as it is written. -/
inductive Node where
  | literal (token : Token)
  | list (place : Place) (items : List Node)
  | object (place : Place) (items : List (List Token × Node))

/-- An item of an object. -/
abbrev Item := List Token × Node

/-- Why reading stops. -/
inductive Stop where
  | finish
  | located (place : Place) (message : Bytes)
  | plain (message : Bytes)

/-- The message about a place. -/
def placed (place : Place) (message : Bytes) : Bytes :=
  bytes "At " ++ place.text ++ bytes ": " ++ message

/-- The message of a stop. -/
def Stop.message : Stop → Bytes
  | .finish => bytes "EOF token found"
  | .located place message => placed place message
  | .plain message => message

/-- A reader of tokens. -/
structure Cursor where
  reader : Reader
  /-- The token that was read last. -/
  token : Token
  /-- Whether the last token is to be read again. -/
  isBack : Bool

/-- A step of reading. What was read stays read if the step stops. -/
abbrev Step (α : Type) := ExceptT Stop (StateM Cursor) α

/-- Read a token. -/
def scan : Step Token := do
  let cursor ← get
  if cursor.isBack then
    set { cursor with isBack := false }
    return cursor.token
  else
    let (token, reader) := cursor.reader.significant (cursor.reader.rest.length + 1)
    set ({ reader := reader, token := token, isBack := false } : Cursor)
    return token

/-- Put the last token back. -/
def unscan : Step Unit := modify fun cursor => { cursor with isBack := true }

/-- Stop at the last token. -/
def refuse {α : Type} (message : Bytes) : Step α := do
  throw (.located (← get).token.place message)

/-- Whether a token is a value on its own. -/
def isLiteral (kind : TokenKind) : Bool :=
  [.number, .float, .truth, .text, .document].contains kind

/-- The result of a step, also if it stops. -/
def attempt {α : Type} (step : Step α) : Step (Except Stop α) :=
  ExceptT.mk do return .ok (← step.run)

/-! ## The native form -/

/-- Read keys up to the sign behind them. If that is none that can stand there, the keys are given with
what is wrong. -/
def keysFrom : Nat → List Token → Step (List Token × Option Stop)
  | 0, keys => return (keys, some .finish)
  | fuel + 1, keys => do
    let token ← scan
    let found (message : Bytes) : List Token × Option Stop :=
      (keys, some (.located token.place message))
    match token.kind with
    | .finish => return (keys, some .finish)
    | .equals =>
      if keys.length > 1 then
        throw (.located token.place (bytes "nested object expected: LBRACE got: " ++ token.kind.word))
      if keys.isEmpty then throw (.located token.place (bytes "no object keys found!"))
      return (keys, none)
    | .openingBrace =>
      if keys.isEmpty then return found (bytes "expected: IDENT | STRING got: " ++ token.kind.word)
      return (keys, none)
    | .name | .text => keysFrom fuel (keys ++ [token])
    | .illegal => return found (bytes "illegal character")
    | kind => return found (bytes "expected: IDENT | STRING | ASSIGN | LBRACE got: " ++ kind.word)

/-- Read the keys of an item. Keys without a value before the end of the object, or of the text, are
refused by what follows. -/
def keys (fuel : Nat) : Step (List Token) := do
  let (keys, stop?) ← keysFrom fuel []
  match stop? with
  | none => return keys
  | some stop =>
    let token := (← get).token
    if keys.isEmpty then throw stop
    match stop, token.kind with
    | .finish, _ => return keys
    | _, .closingBrace =>
      modify fun cursor => { cursor with token := { token with kind := .finish } }
      return keys
    | _, _ => throw stop

mutual

/-- Read the items of an object, or of the whole text, up to what cannot be one. -/
def items (isInner : Bool) : Nat → List Item → Step (List Item × Option Stop)
  | 0, found => return (found, none)
  | fuel + 1, found => do
    if isInner then
      let token ← scan
      unscan
      if token.kind == .closingBrace then return (found, none)
    match ← attempt (item fuel) with
    | .error .finish => return (found, none)
    | .error stop => return (found, some stop)
    | .ok next =>
      if (← scan).kind != .comma then unscan
      items isInner fuel (found ++ [next])

/-- Read an item. -/
def item : Nat → Step Item
  | 0 => throw .finish
  | fuel + 1 => do
    let keys ← keys fuel
    let node ← match (← get).token.kind with
      | .equals => value fuel
      | .openingBrace => object fuel
      | _ =>
        refuse (bytes "key '" ++ Bytes.joined (bytes " ") (keys.map (·.spelling))
          ++ bytes "' expected start of object ('\x7b') or assignment ('=')")
    let _ ← scan
    unscan
    return (keys, node)

/-- Read a value. -/
def value : Nat → Step Node
  | 0 => throw .finish
  | fuel + 1 => do
    let token ← scan
    if isLiteral token.kind then return .literal token
    match token.kind with
    | .openingBrace => object fuel
    | .openingBracket => return .list token.place (← list token.place false fuel [])
    | .finish => throw .finish
    | _ => throw (.located token.place (bytes "Unknown token: " ++ token.shown))

/-- Read an object, whose opening brace is read. -/
def object : Nat → Step Node
  | 0 => throw .finish
  | fuel + 1 => do
    let place := (← get).token.place
    let (found, stop?) ← items true fuel []
    if let some stop := stop? then
      if (← get).token.kind != .closingBrace then throw stop
    let token ← scan
    if token.kind != .closingBrace then
      throw (.located token.place (bytes "object expected closing RBRACE got: " ++ token.kind.word))
    return .object place found

/-- Read the items of a list behind its opening bracket. -/
def list (place : Place) (needsComma : Bool) : Nat → List Node → Step (List Node)
  | 0, found => return found
  | fuel + 1, found => do
    let token ← scan
    if needsComma && token.kind != .comma && token.kind != .closingBracket then
      throw (.located token.place
        (bytes "error parsing list, expected comma or list end, got: " ++ token.kind.word))
    if isLiteral token.kind then list place true fuel (found ++ [.literal token])
    else match token.kind with
      | .comma => do
        let _ ← scan
        unscan
        list place false fuel found
      | .openingBrace => do
        match ← attempt (object fuel) with
        | .ok node => list place true fuel (found ++ [node])
        | .error stop =>
          throw (.located token.place
            (bytes "error while trying to parse object within list: " ++ stop.message))
      | .openingBracket => do
        match ← attempt (list token.place false fuel []) with
        | .ok inner => list place needsComma fuel (found ++ [.list token.place inner])
        | .error stop =>
          throw (.located token.place
            (bytes "error while trying to parse list within list: " ++ stop.message))
      | .closingBracket => return found
      | kind =>
        throw (.located token.place (bytes "unexpected token while parsing list: " ++ kind.word))

end

/-! ## The JSON form

What is read from it has no places. -/

namespace Json

/-- Read the keys of a member up to the colon behind them. -/
def keys : Nat → List Token → Step (List Token)
  | 0, _ => throw .finish
  | fuel + 1, found => do
    let token ← scan
    match token.kind with
    | .finish => throw .finish
    | .text => keys fuel (found ++ [token.unplaced])
    | .colon =>
      if found.isEmpty then throw (.plain (bytes "expected: STRING got: " ++ token.kind.word))
      return found
    | .illegal => throw (.plain (bytes "illegal"))
    | kind => throw (.plain (bytes "expected: STRING got: " ++ kind.word))

mutual

/-- Read the members of an object up to what cannot be one. -/
def members : Nat → List Item → Step (List Item × Option Stop)
  | 0, found => return (found, none)
  | fuel + 1, found => do
    match ← attempt (member fuel) with
    | .error .finish => return (found, none)
    | .error stop => return (found, some stop)
    | .ok next =>
      if (← scan).kind != .comma then return (found ++ [next], none)
      members fuel (found ++ [next])

/-- Read a member. -/
def member : Nat → Step Item
  | 0 => throw .finish
  | fuel + 1 => do
    let keys ← keys fuel []
    return (keys, ← value fuel)

/-- Read a value. -/
def value : Nat → Step Node
  | 0 => throw .finish
  | fuel + 1 => do
    let token ← scan
    if isLiteral token.kind || token.kind == .null then return .literal token.unplaced
    match token.kind with
    | .openingBrace => object fuel
    | .openingBracket => return .list .nowhere (← list fuel [])
    | .finish => throw .finish
    | _ => throw (.plain (bytes "Expected value, got unknown token: " ++ token.shown))

/-- Read an object, whose opening brace is read. -/
def object : Nat → Step Node
  | 0 => throw .finish
  | fuel + 1 => do
    let (found, stop?) ← members fuel []
    if let some stop := stop? then
      if (← get).token.kind != .closingBrace then throw stop
    return .object .nowhere found

/-- Read the items of a list behind its opening bracket. Truth values and further lists are not taken. -/
def list : Nat → List Node → Step (List Node)
  | 0, found => return found
  | fuel + 1, found => do
    let token ← scan
    match token.kind with
    | .number | .float | .text => list fuel (found ++ [.literal token.unplaced])
    | .comma | .truth | .openingBracket => list fuel found
    | .openingBrace => do
      let node ← object fuel
      list fuel (found ++ [node])
    | .closingBracket => return found
    | kind => throw (.plain (bytes "unexpected token while parsing list: " ++ kind.word))

end

/-- Whether a node is an object. -/
def isObject : Node → Bool
  | .object .. => true
  | _ => false

mutual

/-- The items that keys and a node stand for. A list of objects stands for each of them. An object of
objects stands for them, with the keys before their own. -/
def spread (keys : List Token) : Node → List Item
  | .literal token => [(keys, .literal token)]
  | .list place nodes =>
    if !nodes.isEmpty && nodes.all isObject then spreadNodes keys nodes
    else [(keys, .list place (settledNodes nodes))]
  | .object place found =>
    if !found.isEmpty && found.all (fun item => isObject item.2) then spreadItems keys found
    else [(keys, .object place (spreadItems [] found))]

/-- The items that keys and several nodes stand for. -/
def spreadNodes (keys : List Token) : List Node → List Item
  | [] => []
  | node :: rest => spread keys node ++ spreadNodes keys rest

/-- The items that several items stand for, with keys before their own. -/
def spreadItems (keys : List Token) : List (List Token × Node) → List Item
  | [] => []
  | (more, node) :: rest => spread (keys ++ more) node ++ spreadItems keys rest

/-- A node of a list, in which the items of objects are spread. -/
def settled : Node → Node
  | .literal token => .literal token
  | .list place nodes => .list place (settledNodes nodes)
  | .object place found => .object place (spreadItems [] found)

/-- Several nodes of a list. -/
def settledNodes : List Node → List Node
  | [] => []
  | node :: rest => settled node :: settledNodes rest

end

/-- Read the object of a text. -/
def document (fuel : Nat) : Step (List Item × Option Stop) := do
  let token ← scan
  if token.kind != .openingBrace then
    throw (.plain (bytes "Expected object, got unknown token: " ++ token.shown))
  match ← object fuel with
  | .object _ found => return (spreadItems [] found, none)
  | _ => return ([], none)

end Json

/-! ## Texts -/

/-- Whether a text is in the native form: the JSON form begins with a brace. -/
def isNative (text : Bytes) : Bool :=
  match (Utf8.pieces text).dropWhile Blank.isBlankPiece with
  | piece :: _ => piece.bytes != bytes "\x7b"
  | [] => true

/-- The items of a text, or what is wrong with it. What is wrong with its characters counts before all. -/
def parse (text : Bytes) : Except Bytes (List Item) :=
  let native := isNative text
  let text := if native then text.replaceAll [0x0D, 0x0A] [0x0A] else text
  let reader := Reader.ofText native text
  let fuel := 8 * (reader.rest.length + 8)
  let start : Cursor := ⟨reader, ⟨.finish, ⟨0, 0⟩, []⟩, false⟩
  let (result, cursor) := (if native then items false fuel [] else Json.document fuel).run.run start
  match cursor.reader.fault, result with
  | some (place, message), _ =>
    .error (if native then placed place message else place.text ++ bytes ": " ++ message)
  | none, .error stop => .error stop.message
  | none, .ok (_, some stop) => .error stop.message
  | none, .ok (found, none) => .ok found

end Hcl

end Settings

end FunctionChain
