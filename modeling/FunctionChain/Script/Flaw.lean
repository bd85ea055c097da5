import FunctionChain.Script.Builtin

/-!
# Flaws of scripts

A text that is no script has a first place where it cannot go on. The shell reads tokens one by one, and
complains about the first one that does not fit, with the one that it waits for if there is only one. The
commands before the flawed one are run nevertheless.

The texts for commands to read have to be taken out of the script before.
-/

namespace FunctionChain

namespace Script

/-- What keeps a text from being a script, and the line on which that is noticed. -/
structure Flaw where
  line : Nat
  message : Bytes
deriving Repr, DecidableEq

namespace Flaw

/-- A token of a script. -/
inductive Token where
  | finish
  | newline
  /-- A sign for redirection, which may need a word after it. -/
  | redirection (needsWord : Bool)
  | word (text : Bytes)
  /-- An operator or a reserved word. -/
  | sign (text : Bytes)
deriving Repr, DecidableEq

/-- A token in messages. -/
def Token.shown : Token → Bytes
  | .finish => bytes "end of file"
  | .newline => bytes "newline"
  | .redirection _ => bytes "redirection"
  | .word _ => bytes "word"
  | .sign text => bytes "\"" ++ text ++ bytes "\""

/-- The words that the shell reserves. -/
def reservedWords : List Bytes :=
  closers ++ [bytes "if", bytes "while", bytes "until", bytes "for", bytes "case", bytes "in", bytes "!",
    [0x7B]]

/-- The rest of a text, and the number of line ends that the whole text has. -/
structure Reader where
  rest : Bytes
  lines : Nat

/-- A step of reading. -/
abbrev Check := StateT Reader (Except Flaw)

/-- Complain about the place that is reached. -/
def complain {α : Type} (message : Bytes) : Check α := do
  let reader ← get
  throw ⟨reader.lines - linesLeft reader.rest + 1, bytes "Syntax error: " ++ message⟩

/-- Complain that the text ends here. -/
def complainAtEnd {α : Type} (message : String) : Check α := do
  modify fun reader => { reader with rest := [] }
  complain (bytes message)

/-- Complain about a token that was read. -/
def unexpected {α : Type} (token : Token) (expected : Option Token) : Check α :=
  complain (token.shown ++ bytes " unexpected" ++ (match expected with
    | some other => bytes " (expecting " ++ other.shown ++ bytes ")"
    | none => []))

/-- Go on with another rest of the text. -/
def goOn (rest : Bytes) : Check Unit := modify fun reader => { reader with rest := rest }

/-- The operators at the start of a text, with the longer ones first. -/
def operators : List Bytes :=
  ["&&", "||", ";;", "&", "|", ";", "(", ")"].map bytes

/-- The signs for redirection, with the longer ones first. -/
def redirectionSigns : List Bytes := ["<<-", "<<", "<&", "<>", "<", ">>", ">&", ">|", ">"].map bytes

/-- What follows a sign for redirection at the start of a text, and whether that needs a word. -/
def afterRedirection? (text : Bytes) : Option (Bool × Bytes) :=
  let text := match text with
    | b :: c :: _ => if Bytes.isDigit b && (c == byte '<' || c == byte '>') then text.drop 1 else text
    | _ => text
  match text with
  | 0x3C :: 0x01 :: rest => some (false, (rest.dropWhile Bytes.isDigit).drop 1)
  | _ => (redirectionSigns.findSome? (Bytes.after? text)).map (true, ·)

/-- Whether a token ends a list of commands. -/
def closes (token : Token) : Bool :=
  match token with
  | .finish => true
  | .sign text => closers.contains text || text == bytes ")" || text == bytes ";;"
  | _ => false

/-- Whether a word is a name. -/
def isGoodName (name : Bytes) : Bool := name.head?.any startsName && name.all inName

mutual

/-- Pass over a word. -/
def word : Nat → Check Unit
  | 0 => return
  | n + 1 => do
    match (← get).rest with
    | [] => return
    | b :: rest =>
      if endsWord b then return
      else if b == backslash then
        goOn (rest.drop 1)
        word n
      else if b == singleQuote then
        match rest.dropWhile (· != singleQuote) with
        | [] => complainAtEnd "Unterminated quoted string"
        | _ :: after =>
          goOn after
          word n
      else
        piece n false
        word n

/-- Pass over a byte, or over the quotes or the expansion that starts with it. -/
def piece : Nat → (isQuoted : Bool) → Check Unit
  | 0, _ => return
  | n + 1, isQuoted => do
    match (← get).rest with
    | 0x24 :: 0x28 :: 0x28 :: rest =>
      goOn rest
      sum n 0
    | 0x24 :: 0x28 :: rest =>
      goOn rest
      list n false true
      let token ← take n true true
      if token != .sign (bytes ")") then unexpected token (some (.sign (bytes ")")))
    | 0x24 :: 0x7B :: rest =>
      let after := rest.dropWhile inName
      goOn after
      if after.head? == some newline then modify fun reader => { reader with lines := reader.lines - 1 }
      braces n isQuoted
    | b :: rest =>
      if b == backquote then
        match backquoted [] rest with
        | none => complainAtEnd "EOF in backquote substitution"
        | some (inner, after) =>
          let reader ← get
          set (⟨inner, linesLeft inner⟩ : Reader)
          list n false true
          set { reader with rest := after }
      else if b == doubleQuote && !isQuoted then
        goOn rest
        quotes n
      else goOn rest
    | [] => return

/-- Pass over text in double quotes up to its end. -/
def quotes : Nat → Check Unit
  | 0 => return
  | n + 1 => do
    match (← get).rest with
    | [] => complainAtEnd "Unterminated quoted string"
    | b :: rest =>
      if b == doubleQuote then goOn rest
      else if b == backslash then
        goOn (rest.drop 1)
        quotes n
      else
        piece n true
        quotes n

/-- Pass over what stands in braces up to their end. -/
def braces : Nat → (isQuoted : Bool) → Check Unit
  | 0, _ => return
  | n + 1, isQuoted => do
    match (← get).rest with
    | [] => complainAtEnd (if isQuoted then "Unterminated quoted string" else "Missing '\x7d'")
    | b :: rest =>
      if b == 0x7D then goOn rest
      else if b == backslash then
        goOn (rest.drop 1)
        braces n isQuoted
      else if b == singleQuote && !isQuoted then
        match rest.dropWhile (· != singleQuote) with
        | [] => complainAtEnd "Unterminated quoted string"
        | _ :: after =>
          goOn after
          braces n isQuoted
      else
        piece n false
        braces n isQuoted

/-- Pass over an arithmetic expression up to its end. -/
def sum : Nat → (depth : Nat) → Check Unit
  | 0, _ => return
  | n + 1, depth => do
    match (← get).rest with
    | [] => complainAtEnd "Missing '))'"
    | b :: rest =>
      if b == byte '(' then
        goOn rest
        sum n (depth + 1)
      else if b == byte ')' then
        if depth == 0 && rest.head? == some (byte ')') then goOn (rest.drop 1)
        else
          goOn rest
          sum n (depth - 1)
      else
        piece n true
        sum n depth

/-- Read a token, maybe after line ends. Reserved words count only if they are asked for. -/
def take : Nat → (skips reserves : Bool) → Check Token
  | 0, _, _ => return .finish
  | n + 1, skips, reserves => do
    let rest := (← get).rest
    let text := if skips then skipLines rest else skipGap rest
    goOn text
    match text with
    | [] => return .finish
    | 10 :: rest =>
      goOn rest
      return .newline
    | _ =>
      match afterRedirection? text, operators.find? (Bytes.startsWith text ·) with
      | some (needsWord, rest), _ =>
        goOn rest
        return .redirection needsWord
      | none, some sign =>
        goOn (text.drop sign.length)
        return .sign sign
      | none, none =>
        word n
        let raw := text.take (text.length - (← get).rest.length)
        return if reserves && reservedWords.contains raw then .sign raw else .word raw

/-- The next token. -/
def peek : Nat → (skips reserves : Bool) → Check Token
  | 0, _, _ => return .finish
  | n + 1, skips, reserves => do
    let reader ← get
    let token ← take n skips reserves
    set reader
    return token

/-- Read a token that has to be a certain one. -/
def expect : Nat → String → Check Unit
  | 0, _ => return
  | n + 1, text => do
    let wanted := Token.sign (bytes text)
    let token ← take n true true
    if token != wanted then unexpected token (some wanted)

/-- Read the word after a sign for redirection, if one is needed. -/
def target : Nat → (needsWord : Bool) → Check Unit
  | 0, _ => return
  | n + 1, needsWord => do
    if needsWord then
      match ← take n false false with
      | .word _ => return
      | token => unexpected token none

/-- Read the redirections after a command. -/
def redirections : Nat → Check Unit
  | 0 => return
  | n + 1 => do
    match ← peek n false true with
    | .redirection needsWord =>
      let _ ← take n false true
      target n needsWord
      redirections n
    | _ => return

/-- Read the rest of a simple command. `name` is its only word so far, if there is one and nothing else, and
`hasName` says whether there is a word. -/
def simple : Nat → (name : Option Bytes) → (hasName : Bool) → Check Unit
  | 0, _, _ => return
  | n + 1, name, hasName => do
    match ← peek n false false with
    | .word text =>
      let _ ← take n false false
      let isFirst := !hasName && (assignmentName text).isNone
      simple n none (hasName || isFirst)
    | .redirection needsWord =>
      let _ ← take n false false
      target n needsWord
      simple n none hasName
    | .sign text =>
      match text == bytes "(", name with
      | true, some name =>
        let _ ← take n false false
        let token ← take n false false
        if token != .sign (bytes ")") then unexpected token (some (.sign (bytes ")")))
        if !isGoodName name || Builtin.special.contains name then complain (bytes "Bad function name")
        command n true
      | _, _ => return
    | _ => return

/-- Read the arms of an `if` after its first word. -/
def arms : Nat → Check Unit
  | 0 => return
  | n + 1 => do
    list n false false
    expect n "then"
    list n false false
    let token ← peek n true true
    if token == .sign (bytes "elif") then
      let _ ← take n true true
      arms n
    else
      if token == .sign (bytes "else") then
        let _ ← take n true true
        list n false false
      expect n "fi"

/-- Read the words that a loop goes through. -/
def loopWords : Nat → Check Unit
  | 0 => return
  | n + 1 => do
    match ← take n false false with
    | .word _ => loopWords n
    | .newline => return
    | token => if token != .sign (bytes ";") then unexpected token none

/-- Read the patterns of an arm after the first one. -/
def patterns : Nat → Check Unit
  | 0 => return
  | n + 1 => do
    let token ← take n false false
    if token == .sign (bytes "|") then
      let _ ← take n false false
      patterns n
    else if token != .sign (bytes ")") then unexpected token (some (.sign (bytes ")")))

/-- Read the arms of a `case`. -/
def caseArms : Nat → Check Unit
  | 0 => return
  | n + 1 => do
    let first ← take n true true
    if first == .sign (bytes "esac") then return
    if first == .sign (bytes "(") then
      let _ ← take n false false
    patterns n
    list n false true
    let token ← take n true true
    if token == .sign (bytes ";;") then caseArms n
    else if token != .sign (bytes "esac") then unexpected token (some (.sign (bytes ";;")))

/-- Read the commands of a loop. -/
def body : Nat → Check Unit
  | 0 => return
  | n + 1 => do
    expect n "do"
    list n false false
    expect n "done"

/-- Read a loop through words after its first word. -/
def eachWord : Nat → Check Unit
  | 0 => return
  | n + 1 => do
    let name? ← take n false false
    let isGood := match name? with
      | .word name => isGoodName name
      | _ => false
    if !isGood then complain (bytes "Bad for loop variable")
    let token ← peek n true true
    if token == .sign (bytes "in") then
      let _ ← take n true true
      loopWords n
    else if token == .sign (bytes ";") then
      let _ ← take n true true
    body n

/-- Read a `case` after its first word. -/
def select : Nat → Check Unit
  | 0 => return
  | n + 1 => do
    let subject ← take n false false
    match subject with
    | .word _ =>
      expect n "in"
      caseArms n
    | token => unexpected token (some (.word []))

/-- Read a command after its first token. -/
def commandFrom : Nat → Token → Check Unit
  | 0, _ => return
  | n + 1, .word text =>
    let isName := (assignmentName text).isNone
    simple n (if isName then some text else none) isName
  | n + 1, .redirection needsWord => do
    target n needsWord
    simple n none false
  | n + 1, .sign text => do
    if text == bytes "if" then arms n
    else if text == bytes "while" || text == bytes "until" then
      list n false false
      body n
    else if text == bytes "for" then eachWord n
    else if text == bytes "case" then select n
    else if text == bytes "(" then
      list n false false
      expect n ")"
    else if text == [0x7B] then
      list n false false
      expect n "\x7d"
    else unexpected (.sign text) none
    redirections n
  | _, token => unexpected token none

/-- Read a command. -/
def command : Nat → (skips : Bool) → Check Unit
  | 0, _ => return
  | n + 1, skips => do commandFrom n (← take n skips true)

/-- Read commands with bars between them. -/
def stages : Nat → (skips : Bool) → Check Unit
  | 0, _ => return
  | n + 1, skips => do
    command n skips
    if (← peek n false true) == .sign (bytes "|") then
      let _ ← take n false true
      stages n true

/-- Read pipelines with `&&` and `||` between them. -/
def chain : Nat → (skips : Bool) → Check Unit
  | 0, _ => return
  | n + 1, skips => do
    if (← peek n skips true) == .sign (bytes "!") then
      let _ ← take n skips true
      stages n false
    else stages n skips
    let token ← peek n false true
    if token == .sign (bytes "&&") || token == .sign (bytes "||") then
      let _ ← take n false true
      chain n true

/-- Read a list of commands: on the top up to the end of a line, and inside of others up to what closes
it. There it may be empty only if that is allowed. -/
def list : Nat → (isTop mayEnd : Bool) → Check Unit
  | 0, _, _ => return
  | n + 1, isTop, mayEnd => do
    let token ← peek n (!isTop) true
    if token == .newline then
      let _ ← take n (!isTop) true
    else if token == .finish || (mayEnd && !isTop && closes token) then return
    else
      chain n (!isTop)
      let next ← peek n false true
      if next == .newline then list n isTop true
      else if next == .sign (bytes ";") || next == .sign (bytes "&") then
        let _ ← take n false true
        list n isTop true
      else if isTop && next != .finish then
        let _ ← take n false true
        unexpected next none

end

/-- The first flaw of a text and the length of the text from the line on that it is in. -/
def find? (fuel : Nat) : Nat → Reader → Option (Nat × Flaw)
  | 0, _ => none
  | rounds + 1, reader =>
    let reader := { reader with rest := skipLines reader.rest }
    if reader.rest.isEmpty then none
    else match (list fuel true false).run reader with
      | .error flaw => some (reader.rest.length, flaw)
      | .ok (_, after) => find? fuel rounds after

end Flaw

/-- The commands of a script up to its first flaw. -/
def read (text : Bytes) : List Command × Option Flaw :=
  let hoisting := hoist (2 * text.length + 2) .plain ⟨[], [], []⟩ text
  let text := hoisting.done.reverse
  let lines := linesLeft text
  let found := Flaw.find? (16 * text.length + 64) (text.length + 1) ⟨text, lines⟩
  let (text, flaw) := match found with
    | some (length, flaw) => (text.take (text.length - length), some flaw)
    | none => (text, none)
  match commands ⟨linesLeft text, hoisting.texts.reverse⟩ (4 * text.length + 16) text with
  | some (body, rest) =>
    (body, if (skipLines rest).isEmpty then flaw
      else some ⟨lines + 1, bytes "Syntax error: end of file unexpected"⟩)
  | none => ([], some ⟨lines + 1, bytes "Syntax error: end of file unexpected"⟩)

end Script

end FunctionChain
