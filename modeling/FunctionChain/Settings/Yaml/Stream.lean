import FunctionChain.Settings.Yaml.Scalar
import FunctionChain.Settings.Yaml.Tag

/-!
# The stream of tokens

The next character decides which token is cut. Before that, the column at which it stands closes the block
collections that are indented deeper. A colon turns what may have been a name into one: the token for a
name is put before it, and if it opens a mapping, so is the token for that.
-/

namespace FunctionChain

namespace Settings

namespace Yaml

namespace Scan

/-- The greatest number of open collections. -/
def depthLimit : Nat := 10000

/-- The greatest number of characters between the start of a name and its colon. -/
def nameLimit : Nat := 1024

/-! ## Names -/

/-- Say whether a name may start here. -/
def allowName (isAllowed : Bool) : Scan Unit :=
  modify fun lexer => { lexer with mayStartName := isAllowed }

/-- No longer hold up the queue because of a token. -/
def release (token : Nat) : Scan Unit :=
  modify fun lexer => { lexer with awaited := lexer.awaited.eraseP (·.1 == token) }

/-- Change the name that may have started on a flow level. -/
def setStart (level : Nat) (start : NameStart) : Scan Unit :=
  modify fun lexer => { lexer with starts := lexer.starts.setIfInBounds level start }

/-- Whether there may still be a name: it has to be on one line and short. If nothing else than a name
could be there, that is a fault. -/
def isOpen (level : Nat) : Scan Bool := do
  let lexer ← get
  match lexer.starts[level]? with
  | none => return false
  | some start =>
    if !start.isPossible then return false
    if start.mark.line < lexer.mark.line || start.mark.index + nameLimit < lexer.mark.index then
      if start.isRequired then fail .missingColon
      setStart level { start with isPossible := false }
      return false
    return true

/-- Give up the name that may have started on the current flow level. -/
def dropName : Scan Unit := do
  let lexer ← get
  match lexer.starts.back? with
  | none => return
  | some start =>
    if start.isPossible then
      if start.isRequired then fail .missingColon
      setStart lexer.flowLevel { start with isPossible := false }
      release start.token

/-- Note that a name may start here, if it may. -/
def noteName : Scan Unit := do
  let lexer ← get
  if lexer.mayStartName then
    let isRequired := lexer.flowLevel == 0 && lexer.indent == lexer.mark.column
    let number ← nextNumber
    dropName
    setStart lexer.flowLevel ⟨true, isRequired, number, lexer.mark⟩
    modify fun lexer => { lexer with awaited := (number, lexer.flowLevel) :: lexer.awaited }

/-! ## Open collections -/

/-- Open a flow collection. -/
def openFlow : Scan Unit := do
  let number ← nextNumber
  modify fun lexer =>
    { lexer with
      starts := lexer.starts.push ⟨false, false, number, lexer.mark⟩
      flowLevel := lexer.flowLevel + 1 }
  if (← get).flowLevel > depthLimit then fail .tooDeep

/-- Close a flow collection, if one is open. -/
def closeFlow : Scan Unit := do
  let lexer ← get
  if lexer.flowLevel > 0 then
    if let some start := lexer.starts.back? then release start.token
    modify fun lexer =>
      { lexer with starts := lexer.starts.pop, flowLevel := lexer.flowLevel - 1 }

/-- Open a block collection at a column unless one is open there. Its token comes before the one of a
number, or last if there is none. -/
def openBlock (column : Nat) (number : Option Nat) (token : Token) : Scan Unit := do
  let lexer ← get
  if lexer.flowLevel == 0 && lexer.indent < column then
    set { lexer with indents := lexer.indent :: lexer.indents, indent := column }
    if lexer.indents.length + 1 > depthLimit then fail .tooDeep
    match number with
    | some number => insertAt number token
    | none => append token

/-- Close the block collections that are indented deeper than a column. -/
def closeBlocks (column : Int) : Scan Unit :=
  modify fun lexer =>
    if lexer.flowLevel > 0 || lexer.indent ≤ column then lexer
    else
      let outer := lexer.indents.dropWhile (column < ·)
      let count := lexer.indents.length - outer.length + 1
      { lexer with
        queue := lexer.queue ++ List.replicate count ⟨lexer.mark.line, .blockEnd⟩
        indent := outer.headD (-1)
        indents := outer.drop 1 }

/-! ## Tokens -/

/-- Pass over blanks, comments and line ends. A tabulator counts as a blank only where no name may start.
After a line end outside of flow collections a name may start. -/
def skipGap : Nat → Scan Unit
  | 0 => return
  | fuel + 1 => do
    let lexer ← get
    skipWhile fun c => c == 0x20 || (c == 9 && (lexer.flowLevel > 0 || !lexer.mayStartName))
    if (← here) == code '#' then skipWhile fun c => !isBreakOrEnd c
    if isBreak (← here) then
      skipBreak
      if lexer.flowLevel == 0 then allowName true
      skipGap fuel

/-- Put the token of `size` characters that stand here into the queue. -/
def mark (size : Nat) (body : TokenBody) : Scan Unit := do
  let line := (← get).mark.line
  advance size
  append ⟨line, body⟩

/-- Begin the stream. -/
def begin : Scan Unit := do
  modify fun lexer =>
    { lexer with
      isStarted := true
      mayStartName := true
      starts := #[⟨false, false, 0, ⟨0, 0, 0⟩⟩] }
  mark 0 .streamStart

/-- End the stream, as if on a line of its own. -/
def finish : Scan Unit := do
  modify fun lexer =>
    if lexer.mark.column == 0 then lexer
    else { lexer with mark := ⟨lexer.mark.index, lexer.mark.line + 1, 0⟩ }
  closeBlocks (-1)
  dropName
  allowName false
  mark 0 .streamEnd

/-- Cut a directive. -/
def cutDirective : Scan Unit := do
  closeBlocks (-1)
  dropName
  allowName false
  append (← directive)

/-- Cut the mark of a document's start or end. -/
def cutDocumentMark : Scan Unit := do
  closeBlocks (-1)
  dropName
  allowName false
  mark 3 (if (← here) == code '-' then .documentStart else .documentEnd)

/-- Cut the opening bracket of a flow collection. -/
def cutOpening (body : TokenBody) : Scan Unit := do
  noteName
  openFlow
  allowName true
  mark 1 body

/-- Cut the closing bracket of a flow collection. -/
def cutClosing (body : TokenBody) : Scan Unit := do
  dropName
  closeFlow
  allowName false
  mark 1 body

/-- Cut the comma between two entries of a flow collection. -/
def cutComma : Scan Unit := do
  dropName
  allowName true
  mark 1 .comma

/-- Cut the mark of an item. In a flow collection it is not refused here. -/
def cutItem : Scan Unit := do
  let lexer ← get
  if lexer.flowLevel == 0 then
    if !lexer.mayStartName then fail .itemHere
    openBlock lexer.mark.column none ⟨lexer.mark.line, .blockList⟩
  dropName
  allowName true
  mark 1 .item

/-- Cut the mark of a name. -/
def cutKey : Scan Unit := do
  let lexer ← get
  if lexer.flowLevel == 0 then
    if !lexer.mayStartName then fail .keyHere
    openBlock lexer.mark.column none ⟨lexer.mark.line, .blockMap⟩
  dropName
  allowName (lexer.flowLevel == 0)
  mark 1 .key

/-- Cut the colon after a name that was not marked. -/
def cutValueOf (start : NameStart) : Scan Unit := do
  let lexer ← get
  insertAt start.token ⟨start.mark.line, .key⟩
  openBlock start.mark.column (some start.token) ⟨start.mark.line, .blockMap⟩
  setStart lexer.flowLevel { start with isPossible := false }
  release start.token
  allowName false
  mark 1 .value

/-- Cut the colon after a name that was marked, or after none. -/
def cutBareValue : Scan Unit := do
  let lexer ← get
  if lexer.flowLevel == 0 then
    if !lexer.mayStartName then fail .valueHere
    openBlock lexer.mark.column none ⟨lexer.mark.line, .blockMap⟩
  allowName (lexer.flowLevel == 0)
  mark 1 .value

/-- Cut the colon after a name. -/
def cutValue : Scan Unit := do
  let isName ← isOpen (← get).flowLevel
  match isName, (← get).starts.back? with
  | true, some start => cutValueOf start
  | _, _ => cutBareValue

/-- Cut something that may be a name or start one. -/
def cutNamed (read : Scan Token) : Scan Unit := do
  noteName
  allowName false
  append (← read)

/-- Cut a scalar in lines of its own. -/
def cutBlock : Scan Unit := do
  dropName
  allowName true
  append (← block)

/-- Whether a plain scalar starts with a character before another one. -/
def startsPlain (isFlow : Bool) (c next : Nat) : Bool :=
  !(isGap c || indicators.contains c) || (c == code '-' && !isBlank next)
    || (!isFlow && (c == code '?' || c == code ':') && !isGap next)

/-- Cut the token that starts with a character before another one. -/
def cutAt (isFlow : Bool) (c next : Nat) : Scan Unit :=
  if c == 0x5B then cutOpening .flowList
  else if c == 0x7B then cutOpening .flowMap
  else if c == 0x5D then cutClosing .flowListEnd
  else if c == 0x7D then cutClosing .flowMapEnd
  else if c == code ',' then cutComma
  else if c == code '-' && isGap next then cutItem
  else if c == code '?' && (isFlow || isGap next) then cutKey
  else if c == code ':' && (isFlow || isGap next) then cutValue
  else if c == code '*' then cutNamed aliasToken
  else if c == code '&' then cutNamed anchor
  else if c == code '!' then cutNamed tag
  else if (c == code '|' || c == code '>') && !isFlow then cutBlock
  else if c == 0x27 || c == 0x22 then cutNamed quoted
  else if startsPlain isFlow c next then cutNamed plain
  else fail .noToken

/-- Cut the next token, and those that the layout puts before it. -/
def cut : Scan Unit := do
  need 1
  if !(← get).isStarted then begin
  else
    skipGap ((← get).size + 1)
    closeBlocks (← get).mark.column
    need 4
    let lexer ← get
    let c ← here
    if c == 0 then finish
    else if lexer.mark.column == 0 && c == code '%' then cutDirective
    else if ← atDocumentMark then cutDocumentMark
    else cutAt (lexer.flowLevel > 0) c (← look 1)

/-! ## Taking tokens -/

/-- Whether the first token of the queue may turn out to be a name. -/
def isHeldUp : Scan Bool := do
  let lexer ← get
  match lexer.awaited.dropWhile (lexer.taken < ·.1) with
  | (token, level) :: _ => if token == lexer.taken then isOpen level else return false
  | [] => return false

/-- Cut tokens until there is one that can be taken. -/
def fill : Nat → Scan Unit
  | 0 => return
  | fuel + 1 => do
    let mustCut ← if (← get).queue.isEmpty then pure true else isHeldUp
    if mustCut then
      cut
      fill fuel

/-- The next token. -/
def peek : Scan Token := do
  fill ((← get).size + 3)
  let lexer ← get
  return lexer.queue.headD ⟨lexer.mark.line, .streamEnd⟩

/-- Take the next token. The end of the stream stays. -/
def skip : Scan Unit :=
  modify fun lexer =>
    match lexer.queue with
    | [] => lexer
    | token :: rest =>
      if token.body == .streamEnd then lexer
      else { lexer with queue := rest, taken := lexer.taken + 1 }

end Scan

end Yaml

end Settings

end FunctionChain
