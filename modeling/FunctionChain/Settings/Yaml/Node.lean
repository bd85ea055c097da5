import FunctionChain.Settings.Yaml.Stream

/-!
# Nodes of YAML

The tokens of a document make a tree of scalars, lists and maps. A node may have a name, its anchor, and an
alias stands for the last node before it that has a name. An alias does not hold that node, but its number:
the node may be one that the alias itself is in.

Only the first document of a text is read, and of what follows it one token, so that a text with a fault
behind its first document may still be fine.
-/

namespace FunctionChain

namespace Settings

namespace Yaml

/-- A node of a document. Lines count from zero. -/
inductive Node where
  /-- A text. It is implicit if it may mean something else than a text without a tag that says so. -/
  | scalar (line : Nat) (tag text : Bytes) (isImplicit : Bool)
  | list (line : Nat) (tag : Bytes) (items : List Node)
  | map (line : Nat) (tag : Bytes) (entries : List (Node × Node))
  /-- An alias, by its number among aliases, with the number of the node that it stands for. -/
  | aliasOf (number : Nat) (name : Bytes) (target : Nat)

/-- The node that stands where nothing does. -/
def Node.nothing (line : Nat) : Node := .scalar line [] [] true

/-- The names and handles of a document that is being read. -/
structure Names where
  /-- The handles of tags and what they stand for. -/
  handles : List (Bytes × Bytes)
  /-- The numbers of the nodes with names, the last one first. -/
  anchors : List (Bytes × Nat)
  /-- The nodes with names that are read, by number. -/
  anchored : List (Nat × Node)
  /-- How many aliases were read. -/
  aliasCount : Nat

/-- No names. -/
def Names.none : Names := ⟨[], [], [], 0⟩

/-- A step of reading a document. -/
abbrev Reading := StateT Names Scan

namespace Reading

/-- The next token. -/
def peek : Reading Token := Scan.peek

/-- Take the next token. -/
def skip : Reading Unit := Scan.skip

/-- Fail at a token. -/
def fail {α : Type} (fault : ShapeFault) (token : Token) : Reading α :=
  throw (.shape fault token.line)

/-! ## Directives -/

/-- The handles that need no directive. -/
def commonHandles : List (Bytes × Bytes) :=
  [(bytes "!", bytes "!"), (bytes "!!", bytes "tag:yaml.org,2002:")]

/-- Read the directives of a document. -/
def directives : Nat → (hasVersion : Bool) → Reading Unit
  | 0, _ => return
  | fuel + 1, hasVersion => do
    let token ← peek
    match token.body with
    | .version major minor =>
      if hasVersion then fail .twoVersions token
      if (major, minor) != (1, 1) then fail .otherVersion token
      skip
      directives fuel true
    | .handle name start =>
      if ((← get).handles.lookup name).isSome then fail .twoHandles token
      modify fun names => { names with handles := names.handles ++ [(name, start)] }
      skip
      directives fuel hasVersion
    | _ => modify fun names => { names with handles := names.handles ++ commonHandles }

/-! ## Names and tags of nodes -/

/-- The tag that a handle and a suffix make. -/
def fullTag (token : Token) (handle suffix : Bytes) : Reading Bytes := do
  if handle.isEmpty then return suffix
  match (← get).handles.lookup handle with
  | some start => if start.isEmpty && suffix.isEmpty then fail .unknownHandle token else return start ++ suffix
  | none => fail .unknownHandle token

/-- Read the anchor of a node, if it has one. -/
def anchor? : Reading (Option Bytes) := do
  match (← peek).body with
  | .anchor name =>
    skip
    return some name
  | _ => return none

/-- Read the tag of a node, if it has one. -/
def tag? : Reading (Option (Token × Bytes × Bytes)) := do
  let token ← peek
  match token.body with
  | .tag handle suffix =>
    skip
    return some (token, handle, suffix)
  | _ => return none

/-- Read the anchor and the tag of a node, in one order or the other. Without a tag it is empty. -/
def properties : Reading (Option Bytes × Bytes) := do
  let (anchor, tag) ← match ← anchor? with
    | some name => pure (some name, ← tag?)
    | none =>
      match ← tag? with
      | some tag => pure (← anchor?, some tag)
      | none => pure (none, none)
  let _ ← peek
  match tag with
  | some (token, handle, suffix) => return (anchor, ← fullTag token handle suffix)
  | none => return (anchor, [])

/-- Give a name to the node that is read next. -/
def declare (anchor : Option Bytes) : Reading (Option Nat) := do
  match anchor with
  | none => return none
  | some name =>
    let number := (← get).anchors.length
    modify fun names => { names with anchors := (name, number) :: names.anchors }
    return some number

/-- Keep a node that has a name. -/
def keep (number : Option Nat) (node : Node) : Reading Node := do
  if let some number := number then
    modify fun names => { names with anchored := (number, node) :: names.anchored }
  return node

/-- The alias for the last node of a name. -/
def aliasOf (name : Bytes) : Reading Node := do
  let names ← get
  match names.anchors.lookup name with
  | none => throw (.unknownAnchor name)
  | some target =>
    set { names with aliasCount := names.aliasCount + 1 }
    return .aliasOf names.aliasCount name target

/-! ## Nodes -/

/-- Whether a token ends an entry of a block collection or starts another one. -/
def isBlockEdge : TokenBody → Bool
  | .key | .value | .blockEnd => true
  | _ => false

/-- Whether a token ends an entry of a flow collection. -/
def isFlowEdge (closing : TokenBody) (body : TokenBody) : Bool := body == .comma || body == closing

mutual

/-- Read a node. Block collections may not stand in flow collections, and a list without indentation only
in a map. -/
def node (isBlock isUnindented : Bool) : Nat → Reading Node
  | 0 => return .nothing 0
  | fuel + 1 => do
    let first ← peek
    if let .aliasOf name := first.body then
      skip
      return ← aliasOf name
    let (anchor, tag) ← properties
    let number ← declare anchor
    let token ← peek
    let line := first.line
    match token.body, isBlock, isUnindented with
    | .item, _, true => keep number (.list line tag (← unindentedItems fuel []))
    | .scalar text isPlain, _, _ =>
      skip
      keep number (.scalar line tag text ((tag.isEmpty && isPlain) || tag == bytes "!"))
    | .flowList, _, _ =>
      skip
      keep number (.list line tag (← flowItems fuel true []))
    | .flowMap, _, _ =>
      skip
      keep number (.map line tag (← flowEntries fuel true []))
    | .blockList, true, _ =>
      skip
      keep number (.list line tag (← blockItems fuel []))
    | .blockMap, true, _ =>
      skip
      keep number (.map line tag (← blockEntries fuel []))
    | _, _, _ =>
      if anchor.isSome || !tag.isEmpty then keep number (.scalar line tag [] tag.isEmpty)
      else fail .noContent token

/-- Read the items of a block list. `done` are those before, in reverse. -/
def blockItems : Nat → List Node → Reading (List Node)
  | 0, done => return done.reverse
  | fuel + 1, done => do
    let token ← peek
    match token.body with
    | .item =>
      skip
      let next := (← peek).body
      let item ←
        if next == .item || next == .blockEnd then pure (.nothing token.line) else node true false fuel
      blockItems fuel (item :: done)
    | .blockEnd =>
      skip
      return done.reverse
    | _ => fail .noItem token

/-- Read the items of a list that is not indented. -/
def unindentedItems : Nat → List Node → Reading (List Node)
  | 0, done => return done.reverse
  | fuel + 1, done => do
    let token ← peek
    match token.body with
    | .item =>
      skip
      let next := (← peek).body
      let item ←
        if next == .item || isBlockEdge next then pure (.nothing token.line) else node true false fuel
      unindentedItems fuel (item :: done)
    | _ => return done.reverse

/-- Read what stands behind the mark of a name or of a value in a block map. -/
def blockPart (mark : Token) : Nat → Reading Node
  | 0 => return .nothing mark.line
  | fuel + 1 => do
    skip
    if isBlockEdge (← peek).body then return .nothing mark.line else node true true fuel

/-- Read the entries of a block map. -/
def blockEntries : Nat → List (Node × Node) → Reading (List (Node × Node))
  | 0, done => return done.reverse
  | fuel + 1, done => do
    let token ← peek
    match token.body with
    | .key =>
      let name ← blockPart token fuel
      let next ← peek
      let value ← if next.body == .value then blockPart next fuel else pure (.nothing next.line)
      blockEntries fuel ((name, value) :: done)
    | .blockEnd =>
      skip
      return done.reverse
    | _ => fail .noKey token

/-- Read the value of a name in a flow collection, if there is one. -/
def flowValue (closing : TokenBody) : Nat → Reading Node
  | 0 => return .nothing 0
  | fuel + 1 => do
    let token ← peek
    if token.body == .value then
      skip
      let next ← peek
      if isFlowEdge closing next.body then return .nothing next.line else node false false fuel
    else return .nothing token.line

/-- Read a map of one entry that stands in a flow list without braces. Where its name is missing, the token
that stands there instead is passed over. -/
def flowPair (line : Nat) : Nat → Reading Node
  | 0 => return .nothing line
  | fuel + 1 => do
    let token ← peek
    let name ←
      if token.body == .value || isFlowEdge .flowListEnd token.body then do
        skip
        pure (.nothing token.line)
      else node false false fuel
    let value ← flowValue .flowListEnd fuel
    let _ ← peek
    return .map line [] [(name, value)]

/-- Read the items of a flow list. -/
def flowItems : Nat → (isFirst : Bool) → List Node → Reading (List Node)
  | 0, _, done => return done.reverse
  | fuel + 1, isFirst, done => do
    let token ← peek
    if !isFirst && token.body == .comma then skip
    let next ← peek
    match next.body with
    | .flowListEnd =>
      skip
      return done.reverse
    | body =>
      if !isFirst && token.body != .comma then fail .noListEnd token
      let item ←
        if body == .key then do
          skip
          flowPair next.line fuel
        else node false false fuel
      flowItems fuel false (item :: done)

/-- Read the entries of a flow map. -/
def flowEntries : Nat → (isFirst : Bool) → List (Node × Node) → Reading (List (Node × Node))
  | 0, _, done => return done.reverse
  | fuel + 1, isFirst, done => do
    let token ← peek
    if !isFirst && token.body == .comma then skip
    let next ← peek
    match next.body with
    | .flowMapEnd =>
      skip
      return done.reverse
    | .key =>
      if !isFirst && token.body != .comma then fail .noMapEnd token
      skip
      let start ← peek
      let name ←
        if start.body == .value || isFlowEdge .flowMapEnd start.body then pure (.nothing start.line)
        else node false false fuel
      let value ← flowValue .flowMapEnd fuel
      flowEntries fuel false ((name, value) :: done)
    | _ =>
      if !isFirst && token.body != .comma then fail .noMapEnd token
      let name ← node false false fuel
      let after ← peek
      flowEntries fuel false ((name, .nothing after.line) :: done)

end

/-! ## Documents -/

/-- Whether a token stands before a document. -/
def isPrologue : TokenBody → Bool
  | .version .. | .handle .. | .documentStart => true
  | _ => false

/-- Read the node of a document that starts with a mark. -/
def markedContent (fuel : Nat) : Reading Node := do
  let token ← peek
  if token.body != .documentStart then fail .noDocumentStart token
  skip
  let next ← peek
  if isPrologue next.body || next.body == .documentEnd || next.body == .streamEnd then
    return .nothing next.line
  else node true false fuel

/-- Read the first document, if there is one. -/
def document (fuel : Nat) : Reading (Option Node) := do
  let _ ← peek
  skip
  let token ← peek
  if token.body == .streamEnd then return none
  directives fuel false
  let content ← if isPrologue token.body then markedContent fuel else node true false fuel
  let _ ← peek
  return some content

end Reading

/-- The first document of a text, if there is one, and its nodes with names by number. A text without
characters is one with an empty line. -/
def readDocument (text : Bytes) : Except Problem (Option Node × List (Nat × Node)) :=
  let source := Source.ofText (if text.isEmpty then [10] else text)
  let fuel := 8 * source.characters.length + 64
  match ((Reading.document fuel).run Names.none).run (Lexer.ofSource source) with
  | .ok ((content, names), _) => .ok (content, names.anchored)
  | .error problem => .error problem

end Yaml

end Settings

end FunctionChain
