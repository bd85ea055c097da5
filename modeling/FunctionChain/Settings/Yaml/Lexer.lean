import FunctionChain.Settings.Yaml.Token

/-!
# A text of YAML that is being cut

The lexer holds the rest of the text, the tokens that are cut but not taken, and what the layout needs: the
columns at which block collections were opened, and for each flow level the place where a name may have
started. Whether something was a name is known only when its colon is met. So tokens wait in a queue as
long as the first of them may be a name, and the tokens that belong before it are put there later.
-/

namespace FunctionChain

namespace Settings

namespace Yaml

/-- A place where a name may have started. -/
structure NameStart where
  /-- Whether there may still be a name. -/
  isPossible : Bool
  /-- Whether anything else than a name would be a fault. -/
  isRequired : Bool
  /-- The number of the token that starts there. -/
  token : Nat
  mark : Mark
deriving Repr, DecidableEq

/-- A text that is being cut. -/
structure Lexer where
  rest : List Nat
  /-- The length of the whole text, which bounds every loop. -/
  size : Nat
  /-- The fault of the text and the number of characters that can be had without it. -/
  fault : Option (Nat × CharacterFault)
  mark : Mark
  isStarted : Bool
  /-- The tokens that wait. -/
  queue : List Token
  /-- How many tokens were taken. -/
  taken : Nat
  /-- How many flow collections are open. -/
  flowLevel : Nat
  /-- The column of the innermost block collection, or one before the first column. -/
  indent : Int
  /-- The columns of the block collections around that one. -/
  indents : List Int
  /-- Whether a name may start here. -/
  mayStartName : Bool
  /-- The name that may have started, for each flow level from the outermost one on. -/
  starts : Array NameStart
  /-- The tokens that hold up the queue because a name may start with them, with the flow level of the
  name. Later tokens stand before earlier ones. -/
  awaited : List (Nat × Nat)

/-- The lexer at the start of a text. -/
def Lexer.ofSource (source : Source) : Lexer where
  rest := source.characters
  size := source.characters.length
  fault := source.fault
  mark := ⟨0, 0, 0⟩
  isStarted := false
  queue := []
  taken := 0
  flowLevel := 0
  indent := -1
  indents := []
  mayStartName := false
  starts := #[]
  awaited := []

/-- A step of cutting a text. -/
abbrev Scan := StateT Lexer (Except Problem)

namespace Scan

/-- Fail where the text was read to. -/
def fail {α : Type} (fault : TokenFault) : Scan α := do
  throw (.token fault (← get).mark.line)

/-- Ask for characters. They may be behind the end of the text, but not behind a fault of it. -/
def need (count : Nat) : Scan Unit := do
  let lexer ← get
  match lexer.fault with
  | some (limit, fault) => if lexer.mark.index + count > limit then throw (.characters fault)
  | none => return

/-- The character at a distance. -/
def look (distance : Nat) : Scan Nat := do return (← get).rest.getD distance 0

/-- The next character. -/
def here : Scan Nat := look 0

/-- Pass over characters inside a line. -/
def advance (count : Nat) : Scan Unit :=
  modify fun lexer =>
    { lexer with
      rest := lexer.rest.drop count
      mark := ⟨lexer.mark.index + count, lexer.mark.line, lexer.mark.column + count⟩ }

/-- Read characters of a class. -/
def takeWhile (isOne : Nat → Bool) : Scan (List Nat) := do
  need 1
  let found := (← get).rest.takeWhile isOne
  advance found.length
  need 1
  return found

/-- Pass over characters of a class. -/
def skipWhile (isOne : Nat → Bool) : Scan Unit := do
  let _ ← takeWhile isOne

/-- How many characters a line end has: the two usual ones together count as one line end. -/
def breakSize : List Nat → Nat
  | 13 :: 10 :: _ => 2
  | c :: _ => if isBreak c then 1 else 0
  | [] => 0

/-- A line end as it counts inside of a text: the separators of lines and of paragraphs stay as they are,
and all other line ends are the same. -/
def breakText (c : Nat) : List Nat := if c == 0x2028 || c == 0x2029 then [c] else [10]

/-- Read a line end, if there is one. -/
def takeBreak : Scan (List Nat) := do
  need 2
  let lexer ← get
  match breakSize lexer.rest with
  | 0 => return []
  | size =>
    set { lexer with
      rest := lexer.rest.drop size
      mark := ⟨lexer.mark.index + size, lexer.mark.line + 1, 0⟩ }
    return breakText (lexer.rest.headD 0)

/-- Pass over a line end, if there is one. -/
def skipBreak : Scan Unit := do
  let _ ← takeBreak

/-- Whether a mark of a document's start or end stands at the start of a line. -/
def atDocumentMark : Scan Bool := do
  let lexer ← get
  let isMark (c : Char) : Bool :=
    (List.replicate 3 (code c)).isPrefixOf lexer.rest && isGap (lexer.rest.getD 3 0)
  return lexer.mark.column == 0 && (isMark '-' || isMark '.')

/-- Pass over blanks and a comment up to the end of the line, and over that. -/
def finishLine : Scan Unit := do
  skipWhile isBlank
  if (← here) == code '#' then skipWhile fun c => !isBreakOrEnd c
  if !isBreakOrEnd (← here) then fail .noCommentOrBreak
  if isBreak (← here) then skipBreak

/-! ## Tokens in the queue -/

/-- The number of the token that is cut next. -/
def nextNumber : Scan Nat := do
  let lexer ← get
  return lexer.taken + lexer.queue.length

/-- Put a token at the end of the queue. -/
def append (token : Token) : Scan Unit :=
  modify fun lexer => { lexer with queue := lexer.queue ++ [token] }

/-- Put a token before the one of a number, if that one still waits, and at the end otherwise. -/
def insertAt (number : Nat) (token : Token) : Scan Unit :=
  modify fun lexer =>
    if number < lexer.taken then { lexer with queue := lexer.queue ++ [token] }
    else
      let (before, after) := lexer.queue.splitAt (number - lexer.taken)
      { lexer with queue := before ++ token :: after }

end Scan

end Yaml

end Settings

end FunctionChain
