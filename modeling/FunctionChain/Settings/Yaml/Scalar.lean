import FunctionChain.Settings.Yaml.Lexer

/-!
# Scalars of YAML

A scalar is a text. It stands plain, in quotes of two kinds, or in lines of its own below a mark. In all but
the last of these a line end counts as a blank, and of several line ends all but the first one count.
-/

namespace FunctionChain

namespace Settings

namespace Yaml

/-- What stands between two words of a scalar. -/
structure Gap where
  /-- The blanks before any line end, in reverse. -/
  blanks : List Nat
  /-- Whether there was a line end. -/
  hasBreak : Bool
  /-- The first line end, if it counts. -/
  lead : List Nat
  /-- The line ends after the first one. -/
  trail : List Nat
deriving Repr, DecidableEq

namespace Gap

/-- Nothing between words. -/
def none : Gap := ⟨[], false, [], []⟩

/-- Two line ends, the first one of which may be folded: the usual one becomes a blank, or nothing if other
line ends follow. -/
def folded (lead trail : List Nat) : List Nat :=
  if lead.head? == some 10 then if trail.isEmpty then [0x20] else trail else lead ++ trail

/-- What a gap counts as in the text of a scalar. -/
def characters (gap : Gap) : List Nat :=
  if gap.hasBreak then folded gap.lead gap.trail else gap.blanks.reverse

end Gap

namespace Scan

/-- The column where the next character stands. -/
def column : Scan Int := do return (← get).mark.column

/-- Read blanks and line ends. At the start of a line no tabulator may stand before the column
`tabsFrom`. -/
def gapFrom (tabsFrom : Int) : Nat → Gap → Scan Gap
  | 0, gap => return gap
  | fuel + 1, gap => do
    need 1
    let c ← here
    if isBlank c then
      if gap.hasBreak && c == 9 && (← column) < tabsFrom then fail .tabBeforeText
      advance 1
      gapFrom tabsFrom fuel (if gap.hasBreak then gap else { gap with blanks := c :: gap.blanks })
    else if isBreak c then
      let lineEnd ← takeBreak
      gapFrom tabsFrom fuel
        (if gap.hasBreak then { gap with trail := gap.trail ++ lineEnd } else ⟨[], true, lineEnd, []⟩)
    else return gap

/-! ## Plain scalars -/

/-- The length of the word of a plain scalar that a text starts with. -/
def plainLength (isFlow : Bool) : Nat → List Nat → Nat
  | length, [] => length
  | length, c :: rest =>
    if isGap c || (c == code ':' && isGap (rest.headD 0)) || (isFlow && flowEnds.contains c) then length
    else plainLength isFlow (length + 1) rest

/-- Read a plain scalar that has to be indented to a column. `done` is the text before in reverse, and
`gap` what follows it. -/
def plainFrom (indent : Int) : Nat → List Nat → Gap → Scan (List Nat × Gap)
  | 0, done, gap => return (done, gap)
  | fuel + 1, done, gap => do
    need 4
    let lexer ← get
    if (← atDocumentMark) || (← here) == code '#' then return (done, gap)
    let word := lexer.rest.take (plainLength (lexer.flowLevel > 0) 0 lexer.rest)
    advance word.length
    need 2
    let (done, gap) :=
      if word.isEmpty then (done, gap) else (word.reverse ++ gap.characters.reverse ++ done, Gap.none)
    let next ← here
    if !(isBlank next || isBreak next) then return (done, gap)
    let gap ← gapFrom indent (lexer.size + 1) gap
    if lexer.flowLevel == 0 && (← column) < indent then return (done, gap)
    plainFrom indent fuel done gap

/-- Read a plain scalar. After a line end that ends it a name may start. -/
def plain : Scan Token := do
  let lexer ← get
  let (done, gap) ← plainFrom (lexer.indent + 1) (lexer.size + 1) [] .none
  if gap.hasBreak then modify fun lexer => { lexer with mayStartName := true }
  return ⟨lexer.mark.line, .scalar (spelled done.reverse) true⟩

/-! ## Scalars in quotes -/

/-- The character of a short escape. -/
def escape? (c : Nat) : Option Nat :=
  [(code '0', 0), (code 'a', 7), (code 'b', 8), (code 't', 9), (9, 9), (code 'n', 10), (code 'v', 11),
    (code 'f', 12), (code 'r', 13), (code 'e', 27), (0x20, 0x20), (0x22, 0x22), (0x27, 0x27), (0x5C, 0x5C),
    (code 'N', 0x85), (code '_', 0xA0), (code 'L', 0x2028), (code 'P', 0x2029)].lookup c

/-- The number of digits of a numbered escape. -/
def escapeSize? (c : Nat) : Option Nat := [(code 'x', 2), (code 'u', 4), (code 'U', 8)].lookup c

/-- Read an escape. -/
def escape : Scan Nat := do
  let letter ← look 1
  match escapeSize? letter with
  | some size =>
    advance 2
    need size
    let digits := (← get).rest.take size
    match digits.length == size, hexValue? digits with
    | true, some n =>
      if (0xD800 ≤ n && n ≤ 0xDFFF) || n > 0x10FFFF then fail .badEscapeCode
      advance size
      return n
    | _, _ => fail .noHexDigit
  | none =>
    match escape? letter with
    | some c =>
      advance 2
      return c
    | none => fail .unknownEscape

/-- Read a word in quotes up to a gap or to the end of the quotes. A line end after a backslash ends it
too; then the second component is true. `done` is what was read before, in reverse. -/
def quotedWord (quote : Nat) : Nat → List Nat → Scan (List Nat × Bool)
  | 0, done => return (done, false)
  | fuel + 1, done => do
    let c ← here
    let next ← look 1
    if isGap c then return (done, false)
    else if c == quote then
      if quote == 0x27 && next == quote then
        advance 2
        need 2
        quotedWord quote fuel (c :: done)
      else return (done, false)
    else if c == 0x5C && quote == 0x22 then
      if isBreak next then
        need 3
        advance 1
        skipBreak
        return (done, true)
      else
        let character ← escape
        need 2
        quotedWord quote fuel (character :: done)
    else
      advance 1
      need 2
      quotedWord quote fuel (c :: done)

/-- Read a scalar in quotes after the opening one. `done` is what was read before, in reverse. -/
def quotedFrom (quote : Nat) : Nat → List Nat → Scan (List Nat)
  | 0, done => return done
  | fuel + 1, done => do
    need 4
    if ← atDocumentMark then fail .documentInQuotes
    if (← here) == 0 then fail .endInQuotes
    let size := (← get).size
    let (done, isJoined) ← quotedWord quote (size + 1) done
    need 1
    if (← here) == quote then return done
    let gap ← gapFrom 0 (size + 1) { Gap.none with hasBreak := isJoined }
    quotedFrom quote fuel (gap.characters.reverse ++ done)

/-- Read a scalar in quotes. -/
def quoted : Scan Token := do
  let lexer ← get
  let quote ← here
  advance 1
  let done ← quotedFrom quote (lexer.size + 1) []
  advance 1
  return ⟨lexer.mark.line, .scalar (spelled done.reverse) false⟩

/-! ## Scalars in lines of their own -/

/-- What happens to the line ends behind a scalar. -/
inductive Chomping where
  | clip
  | strip
  | keep
deriving Repr, DecidableEq

/-- Read the mark for the line ends behind a scalar. -/
def chomping? : Scan (Option Chomping) := do
  need 1
  let c ← here
  if c == code '+' then
    advance 1
    return some .keep
  else if c == code '-' then
    advance 1
    return some .strip
  else return none

/-- Read the number of columns by which a scalar is indented; zero if it is not given. -/
def indentation : Scan Nat := do
  need 1
  let c ← here
  if !isDigit c then return 0
  if c == code '0' then fail .zeroIndent
  advance 1
  return c - code '0'

/-- Read both marks of a scalar, in one order or the other. -/
def blockMarks : Scan (Chomping × Nat) := do
  match ← chomping? with
  | some chomping => return (chomping, ← indentation)
  | none =>
    match ← indentation with
    | 0 => return (.clip, 0)
    | columns => return ((← chomping?).getD .clip, columns)

/-- Pass over empty lines and the indentation of the next line. If the column to which a scalar is indented
is not known, it is zero, and all blanks belong to the indentation. `deepest` is the greatest column so far
and `breaks` are the line ends. -/
def emptyLines (indent : Nat) : Nat → Nat → List Nat → Scan (Nat × List Nat)
  | 0, deepest, breaks => return (deepest, breaks)
  | fuel + 1, deepest, breaks => do
    need 1
    let lexer ← get
    let spaces := (lexer.rest.takeWhile (· == 0x20)).length
    advance (if indent == 0 then spaces else min spaces (indent - lexer.mark.column))
    need 1
    let column := (← get).mark.column
    let deepest := max deepest column
    if (indent == 0 || column < indent) && (← here) == 9 then fail .tabInIndent
    if isBreak (← here) then
      let lineEnd ← takeBreak
      emptyLines indent fuel deepest (breaks ++ lineEnd)
    else return (deepest, breaks)

/-- Pass over empty lines. The column of a scalar is found if it was not known. -/
def blockGap (indent : Nat) : Scan (Nat × List Nat) := do
  let lexer ← get
  let (deepest, breaks) ← emptyLines indent (lexer.size + 1) 0 []
  let least := max (lexer.indent + 1).toNat 1
  return (if indent == 0 then max deepest least else indent, breaks)

/-- The lines of a scalar that were read. -/
structure BlockText where
  /-- The text in reverse. -/
  done : List Nat
  /-- The line end of the last line. -/
  lead : List Nat
  /-- The line ends of the empty lines after it. -/
  trail : List Nat
  /-- Whether the last line starts with a blank. -/
  isIndented : Bool

/-- Read the lines of a scalar that is indented to a column. Lines are folded unless one of them starts
with a blank. -/
def blockLines (isLiteral : Bool) (indent : Nat) : Nat → BlockText → Scan BlockText
  | 0, text => return text
  | fuel + 1, text => do
    need 1
    let lexer ← get
    let c ← here
    if lexer.mark.column != indent || c == 0 then return text
    let isIndented := isBlank c
    let isFolded := !isLiteral && !text.isIndented && !isIndented && text.lead.head? == some 10
    let between := if isFolded then Gap.folded text.lead text.trail else text.lead ++ text.trail
    let line ← takeWhile fun c => !isBreakOrEnd c
    let lead ← takeBreak
    let (_, trail) ← blockGap indent
    blockLines isLiteral indent fuel
      ⟨line.reverse ++ between.reverse ++ text.done, lead, trail, isIndented⟩

/-- Read a scalar in lines of its own. -/
def block : Scan Token := do
  let lexer ← get
  let isLiteral := (← here) == code '|'
  advance 1
  let (chomping, columns) ← blockMarks
  finishLine
  let given := if columns == 0 then 0 else (max lexer.indent 0).toNat + columns
  let (indent, breaks) ← blockGap given
  let text ← blockLines isLiteral indent (lexer.size + 1) ⟨[], [], breaks, false⟩
  let ending := match chomping with
    | .strip => []
    | .clip => text.lead
    | .keep => text.lead ++ text.trail
  return ⟨lexer.mark.line, .scalar (spelled (text.done.reverse ++ ending)) false⟩

end Scan

end Yaml

end Settings

end FunctionChain
