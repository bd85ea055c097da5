import FunctionChain.Script.Regex

/-!
# Editing lines

The stream editor: instructions that are applied to every line of a text, each to the lines that its
addresses choose. An instruction replaces what matches an expression, replaces bytes by bytes, writes or
drops the line, or ends the work.
-/

namespace FunctionChain

namespace Script

namespace Editing

/-- A line, by its number or its content. -/
inductive Address where
  | line (number : Nat)
  | last
  | matching (regex : Regex)

/-- A substitution on lines. -/
structure Substitution where
  regex : Regex
  replacement : Bytes
  folds : Bool
  everywhere : Bool
  prints : Bool
  /-- The number of the first match that is replaced. -/
  first : Nat

/-- What is done to a line. -/
inductive Action where
  | substitute (edit : Substitution)
  | exchange (pairs : List (UInt8 × UInt8))
  | delete
  | print
  | quit
  /-- Write the number of the line. -/
  | number
  /-- Write lines before the line, after it, or in its place. -/
  | insert (text : Bytes)
  | append (text : Bytes)
  | change (text : Bytes)

/-- An instruction: the lines for which it is, and what it does. -/
structure Instruction where
  start : Option Address
  stop : Option Address
  negated : Bool
  action : Action

/-! ## Substituting -/

/-- The text that replaces a match. -/
def replacementText (found : Regex.Match) : Bytes → Bytes
  | 0x5C :: b :: rest =>
    (if Bytes.isDigit b then
      if b == byte '0' then found.found else (found.captures.lookup (b.toNat - 48)).getD []
    else if b == byte 'n' then [10] else if b == byte 't' then [9] else [b])
      ++ replacementText found rest
  | 0x26 :: rest => found.found ++ replacementText found rest
  | b :: rest => b :: replacementText found rest
  | [] => []

/-- Apply a substitution to the rest of a line, of which `whole` is the length. `count` is the number of the
next match; `fuel` bounds the number of matches. The flag tells whether anything was replaced. -/
def Substitution.applyFrom (edit : Substitution) (whole : Nat) : Nat → Nat → Bytes → Bytes × Bool
  | 0, _, line => (line, false)
  | fuel + 1, count, line =>
    match Regex.searchFrom edit.folds whole edit.regex [] line with
    | none => (line, false)
    | some found =>
      let isReplaced := count == edit.first || (edit.everywhere && count > edit.first)
      let changed := found.before
        ++ (if isReplaced then replacementText found edit.replacement else found.found)
      if isReplaced && !edit.everywhere then (changed ++ found.rest, true)
      else
        let (step, rest) := match found.found, found.rest with
          | [], b :: rest => ([b], rest)
          | _, rest => ([], rest)
        if found.found.isEmpty && found.rest.isEmpty then (changed, isReplaced)
        else
          let (more, wasReplaced) := applyFrom edit whole fuel (count + 1) rest
          (changed ++ step ++ more, isReplaced || wasReplaced)

/-- Apply a substitution to a line, if it replaces anything there. -/
def Substitution.apply (edit : Substitution) (line : Bytes) : Option Bytes :=
  let (changed, isReplaced) := edit.applyFrom line.length (line.length + 2) 1 line
  if isReplaced then some changed else none

/-! ## Reading instructions -/

/-- The text up to an unescaped mark, and what follows it. -/
def untilMark (mark : UInt8) : Bytes → Bytes → Option (Bytes × Bytes)
  | _, [] => none
  | done, 0x5C :: b :: rest =>
    if b == mark then untilMark mark (b :: done) rest
    else untilMark mark (b :: 0x5C :: done) rest
  | done, b :: rest => if b == mark then some (done.reverse, rest) else untilMark mark (b :: done) rest

/-- Whether a byte separates instructions. -/
def separates (b : UInt8) : Bool := b == byte ';' || b == 10

/-- Whether a byte may stand before an instruction. -/
def isIdle (b : UInt8) : Bool := separates b || b == 0x20 || b == 9

/-- An address at the start of a text. -/
def address? (extended : Bool) (text : Bytes) : Option (Option Address × Bytes) :=
  match text with
  | 0x24 :: rest => some (some .last, rest)
  | 0x2F :: rest => do
    let (pattern, rest) ← untilMark (byte '/') [] rest
    let regex ← Regex.read extended pattern
    some (some (.matching regex), rest)
  | _ =>
    let digits := text.takeWhile Bytes.isDigit
    some ((Decimal.toNat? digits).map .line, text.drop digits.length)

/-- The lines of an instruction that writes lines, and what follows them. A backslash keeps the end of a
line, and is left out before all other bytes. -/
def givenLines : Bytes → Bytes × Bytes
  | 0x5C :: b :: rest =>
    let (text, rest) := givenLines rest
    (b :: text, rest)
  | 0x0A :: rest => ([10], rest)
  | b :: rest =>
    let (text, rest) := givenLines rest
    (b :: text, rest)
  | [] => ([10], [])

/-- The beginning of the lines of an instruction, which may stand on the next line. -/
def linesStart (text : Bytes) : Bytes :=
  let isGap (b : UInt8) : Bool := b == 0x20 || b == 9
  match text.dropWhile isGap with
  | 0x5C :: rest =>
    match rest.dropWhile isGap with
    | 0x0A :: rest => rest
    | _ => rest
  | rest => rest

/-- The action at the start of a text, what follows it, or a message. -/
def action (extended : Bool) (text : Bytes) : Except Bytes (Action × Bytes) :=
  match text with
  | [] => .error (bytes "missing command")
  | letter :: rest =>
    if letter == byte 'd' then .ok (.delete, rest)
    else if letter == byte 'p' then .ok (.print, rest)
    else if letter == byte 'q' then .ok (.quit, rest)
    else if letter == byte '=' then .ok (.number, rest)
    else if letter == byte 'a' || letter == byte 'i' || letter == byte 'c' then
      let start := linesStart rest
      if start.isEmpty then .error (bytes "expected \\ after `a', `c' or `i'")
      else
        let (text, rest) := givenLines start
        .ok (if letter == byte 'a' then .append text else if letter == byte 'i' then .insert text
          else .change text, rest)
    else if letter == byte 's' || letter == byte 'y' then
      let parts : Option (Bytes × Bytes × Bytes) := match rest with
        | mark :: rest => do
          let (first, rest) ← untilMark mark [] rest
          let (second, rest) ← untilMark mark [] rest
          some (first, second, rest)
        | [] => none
      match parts with
      | none => .error (bytes "unterminated `" ++ [letter] ++ bytes "' command")
      | some (first, second, rest) =>
        if letter == byte 'y' then .ok (.exchange (first.zip second), rest)
        else
          let isFlag (b : UInt8) : Bool :=
            (bytes "gpiI").contains b || Bytes.isDigit b
          let flags := rest.takeWhile isFlag
          match Regex.read extended first with
          | none => .error (bytes "invalid expression")
          | some regex =>
            .ok (.substitute
              { regex
                replacement := second
                folds := flags.contains (byte 'i') || flags.contains (byte 'I')
                everywhere := flags.contains (byte 'g')
                prints := flags.contains (byte 'p')
                first := (Decimal.toNat? (flags.filter Bytes.isDigit)).getD 1 },
              rest.drop flags.length)
    else .error (bytes "unknown command: `" ++ [letter] ++ bytes "'")

/-- The instructions of a text, or a message with the place that it is about. `whole` is the length of the
text; `fuel` is more than that. -/
def instructions (extended : Bool) (whole : Nat) : Nat → Bytes → Except (Nat × Bytes) (List Instruction)
  | 0, _ => .ok []
  | fuel + 1, text =>
    let text := text.dropWhile isIdle
    if text.isEmpty then .ok []
    else
      let ranged : Option (Option Address × Option Address × Bytes) := do
        let (start, rest) ← address? extended text
        match start, rest with
        | some _, 0x2C :: rest =>
          let (stop, rest) ← address? extended rest
          some (start, stop, rest)
        | _, _ => some (start, none, rest)
      match ranged with
      | none => .error (whole, bytes "unterminated address regex")
      | some (start, stop, rest) =>
        let rest := rest.dropWhile (· == 0x20)
        let (negated, rest) := match rest with
          | 0x21 :: rest => (true, rest)
          | _ => (false, rest)
        match action extended rest with
        | .error message =>
          let isOpen := Bytes.startsWith message (bytes "unterminated")
          .error (if isOpen then whole else whole - rest.length + 1, message)
        | .ok (action, rest) =>
          match instructions extended whole fuel rest with
          | .error problem => .error problem
          | .ok more => .ok (⟨start, stop, negated, action⟩ :: more)

/-- The instructions of a text, or a message with the place that it is about. -/
def read (extended : Bool) (text : Bytes) : Except (Nat × Bytes) (List Instruction) :=
  instructions extended text.length (text.length + 1) text

/-! ## Working on lines -/

/-- The lines of a text, each with its end if it has one. -/
def linesOf (text : Bytes) : List (Bytes × Bool) :=
  let pieces := Bytes.splitOn text 10
  let ended := pieces.dropLast.map (·, true)
  match pieces.getLast? with
  | some [] | none => ended
  | some last => ended ++ [(last, false)]

/-- A line at work. -/
structure Line where
  number : Nat
  isLast : Bool
  text : Bytes
  /-- The end of the line, if it has one. -/
  ending : Bytes

/-- Whether an address names a line. -/
def Address.names (line : Line) : Address → Bool
  | .line number => line.number == number
  | .last => line.isLast
  | .matching regex => (Regex.search false regex line.text).isSome

/-- Whether an instruction is for a line, and whether its range goes on after it. -/
def Instruction.isFor (line : Line) (isOpen : Bool) (instruction : Instruction) : Bool × Bool :=
  match instruction.start, instruction.stop with
  | none, _ => (true, false)
  | some start, none => (start.names line, false)
  | some start, some stop =>
    if isOpen then
      match stop with
      | .line number => if line.number > number then (start.names line, false)
        else (true, line.number < number)
      | stop => (true, !stop.names line)
    else if start.names line then
      match stop with
      | .line number => (true, line.number < number)
      | .last => (true, !line.isLast)
      | .matching _ => (true, true)
    else (false, false)

/-- What has come of a line. -/
structure Outcome where
  line : Line
  /-- What was written, apart from the line itself. -/
  written : Bytes
  /-- What is to be written after the line. -/
  after : Bytes
  isDeleted : Bool
  isQuit : Bool

/-- Apply an action to a line. -/
def Action.apply (outcome : Outcome) : Action → Outcome
  | .delete => { outcome with isDeleted := true }
  | .print =>
    { outcome with written := outcome.written ++ outcome.line.text ++ outcome.line.ending }
  | .quit => { outcome with isQuit := true }
  | .insert text => { outcome with written := outcome.written ++ text }
  | .append text => { outcome with after := outcome.after ++ text }
  | .change text => { outcome with written := outcome.written ++ text, isDeleted := true }
  | .number =>
    { outcome with written := outcome.written ++ Decimal.ofNat outcome.line.number ++ [10] }
  | .exchange pairs =>
    { outcome with
      line := { outcome.line with text := outcome.line.text.map fun b => (pairs.lookup b).getD b } }
  | .substitute edit =>
    match edit.apply outcome.line.text with
    | none => outcome
    | some text =>
      { outcome with
        line := { outcome.line with text }
        written := outcome.written
          ++ (if edit.prints then text ++ outcome.line.ending else []) }

/-- Apply instructions to a line; the flags are those of the ranges before it, and come back as those
after it. -/
def applyAll (outcome : Outcome) : List (Instruction × Bool) → Outcome × List Bool
  | [] => (outcome, [])
  | (instruction, isOpen) :: rest =>
    if outcome.isDeleted || outcome.isQuit then (outcome, isOpen :: rest.map (·.2))
    else
      let (isChosen, staysOpen) := instruction.isFor outcome.line isOpen
      let outcome := if isChosen != instruction.negated then instruction.action.apply outcome else outcome
      let (outcome, flags) := applyAll outcome rest
      (outcome, staysOpen :: flags)

/-- Apply instructions to the lines of a text. `isQuiet` leaves out the lines themselves. -/
def editLines (instructions : List Instruction) (isQuiet : Bool) :
    Nat → List Bool → List (Bytes × Bool) → Bytes
  | _, _, [] => []
  | number, flags, (text, hasEnd) :: rest =>
    let line : Line := ⟨number, rest.isEmpty, text, if hasEnd then [10] else []⟩
    let (outcome, flags) := applyAll ⟨line, [], [], false, false⟩ (instructions.zip flags)
    let shown := if isQuiet || outcome.isDeleted then []
      else outcome.line.text ++ (if outcome.after.isEmpty then outcome.line.ending else [10])
    outcome.written ++ shown ++ outcome.after
      ++ (if outcome.isQuit then [] else editLines instructions isQuiet (number + 1) flags rest)

/-- Apply instructions to a text. -/
def edit (instructions : List Instruction) (isQuiet : Bool) (text : Bytes) : Bytes :=
  editLines instructions isQuiet 1 (instructions.map fun _ => false) (linesOf text)

end Editing

end Script

end FunctionChain
