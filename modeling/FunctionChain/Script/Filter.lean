import FunctionChain.Script.Order

/-!
# Programs on text

The programs of the system that read text from files or from the input and write something made of it:
some of its lines, some of its bytes, or how many there are.
-/

namespace FunctionChain

namespace Script

namespace Filter

open FunctionChain.Script.Utility (Effect options has valueOf? quoted errorText misuse)

/-- The file that never ends, as far as it is read. -/
def endlessPath : Bytes := bytes "/dev/zero"

/-- The content at a path, or all of the input for a dash. -/
def contentAt (state : State) (path : Bytes) : Except Bytes Bytes × State :=
  if path == bytes "-" then (.ok state.input, { state with input := [] })
  else if path == State.nowherePath then (.ok [], state)
  else match state.attempt (Files.contents path) with
    | (.ok content, state) => (.ok content, state)
    | (.error error, state) => (.error (errorText error), state)

/-- Do something with the content of each of some files, or with the input when there are none. A file
that cannot be read gives a message and a status. -/
def eachContent (complaint : Bytes → Bytes → Bytes) (status : Nat) (paths : List Bytes)
    (body : State → Bytes → Bytes → State) (state : State) : State :=
  let paths := if paths.isEmpty then [bytes "-"] else paths
  paths.foldl (fun state path =>
    match contentAt state path with
    | (.ok content, state) => body state path content
    | (.error reason, state) => (state.report (complaint path reason)).withStatus status) state

/-- A message with a program's name, a path and a reason. -/
def about (name path reason : Bytes) : Bytes := name ++ bytes ": " ++ path ++ bytes ": " ++ reason

/-- Lines as text, each with its end if it has one. -/
def unlines (lines : List (Bytes × Bool)) : Bytes :=
  lines.flatMap fun (line, hasEnd) => line ++ (if hasEnd then [10] else [])

/-- Lines as text, each with an end. -/
def ended (lines : List Bytes) : Bytes := lines.flatMap (· ++ [10])

/-! ## Whole files -/

/-- How the lines of a text are shown. -/
structure Show where
  numbersAll : Bool
  numbersFull : Bool
  squeezes : Bool
  marksEnds : Bool
  marksTabs : Bool
  marksOthers : Bool
deriving Repr, DecidableEq

/-- What letters ask for. -/
def Show.ofLetters (letters : Bytes) : Show :=
  let any (set : String) : Bool := letters.any (bytes set).contains
  ⟨any "n", any "b", any "s", any "EAe", any "TAt", any "vAet"⟩

/-- A byte as it is shown. -/
def Show.byteText (manner : Show) (b : UInt8) : Bytes :=
  if b == 9 then if manner.marksTabs then bytes "^I" else [b]
  else if !manner.marksOthers then [b]
  else
    let low := b &&& 0x7F
    (if b ≥ 0x80 then bytes "M-" else [])
      ++ (if low < 0x20 then [byte '^', low + 0x40] else if low == 0x7F then bytes "^?" else [low])

/-- The lines of a text as they are shown, from a number on. -/
def Show.lines (manner : Show) : Bool → Nat → List (Bytes × Bool) → Bytes
  | _, _, [] => []
  | wasEmpty, number, (line, hasEnd) :: rest =>
    if manner.squeezes && wasEmpty && line.isEmpty then lines manner true number rest
    else
      let isCounted := if manner.numbersFull then !line.isEmpty else manner.numbersAll
      let digits := Decimal.ofNat number
      (if isCounted then List.replicate (6 - digits.length) 0x20 ++ digits ++ [9] else [])
        ++ line.flatMap manner.byteText
        ++ (if hasEnd then (if manner.marksEnds then bytes "$" else []) ++ [10] else [])
        ++ lines manner line.isEmpty (if isCounted then number + 1 else number) rest

/-- All the content of some files. -/
def allContent (name : Bytes) (paths : List Bytes) (state : State) : Bytes × State :=
  let after := eachContent (about name) 1 paths
    (fun state _ text => { state with output := text :: state.output })
    ({ state with output := [] }.withStatus 0)
  (after.outputText, { after with output := state.output })

/-- Write files one after another. -/
def cat : Effect := fun arguments state =>
  let (found, paths) := options [] arguments
  let manner := Show.ofLetters (found.map (·.1))
  if manner == ⟨false, false, false, false, false, false⟩ then
    eachContent (about (bytes "cat")) 1 paths (fun state _ content => state.print content)
      (state.withStatus 0)
  else
    let (text, state) := allContent (bytes "cat") paths state
    state.print (manner.lines false 1 (Editing.linesOf text))

/-- Write the input, also to files. -/
def tee : Effect := fun arguments state =>
  let (found, paths) := options [] arguments
  let text := state.input
  paths.foldl (fun state path =>
    let before := match state.attempt (Files.contents path) with
      | (.ok content, _) => if has found 'a' then content else []
      | (.error _, _) => []
    match state.attempt (Files.writeFile path (before ++ text) (Utility.fileMode state)) with
    | (.ok _, state) => state
    | (.error error, state) => (state.report (about (bytes "tee") path (errorText error))).withStatus 1)
    (({ state with input := [] }.print text).withStatus 0)

/-! ## Beginnings and ends -/

/-- A part of a text: some units from its beginning, from a place on, or at its end. -/
inductive Extent where
  | first (count : Nat)
  | allButLast (count : Nat)
  | last (count : Nat)
  | fromPlace (place : Nat)

/-- The part of a list. -/
def Extent.of {α : Type} (items : List α) : Extent → List α
  | .first count => items.take count
  | .allButLast count => items.take (items.length - count)
  | .last count => items.drop (items.length - count)
  | .fromPlace place => items.drop (place - 1)

/-- The part that an option's value asks for. -/
def extent? (isEnd : Bool) (text : Bytes) : Option Extent :=
  match text with
  | 0x2D :: digits => (Decimal.toNat? digits).map fun n => if isEnd then .last n else .allButLast n
  | 0x2B :: digits => (Decimal.toNat? digits).map fun n => if isEnd then .fromPlace n else .first n
  | digits => (Decimal.toNat? digits).map fun n => if isEnd then .last n else .first n

/-- A number in place of the first option's letter, as an option. -/
def withLetter (words : List Bytes) : List Bytes :=
  match words with
  | (0x2D :: digits) :: rest =>
    if !digits.isEmpty && digits.all Bytes.isDigit then (bytes "-n" ++ digits) :: rest else words
  | _ => words

/-- Write the beginning or the end of files. -/
def partOf (name : Bytes) (isEnd : Bool) : Effect := fun arguments state =>
  let (found, paths) := options (bytes "nc") (withLetter arguments)
  let lineText := (valueOf? found 'n').getD (bytes "10")
  let byteText := valueOf? found 'c'
  match extent? isEnd (byteText.getD lineText) with
  | none =>
    (state.report (name ++ bytes ": invalid number of "
      ++ (if byteText.isSome then bytes "bytes" else bytes "lines") ++ bytes ": "
      ++ quoted (byteText.getD lineText))).withStatus 1
  | some extent =>
    let shown (text : Bytes) : Bytes :=
      if byteText.isSome then extent.of text else unlines (extent.of (Editing.linesOf text))
    let hasHeads := paths.length > 1 && !has found 'q'
    let complaint (path reason : Bytes) : Bytes :=
      name ++ bytes ": cannot open " ++ quoted path ++ bytes " for reading: " ++ reason
    match paths, byteText, extent with
    | [path], some _, .first count =>
      if path == endlessPath then (state.print (List.replicate count 0)).withStatus 0
      else eachContent complaint 1 paths (fun state _ text => state.print (shown text)) (state.withStatus 0)
    | _, _, _ =>
      eachContent complaint 1 paths (fun state path text =>
        let head := if hasHeads then
          (if paths.head? == some path && state.output.isEmpty then [] else [10])
            ++ bytes "==> " ++ path ++ bytes " <==\n" else []
        state.print (head ++ shown text)) (state.withStatus 0)

/-! ## Counting -/

/-- The number of words in a text. -/
def wordCount (text : Bytes) : Nat :=
  (text.foldl (fun (count, isInside) b =>
    if Numeral.isSpace b then (count, false) else (if isInside then count else count + 1, true))
    ((0, false) : Nat × Bool)).1

/-- Write the numbers of lines, words and bytes. -/
def wc : Effect := fun arguments state =>
  let (found, paths) := options [] arguments
  let all := !(has found 'l' || has found 'w' || has found 'c' || has found 'm')
  let counts (text : Bytes) : List Nat :=
    (if all || has found 'l' then [text.count 10] else [])
      ++ (if all || has found 'w' then [wordCount text] else [])
      ++ (if all || has found 'c' || has found 'm' then [text.length] else [])
  eachContent (about (bytes "wc")) 1 paths (fun state path text =>
    let numbers := (counts text).map Decimal.ofNat
    let width := if numbers.length == 1 then 0 else if paths.isEmpty then 7
      else (Decimal.ofNat text.length).length
    let padded := numbers.map fun number => List.replicate (width - number.length) 0x20 ++ number
    let label := if paths.isEmpty then [] else bytes " " ++ path
    state.print (Bytes.joined (bytes " ") padded ++ label ++ [10])) (state.withStatus 0)

/-! ## Searching -/

/-- Search lines in files. The status tells whether there were any. -/
def grep : Effect := fun arguments state =>
  let (found, words) := options (bytes "em") arguments
  let patterns := (found.filter (·.1 == byte 'e')).map (·.2)
  let (patterns, paths) := match patterns, words with
    | [], pattern :: paths => ([pattern], paths)
    | patterns, paths => (patterns, paths)
  if patterns.isEmpty then
    ((state.report (bytes "Usage: grep [OPTION]... PATTERNS [FILE]...")).report
      (bytes "Try 'grep --help' for more information.")).withStatus 2
  else
    let regexes := (patterns.flatMap (Bytes.splitOn · 10)).filterMap fun pattern =>
      if has found 'F' then some (Regex.exactly pattern) else Regex.read (has found 'E') pattern
    let regexes := if has found 'x' then
      regexes.map fun regex => .sequence .atStart (.sequence (.group 0 regex) .atEnd) else regexes
    let isFound (line : Bytes) : Bool :=
      regexes.any (fun regex => (Regex.search (has found 'i') regex line).isSome) != has found 'v'
    let isQuiet := has found 'q'
    let hasNames := paths.length > 1 && !has found 'h'
    let complaint (path reason : Bytes) : Bytes := about (bytes "grep") path reason
    let (any, state) := (fun (state : State) => (state.status == 0, state)) (eachContent complaint 2 paths
      (fun state path text =>
        let lines := ((Editing.linesOf text).map (·.1)).zipIdx 1
        let chosen := lines.filter fun (line, _) => isFound line
        let label := if hasNames then path ++ bytes ":" else []
        let shown :=
          if isQuiet then []
          else if has found 'c' then label ++ Decimal.ofNat chosen.length ++ [10]
          else if has found 'l' then if chosen.isEmpty then [] else path ++ [10]
          else chosen.flatMap fun (line, number) =>
            label ++ (if has found 'n' then Decimal.ofNat number ++ bytes ":" else []) ++ line ++ [10]
        let state := state.print shown
        if chosen.isEmpty then state
        else if state.status == 1 then state.withStatus 0 else state) (state.withStatus 1))
    if any then state.withStatus 0 else state

/-! ## Order -/

/-- All lines of some files. -/
def allLines (name : Bytes) (paths : List Bytes) (state : State) : List Bytes × State :=
  let complaint (path reason : Bytes) : Bytes :=
    name ++ bytes ": cannot read: " ++ path ++ bytes ": " ++ reason
  let after := eachContent complaint 2 paths
    (fun state _ text => { state with output := ended ((Editing.linesOf text).map (·.1)) :: state.output })
    ({ state with output := [] }.withStatus 0)
  ((Editing.linesOf after.outputText).map (·.1), { after with output := state.output })

/-- Write the lines of files in order. -/
def sort : Effect := fun arguments state =>
  let (found, paths) := options (bytes "kto") arguments
  let common := Order.Rules.ofLetters (found.map (·.1))
  let isUnique := has found 'u'
  let plan : Order.Plan :=
    { mark := (valueOf? found 't').bind (·.head?)
      keys := (found.filter (·.1 == byte 'k')).filterMap fun (_, text) => Order.key? common text
      common
      isStable := isUnique || has found 's' }
  let (lines, state) := allLines (bytes "sort") paths state
  let lines := plan.sorted lines
  let text := ended (if isUnique then plan.withoutRepeats lines else lines)
  match valueOf? found 'o' with
  | some path => (state.attempt (Files.writeFile path text (Utility.fileMode state))).2
  | none => state.print text

/-- Runs of equal lines, with their lengths. -/
def runs : List Bytes → List (Nat × Bytes)
  | [] => []
  | line :: rest =>
    match runs rest with
    | (count, next) :: more => if next == line then (count + 1, line) :: more
      else (1, line) :: (count, next) :: more
    | [] => [(1, line)]

/-- Write each run of equal lines once. -/
def uniq : Effect := fun arguments state =>
  let (found, paths) := options [] arguments
  let (lines, state) := allLines (bytes "uniq") paths state
  let chosen := (runs lines).filter fun (count, _) =>
    (count > 1 || !has found 'd') && (count == 1 || !has found 'u')
  state.print (ended (chosen.map fun (count, line) =>
    if has found 'c' then
      let number := Decimal.ofNat count
      List.replicate (7 - number.length) 0x20 ++ number ++ bytes " " ++ line
    else line))

/-! ## Bytes -/

/-- The bytes that a set stands for. `fuel` is more than the length of its text. -/
def setBytes : Nat → Bytes → Bytes
  | 0, _ => []
  | _, [] => []
  | fuel + 1, b :: rest =>
    let span (low high : UInt8) : Bytes :=
      (List.range (high.toNat + 1 - low.toNat)).map fun n => (low.toNat + n).toUInt8
    let (single, rest) := if b == 0x5C then
        match rest with
        | c :: after =>
          if Numeral.isOctal c then
            let digits := (rest.take 3).takeWhile Numeral.isOctal
            ((Numeral.value 8 digits).toUInt8, rest.drop digits.length)
          else if c == byte 'n' then (10, after)
          else if c == byte 't' then (9, after)
          else if c == byte 'r' then (13, after)
          else (c, after)
        | [] => (b, rest)
      else (b, rest)
    match if b == 0x5B then classAt? rest else none with
    | some (ranges, after) => (ranges.flatMap fun (low, high) => span low high) ++ setBytes fuel after
    | none =>
      match rest with
      | 0x2D :: high :: after => span single high ++ setBytes fuel after
      | _ => single :: setBytes fuel rest

/-- A text in which runs of some bytes are one byte long. -/
def squeezed (set : Bytes) : Bytes → Bytes
  | a :: b :: rest =>
    if a == b && set.contains a then squeezed set (b :: rest) else a :: squeezed set (b :: rest)
  | text => text

/-- Replace or drop bytes of the input. -/
def tr : Effect := fun arguments state =>
  let (found, sets) := options [] arguments
  let complement (set : Bytes) : Bytes :=
    ((List.range 256).map (·.toUInt8)).filter fun b => !set.contains b
  let asked (text : Bytes) : Bytes := setBytes (text.length + 1) text
  let first := asked (sets.headD [])
  let first := if has found 'c' || has found 'C' then complement first else first
  let second := (sets[1]?).map asked
  let text := state.input
  let state := { state with input := [] }
  let changed := match second with
    | some second =>
      let last := second.getLastD 0
      let pairs := first.zipIdx.map fun (b, n) => (b, second.getD n last)
      if has found 'd' then text.filter (!first.contains ·)
      else text.map fun b => (pairs.lookup b).getD b
    | none => if has found 'd' then text.filter (!first.contains ·) else text
  let changed := if has found 's' then squeezed (second.getD first) changed else changed
  (state.print changed).withStatus 0

/-- Whether a list of numbers and spans of numbers names a number. -/
def isListed (list : Bytes) (n : Nat) : Bool :=
  (Bytes.splitOn list (byte ',')).any fun item =>
    match Bytes.cut? item (byte '-') with
    | none => Decimal.toNat? item == some n
    | some (low, high) => (Decimal.toNat? low).getD 1 ≤ n && (Decimal.toNat? high).all (n ≤ ·)

/-- Write parts of lines. -/
def cut : Effect := fun arguments state =>
  let (found, paths) := options (bytes "dfcb") arguments
  let mark := ((valueOf? found 'd').bind (·.head?)).getD 9
  let (lines, state) := allLines (bytes "cut") paths state
  let picked (line : Bytes) : Bytes :=
    match valueOf? found 'f', (valueOf? found 'c').orElse fun _ => valueOf? found 'b' with
    | some list, _ =>
      if !line.contains mark then line
      else Bytes.joined [mark]
        (((Bytes.splitOn line mark).zipIdx 1).filterMap fun (piece, n) =>
          if isListed list n then some piece else none)
    | none, some list => (line.zipIdx 1).filterMap fun (b, n) => if isListed list n then some b else none
    | none, none => line
  state.print (ended (lines.map picked))

/-! ## Editing -/

/-- The stream editor on files or on the input. -/
def sed : Effect := fun arguments state =>
  let name := bytes "sed"
  let (found, words) := options (bytes "ef") arguments
  let scripts := (found.filter (·.1 == byte 'e')).map (·.2)
  let (scripts, paths) := match scripts, words with
    | [], script :: paths => ([script], paths)
    | scripts, paths => (scripts, paths)
  let extended := has found 'E' || has found 'r'
  let parsed := (scripts.zipIdx 1).foldl (fun done (script, number) =>
    done.bind fun (instructions : List Editing.Instruction) =>
      match Editing.read extended script with
      | .ok more => .ok (instructions ++ more)
      | .error (place, message) => .error (number, place, message))
    (.ok [] : Except (Nat × Nat × Bytes) (List Editing.Instruction))
  if scripts.isEmpty then misuse state name (bytes "no script specified")
  else match parsed with
    | .error (number, place, message) =>
      (state.report (name ++ bytes ": -e expression #" ++ Decimal.ofNat number ++ bytes ", char "
        ++ Decimal.ofNat place ++ bytes ": " ++ message)).withStatus 1
    | .ok instructions =>
      let edited (text : Bytes) : Bytes := Editing.edit instructions (has found 'n') text
      let complaint (path reason : Bytes) : Bytes :=
        name ++ bytes ": can't read " ++ path ++ bytes ": " ++ reason
      if has found 'i' then
        eachContent complaint 2 paths (fun state path text =>
          (state.attempt (Files.writeFile path (edited text) 0o644)).2) (state.withStatus 0)
      else
        let gathered := eachContent complaint 2 paths
          (fun state _ text => { state with output := text :: state.output })
          ({ state with output := [] }.withStatus 0)
        { gathered with output := state.output }.print (edited gathered.outputText)

/-! ## Finding programs -/

/-- The programs of this module. -/
def table : List (Bytes × Effect) :=
  [(bytes "cat", cat), (bytes "tee", tee), (bytes "head", partOf (bytes "head") false),
    (bytes "tail", partOf (bytes "tail") true), (bytes "wc", wc), (bytes "grep", grep),
    (bytes "sort", sort), (bytes "uniq", uniq), (bytes "tr", tr), (bytes "cut", cut),
    (bytes "sed", sed)]

end Filter

end Script

end FunctionChain
