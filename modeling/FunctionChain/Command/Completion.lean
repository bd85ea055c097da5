import FunctionChain.Command.Catalog

/-!
# Completing command lines

A shell may ask the program how a command line that is being typed can go on. The words of the command line
follow the name of a hidden command, and the last of them is the one that is being typed. The answer is a
list of words with what they mean, and a directive for the shell.
-/

namespace FunctionChain

namespace Command

namespace Completion

/-- The name of the hidden command. -/
def requestName : Bytes := bytes "__complete"

/-- The name under which it leaves out what words mean. -/
def plainRequestName : Bytes := bytes "__completeNoDesc"

/-- What the shell is to do with an answer. -/
inductive Directive where
  /-- Names of files may go on the command line too. -/
  | default
  | noFiles
deriving Repr, DecidableEq

/-- The number of a directive. -/
def Directive.number : Directive → Nat
  | .default => 0
  | .noFiles => 4

/-- The name of a directive. -/
def Directive.name : Directive → Bytes
  | .default => bytes "ShellCompDirectiveDefault"
  | .noFiles => bytes "ShellCompDirectiveNoFileComp"

/-- How a command line can go on. -/
structure Answer where
  /-- Words, with what they mean. -/
  words : List (Bytes × Bytes)
  directive : Directive
deriving Repr, DecidableEq

/-- The answer that says nothing. -/
def Answer.none : Answer := ⟨[], .default⟩

/-! ## Values of flags -/

/-- Whether a word is a flag. -/
def isFlagWord (word : Bytes) : Bool :=
  match word with
  | 0x2D :: 0x2D :: _ :: _ => true
  | 0x2D :: b :: _ => b != byte '-'
  | _ => false

/-- The flag of a name, or of a letter. -/
def flagOf? (flags : List Flag) (name : Bytes) : Option Flag :=
  match name with
  | [letter] => flags.find? (·.letter == some letter)
  | _ => flagNamed? flags name

/-- What is being typed: a word of its own, or the value of a flag. -/
inductive Typed where
  | word (text : Bytes)
  | value
  /-- The value of a flag that there is not. -/
  | lost (text : Bytes)
deriving Repr, DecidableEq

/-- The name of the flag in a word, without a value. -/
def flagName (word : Bytes) : Bytes :=
  if word.startsWith (bytes "--") then word.drop 2 else word.drop (word.length - 1)

/-- What is being typed after words, and the words without a flag whose value it is. -/
def typed (flags : List Flag) (words : List Bytes) (last : Bytes) : Typed × List Bytes :=
  if last.head? == some (byte '-') then
    match Bytes.cut? last (byte '=') with
    | none => (.word last, words)
    | some (name, _) =>
      if (flagName name).isEmpty then (.word last, words)
      else if (flagOf? flags (flagName name)).isSome then (.value, words) else (.lost last, words)
  else
    match words.getLast? with
    | none => (.word last, words)
    | some previous =>
      if !isFlagWord previous || previous.contains (byte '=') then (.word last, words)
      else match flagOf? flags (flagName previous) with
        | none => (.lost last, words)
        | some flag => if flag.standard.isSwitch then (.word last, words) else (.value, words.dropLast)

/-! ## Answers -/

/-- The commands under a command whose names begin with a text. -/
def childrenFrom (command : Command) (start : Bytes) : List (Bytes × Bytes) :=
  let children := command.children.mergeSort fun a b => Bytes.atMost a.name b.name
  (children.filter (·.name.startsWith start)).map fun child => (child.name, child.short)

/-- The words for a flag that begin with a text. -/
def flagWords (start : Bytes) (flag : Flag) : List (Bytes × Bytes) :=
  let long := bytes "--" ++ flag.name
  let short := flag.letter.map fun letter => [byte '-', letter]
  ((long :: short.toList).filter (·.startsWith start)).map fun word => (word, flag.help)

/-- Flags by name. -/
def byName (flags : List Flag) : List Flag := flags.mergeSort fun a b => Bytes.atMost a.name b.name

/-- Whether a flag may be given again. -/
def isRepeatable (flag : Flag) : Bool :=
  match flag.standard with
  | .texts _ => true
  | _ => false

/-- The answer for a command whose flags and words were read, where a word begins with a text. -/
def wordAnswer (command : Command) (parsed : Parsed) (start : Bytes) : Answer :=
  let shown := if parsed.words.isEmpty then childrenFrom command start else []
  let directive : Directive :=
    if parsed.words.isEmpty && !command.children.isEmpty then .noFiles else .default
  if command.action == some .help then
    match find parsed.words with
    | .error _ => ⟨[], .noFiles⟩
    | .ok (topic, _) => ⟨childrenFrom topic start, .noFiles⟩
  else if command.path.head? == some (bytes "completion") then ⟨shown, .noFiles⟩
  else ⟨shown, directive⟩

/-- The answer for a command with words behind it, the last of which is being typed. -/
def answerFor (command : Command) (words : List Bytes) (last : Bytes) : Answer :=
  let flags := command.helpFlag :: command.ownAndShared
  let (typed, words) := typed flags words last
  let count (words : List Bytes) : Nat :=
    ((parseWords flags words).toOption.map fun parsed => parsed.words.length).getD 0
  match parseWords flags words with
  | .error _ => .none
  | .ok parsed =>
    let mayBeFlag := count (words ++ [bytes "--"]) ≤ parsed.words.length
    if mayBeFlag && (match typed with
      | .lost _ => true
      | _ => false) then .none
    else if (parsed.given.lookup command.helpFlag.name).isSome then ⟨[], .noFiles⟩
    else match typed with
      | .value => if mayBeFlag then .none else wordAnswer command parsed last
      | .word start | .lost start =>
        if start.head? == some (byte '-') && !start.contains (byte '=') && mayBeFlag then
          let isOpen (flag : Flag) : Bool :=
            (parsed.given.lookup flag.name).isNone || isRepeatable flag
          let own := if command.path.isEmpty then [] else options
          let others := if command.path.isEmpty then flags else command.helpFlag :: command.flags
          ⟨((byName own ++ byName others).filter isOpen).flatMap (flagWords start), .noFiles⟩
        else wordAnswer command parsed start

/-- The answer for a command line, of which the last word is being typed. -/
def answer (words : List Bytes) : Answer :=
  match find words.dropLast with
  | .error _ => .none
  | .ok (command, rest) => answerFor command rest (words.getLast?.getD [])

/-- An answer as the shell reads it. -/
def Answer.text (answer : Answer) (hasMeanings : Bool) : Bytes :=
  (answer.words.flatMap fun (word, meaning) =>
    (if hasMeanings then word ++ byte '\t' :: meaning else word) ++ [byte '\n'])
    ++ bytes ":" ++ Decimal.ofNat answer.directive.number ++ [byte '\n']

/-- The note on an answer for who reads it. -/
def Answer.note (answer : Answer) : Bytes :=
  bytes "Completion ended with directive: " ++ answer.directive.name ++ [byte '\n']

/-! ## Requests -/

/-- A request for an answer. -/
structure Request where
  hasMeanings : Bool
  words : List Bytes
deriving Repr, DecidableEq

/-- The request that a command line is, if it is one. -/
def request? (words : List Bytes) : Option Request :=
  match (plainWords root.ownAndShared words).head? with
  | some name =>
    if name == requestName || name == plainRequestName then
      some ⟨name == requestName, withoutName root.ownAndShared name words⟩
    else Option.none
  | Option.none => Option.none

end Completion

end Command

end FunctionChain
