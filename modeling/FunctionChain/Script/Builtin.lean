import FunctionChain.Script.Condition
import FunctionChain.Script.Fields
import FunctionChain.Script.Format
import FunctionChain.Script.Parse

/-!
# Commands of the shell

The commands that the shell has of its own, each as a function of its arguments on the state of the
script. They leave a status, which is zero when all went well. Misuse of some of them ends the script.
-/

namespace FunctionChain

namespace Script

namespace Builtin

/-- A command: what it does with its arguments. -/
abbrev Effect := List Bytes → State → State

/-- A message of a command. -/
def blame (state : State) (command message : Bytes) : State :=
  state.complain (command ++ bytes ": " ++ message)

/-- A message of a command whose misuse ends the script. -/
def refuse (state : State) (command message : Bytes) : State :=
  state.giveUp (command ++ bytes ": " ++ message)

/-- A message about something that should be a number. -/
def illegalNumber (text : Bytes) : Bytes := bytes "Illegal number: " ++ text

/-- Whether a text can be the name of a variable. -/
def isName (text : Bytes) : Bool := text.head?.any startsName && text.all inName

/-! ## Output -/

/-- Write the arguments on a line. -/
def echo : Effect := fun arguments state =>
  let (hasEnd, words) := match arguments with
    | [0x2D, 0x6E] :: words => (false, words)
    | words => (true, words)
  let (text, isCut) := Format.resolved 0 [] (Bytes.joined (bytes " ") words)
  (state.print (text ++ (if hasEnd && !isCut then [10] else []))).withStatus 0

/-- Write the arguments in a format. -/
def printf : Effect := fun arguments state =>
  let name := bytes "printf"
  match (match arguments with
    | [0x2D, 0x2D] :: arguments => arguments
    | arguments => arguments) with
  | [] => (blame state name (bytes "usage: printf format [arg ...]")).withStatus 2
  | format :: values =>
    match format with
    | 0x2D :: letter :: _ =>
      if arguments.head? == some format then
        (blame state name (bytes "Illegal option -" ++ [letter])).withStatus 2
      else write name format values state
    | _ => write name format values state
where
  /-- Write what comes of a format, after the complaints about its arguments. -/
  write (name format : Bytes) (values : List Bytes) (state : State) : State :=
    let progress := Format.apply format values
    let state := progress.complaints.reverse.foldl (fun state text => blame state name text) state
    let state := (state.print progress.done.reverse).withStatus (if progress.complaints.isEmpty then 0 else 1)
    match progress.stopped with
    | some (.refused message) => (blame state name message).withStatus 2
    | _ => state

/-! ## Conditions -/

/-- Leave the outcome of a condition. -/
def test (name : Bytes) : Effect := fun arguments state =>
  match Condition.holds state arguments with
  | .ok true => state.withStatus 0
  | .ok false => state.withStatus 1
  | .error message => (blame state name message).withStatus 2

/-- Leave the outcome of a condition that is closed by a bracket. -/
def bracket : Effect := fun arguments state =>
  let name := bytes "["
  if arguments.getLast? == some (bytes "]") then test name arguments.dropLast state
  else (blame state name (bytes "missing ]")).withStatus 2

/-! ## Input -/

/-- A line off the input, and the rest of the input after its end. Unless it is raw, a backslash takes the
meaning of the byte after it, and joins lines. The flags with the bytes tell which may separate. -/
def inputLine (isRaw : Bool) : List (UInt8 × Bool) → Bytes → List (UInt8 × Bool) × Option Bytes
  | done, [] => (done.reverse, none)
  | done, 10 :: rest => (done.reverse, some rest)
  | done, 0x5C :: b :: rest =>
    if isRaw then inputLine isRaw ((0x5C, true) :: done) (b :: rest)
    else if b == 10 then inputLine isRaw done rest
    else inputLine isRaw ((b, false) :: done) rest
  | done, b :: rest => inputLine isRaw ((b, true) :: done) rest

/-- Give the words of a line to names; the last name takes all that is left. -/
def spread (separators : Bytes) : List Bytes → List (UInt8 × Bool) → State → State
  | [], _, state => state
  | [name], line, state =>
    let isEdge (b : UInt8 × Bool) : Bool := b.2 && separators.contains b.1 && Fields.isWhite b.1
    let line := ((line.dropWhile isEdge).reverse.dropWhile isEdge).reverse
    state.bind name (line.map (·.1))
  | name :: names, line, state =>
    let isMark (b : UInt8 × Bool) : Bool := b.2 && separators.contains b.1
    let isEdge (b : UInt8 × Bool) : Bool := isMark b && Fields.isWhite b.1
    let line := line.dropWhile isEdge
    let word := line.takeWhile (!isMark ·)
    let rest := (line.drop word.length).dropWhile isEdge
    let rest := match rest with
      | b :: after => if isMark b then after else rest
      | [] => rest
    spread separators names rest (state.bind name (word.map (·.1)))

/-- Read a line into variables. -/
def read : Effect := fun arguments state =>
  let (isRaw, names) := options false arguments
  match names.find? (!isName ·) with
  | some name => (blame state (bytes "read") (name ++ bytes ": bad variable name")).withStatus 2
  | none =>
    if names.isEmpty then (blame state (bytes "read") (bytes "arg count")).withStatus 2
    else
      let (line, rest) := inputLine isRaw [] state.input
      (spread state.separators names line { state with input := rest.getD [] }).withStatus
        (if rest.isSome then 0 else 1)
where
  /-- Whether lines are raw, and the names. -/
  options : Bool → List Bytes → Bool × List Bytes
    | _, [0x2D, 0x72] :: rest => options true rest
    | isRaw, [0x2D, 0x70] :: _ :: rest => options isRaw rest
    | isRaw, names => (isRaw, names)

/-! ## Flow -/

/-- The status that a command leaves for its script. -/
def withStatusOf (name : Bytes) (arguments : List Bytes) (state : State)
    (halt : Nat → Halt) : State :=
  match arguments with
  | [] => { state with halted := some (halt state.status) }
  | text :: _ =>
    match Numeral.count? text with
    | some n => { state with halted := some (halt n) }
    | none => refuse state name (illegalNumber text)

/-- Leave loops, or go on with the next round. Outside all loops nothing happens. -/
def leave (name : Bytes) (again : Bool) : Effect := fun arguments state =>
  match (arguments.head?.map Numeral.count?).getD (some 1) with
  | none | some 0 => refuse state name (illegalNumber (arguments.headD []))
  | some n =>
    if state.loops == 0 then state.withStatus 0
    else { state with halted := some (.leaving (min n state.loops) again) }.withStatus 0

/-- Drop some of the arguments of the script. -/
def shift : Effect := fun arguments state =>
  let name := bytes "shift"
  match (arguments.head?.map Numeral.count?).getD (some 1) with
  | none => refuse state name (illegalNumber (arguments.headD []))
  | some n =>
    if n ≤ state.arguments.length then
      { state with arguments := state.arguments.drop n }.withStatus 0
    else refuse state name (bytes "can't shift that many")

/-! ## Variables -/

/-- Do something to each of the variables of some arguments, with the value that an argument gives. -/
def eachVariable (command : Bytes) (change : State → Bytes → Option Bytes → State) : Effect :=
  fun arguments state =>
    arguments.foldl (fun state word =>
      if state.halted.isSome then state
      else
        let (name, value) := match Bytes.cut? word (byte '=') with
          | some (name, value) => (name, some value)
          | none => (word, none)
        if !isName name then refuse state command (name ++ bytes ": bad variable name")
        else if value.isSome && state.constants.contains name then
          refuse state command (name ++ bytes ": is read only")
        else change state name value) (state.withStatus 0)

/-- A variable with a value, if there is one. -/
def withValue (state : State) (name : Bytes) (value : Option Bytes) : State :=
  (value.map (state.assign name)).getD state

/-- Let other programs see variables. -/
def publish : Effect := fun arguments =>
  eachVariable (bytes "export") (fun state name value =>
    { withValue state name value with exported := name :: state.exported.filter (· != name) })
    (arguments.filter (· != bytes "-p"))

/-- Let variables keep their values. -/
def constant : Effect := fun arguments =>
  eachVariable (bytes "readonly") (fun state name value =>
    { withValue state name value with constants := name :: state.constants })
    (arguments.filter (· != bytes "-p"))

/-- Let a function have variables of its own. -/
def own : Effect := fun arguments state =>
  match state.outside with
  | none => refuse state (bytes "local") (bytes "not in a function")
  | some _ =>
    eachVariable (bytes "local") (fun state name value =>
      let before := (name, state.bindings.lookup name)
      withValue { state with outside := state.outside.map (before :: ·) } name value) arguments state

/-- Forget variables or functions. -/
def unset : Effect := fun arguments state =>
  let command := bytes "unset"
  match arguments with
  | [0x2D, 0x66] :: names =>
    { state with functions := state.functions.filter fun (name, _) => !names.contains name }.withStatus 0
  | _ =>
    (arguments.filter (· != bytes "-v")).foldl (fun state name =>
      if state.halted.isSome then state
      else if !isName name then refuse state command (name ++ bytes ": bad variable name")
      else if state.constants.contains name then refuse state command (name ++ bytes ": is read only")
      else state.forget name) (state.withStatus 0)

/-! ## Options -/

/-- What reading an option brings: the letter that is found, the value that goes with it, what is to
complain about, and the options of the same argument that are left, with the number of the argument after
it. -/
structure OptionStep where
  letter : UInt8
  value : Option Bytes
  complaint : Option Bytes
  rest : Bytes
  index : Nat

/-- Find a letter in a list of options, and tell whether it takes a value. -/
def takesValue? (letter : UInt8) : Bytes → Option Bool
  | [] => none
  | b :: rest =>
    if b == letter && b != byte ':' then some (rest.head? == some (byte ':'))
    else takesValue? letter rest

/-- Read an option that begins with a letter, with the rest of its argument, where `index` is the number of
the next of the arguments. -/
def optionStep (known : Bytes) (arguments : List Bytes) (letter : UInt8) (rest : Bytes) (index : Nat) :
    OptionStep :=
  let isQuiet := known.head? == some (byte ':')
  let wrong (found : UInt8) (complaint : Bytes) : OptionStep :=
    if isQuiet then ⟨found, some [letter], none, rest, index⟩
    else ⟨byte '?', none, some complaint, rest, index⟩
  match takesValue? letter known with
  | none => wrong (byte '?') (bytes "Illegal option -" ++ [letter])
  | some false => ⟨letter, some [], none, rest, index⟩
  | some true =>
    if !rest.isEmpty then ⟨letter, some rest, none, [], index⟩
    else match arguments[index - 1]? with
      | some value => ⟨letter, some value, none, [], index + 1⟩
      | none => wrong (byte ':') (bytes "No arg for -" ++ [letter] ++ bytes " option")

/-- Read the next option of the arguments into a variable. -/
def getopts : Effect := fun words state =>
  match words with
  | known :: name :: given =>
    let arguments := if given.isEmpty then state.arguments else given
    let asked := ((state.bindings.lookup State.optionIndexName).bind Decimal.toNat?).getD 1
    let index := if asked == 0 || asked > arguments.length + 1 then 1 else asked
    let left : Bytes := match state.halfRead with
      | some (after, count) =>
        if after == index && index > 1 then (arguments.getD (index - 2) []).drop count else []
      | none => []
    let start : (UInt8 × Bytes × Nat) ⊕ Nat := match left with
      | letter :: rest => .inl (letter, rest, index)
      | [] =>
        match arguments[index - 1]? with
        | some [0x2D, 0x2D] => .inr (index + 1)
        | some (0x2D :: letter :: rest) => .inl (letter, rest, index + 1)
        | _ => .inr index
    let done (letter : UInt8) (index : Nat) (status : Nat) (state : State) : State :=
      ((state.assign State.optionIndexName (Decimal.ofNat index)).bind name [letter]).withStatus status
    match start with
    | .inl (letter, rest, index) =>
      let step := optionStep known arguments letter rest index
      let state := match step.complaint with
        | some complaint => state.report complaint
        | none => state
      let target := bytes "OPTARG"
      let state := match step.value with
        | some value => state.assign target value
        | none => state.forget target
      let count := (arguments.getD (step.index - 2) []).length - step.rest.length
      done step.letter step.index 0
        { state with halfRead := if step.rest.isEmpty then none else some (step.index, count) }
    | .inr index => done (byte '?') index 1 { state with halfRead := none }
  | _ => (blame state (bytes "getopts") (bytes "Usage: getopts optstring var [arg]")).withStatus 2

/-! ## Manner -/

/-- The letters of the ways to run, with what they change. -/
def manners : List (UInt8 × Bytes × (Manner → Bool → Manner)) :=
  [(byte 'e', bytes "errexit", fun manner on => { manner with stopsAtFailure := on }),
    (byte 'u', bytes "nounset", fun manner on => { manner with stopsAtMissing := on }),
    (byte 'x', bytes "xtrace", fun manner on => { manner with showsCommands := on }),
    (byte 'f', bytes "noglob", fun manner on => { manner with keepsPatterns := on })]

/-- Letters that change nothing that can be seen here. -/
def idleLetters : Bytes := bytes "abhmnvCIiVE"

/-- Take letters as ways to run. A letter that is none is given back. -/
def changeManner (on : Bool) : Bytes → State → Except UInt8 State
  | [], state => .ok state
  | letter :: rest, state =>
    match manners.find? (·.1 == letter) with
    | some (_, _, change) => changeManner on rest { state with manner := change state.manner on }
    | none => if idleLetters.contains letter then changeManner on rest state else .error letter

/-- Take ways to run off the arguments; what is left are new arguments of the script, if there are any.
`fuel` is more than the number of arguments. -/
def setFrom : Nat → List Bytes → State → State
  | 0, _, state => state
  | _, [], state => state
  | fuel + 1, word :: rest, state =>
    let named (on : Bool) (sign : UInt8) : State :=
      match rest with
      | [] => state
      | name :: rest =>
        match manners.find? (·.2.1 == name) with
        | some (_, _, change) => setFrom fuel rest { state with manner := change state.manner on }
        | none => refuse state (bytes "set") (bytes "Illegal option " ++ [sign] ++ bytes "o " ++ name)
    let letters (on : Bool) (sign : UInt8) (text : Bytes) : State :=
      match changeManner on (text.filter (· != byte 'o')) state with
      | .ok state =>
        if !text.contains (byte 'o') then
          if on && text.contains (byte 'n') then state.exit 0 else setFrom fuel rest state
        else match rest with
          | [] => state
          | name :: rest =>
            match manners.find? (·.2.1 == name) with
            | some (_, _, change) => setFrom fuel rest { state with manner := change state.manner on }
            | none => refuse state (bytes "set") (bytes "Illegal option " ++ [sign] ++ bytes "o " ++ name)
      | .error letter => refuse state (bytes "set") (bytes "Illegal option " ++ [sign, letter])
    if word == bytes "--" then { state with arguments := rest }
    else if word == bytes "-o" then named true (byte '-')
    else if word == bytes "+o" then named false (byte '+')
    else match word with
      | 0x2D :: text => if text.isEmpty then setFrom fuel rest state else letters true (byte '-') text
      | 0x2B :: text => letters false (byte '+') text
      | _ => { state with arguments := word :: rest }

/-- Change the way to run and the arguments of the script. -/
def set : Effect := fun arguments state => setFrom (arguments.length + 1) arguments (state.withStatus 0)

/-- Change the rights that new files are not given, or write them. -/
def umask : Effect := fun arguments state =>
  match arguments with
  | [] => (state.print (bytes "0" ++ Bytes.joined []
      (List.map (fun n => [Hex.digit n]) [state.mask / 64 % 8, state.mask / 8 % 8, state.mask % 8])
      ++ [10])).withStatus 0
  | text :: _ =>
    if text.all Numeral.isOctal then
      { state with mask := Numeral.value 8 text % 512 }.withStatus 0
    else if text.head?.any Bytes.isDigit then (blame state (bytes "umask") (illegalNumber text)).withStatus 2
    else (blame state (bytes "umask") (bytes "Illegal mode: " ++ text)).withStatus 2

/-! ## Directories -/

/-- Go to another directory. -/
def cd : Effect := fun arguments state =>
  let previous := bytes "OLDPWD"
  let target := match (match arguments with
      | [0x2D, 0x2D] :: arguments => arguments
      | arguments => arguments) with
    | [] => state.bindings.lookup (bytes "HOME")
    | [0x2D] :: _ => state.bindings.lookup previous
    | path :: _ => some path
  match target with
  | none => state.withStatus 0
  | some path =>
    match state.tree.locate path with
    | .ok location =>
      if state.tree.isDirectory path then
        let before := state.tree.herePath
        let state := { state with tree := { state.tree with here := location } }
        let state := (state.assign previous before).assign State.placeName state.tree.herePath
        let state := { state with exported := previous :: State.placeName :: state.exported }
        (if arguments.head? == some (bytes "-") then state.print (state.tree.herePath ++ [10])
          else state).withStatus 0
      else (blame state (bytes "cd") (bytes "can't cd to " ++ path)).withStatus 2
    | .error _ => (blame state (bytes "cd") (bytes "can't cd to " ++ path)).withStatus 2

/-! ## Signals -/

/-- The name under which the commands for the end are kept. -/
def endName : Bytes := bytes "EXIT"

/-- The name of a signal or of the end. -/
def occasion? (text : Bytes) : Option Bytes :=
  if text == bytes "0" || Bytes.upper text == endName then some endName
  else (Signal.named? text).map (·.name)

/-- Leave commands for the end or for signals. -/
def trap : Effect := fun arguments state =>
  let kept := state.innerTraps.getD state.traps
  let keep (traps : List (Bytes × Bytes)) (state : State) : State :=
    if state.innerTraps.isSome then { state with innerTraps := some traps } else { state with traps }
  match arguments with
  | [] =>
    (kept.reverse.foldl (fun state (name, action) =>
      state.print (bytes "trap -- '" ++ action ++ bytes "' " ++ name ++ [10])) state).withStatus 0
  | first :: rest =>
    let (action, occasions) :=
      if rest.isEmpty then (none, [first])
      else if first == bytes "-" then (none, rest)
      else (some first, rest)
    match occasions.find? fun text => (occasion? text).isNone with
    | some text => (state.report (bytes "trap: " ++ text ++ bytes ": bad trap")).withStatus 1
    | none =>
      let names := occasions.filterMap occasion?
      let others := kept.filter fun (name, _) => !names.contains name
      let added := (action.map fun action => names.map (·, action)).getD []
      (keep (added.reverse ++ others) state).withStatus 0

/-- Send a signal to the script itself. -/
def receive (signal : Signal) (state : State) : State :=
  match if signal.isCertain then none else state.traps.lookup signal.name with
  | some [] => state
  | some _ => { state with pending := state.pending ++ [signal.name] }
  | none =>
    match signal.effect with
    | .ends => { state with halted := some (.killed signal.number) }
    | .nothing => state
    | .stops => { state with halted := some .late }

/-- Write the name of the signal of a number, or of the status that it leaves. -/
def signalName (text : Bytes) (state : State) : State :=
  let number := (Numeral.count? text).map fun n => if n > 128 then n - 128 else n
  match number.bind Signal.ofNumber? with
  | some signal => (state.print (signal.name ++ [10])).withStatus 0
  | none =>
    (blame state (bytes "kill") (bytes "invalid signal number or exit status: " ++ text)).withStatus 2

/-- The mark of a command that a signal has ended, in the place of its status. -/
def endedBy (signal : Signal) : Nat := 256 + signal.number

/-- A command that a signal ends at a time, if it is not done by then. -/
def ended (signal : Signal) (time : Nat) (job : Job) : Job :=
  if job.time < time || signal.effect == .nothing then job
  else { job with
    time := time
    status := endedBy signal
    events := job.events.filter fun event => event.time ≤ time }

/-- Let a signal end one of the commands that run beside the script. -/
def endJob (number : Nat) (signal : Signal) (state : State) : State :=
  let change (job : Job) : Job := if job.number == number then ended signal state.elapsed job else job
  { state with jobs := state.jobs.map change }

/-- Send a signal. The script and the commands that run beside it are the only programs there are. -/
def kill : Effect := fun arguments state =>
  let command := bytes "kill"
  match arguments with
  | [[0x2D, 0x6C], text] => signalName text state
  | _ =>
  let parsed : Except Bytes (Option Signal × List Bytes) := match arguments with
    | [] =>
      .error (bytes "Usage: kill [-s sigspec | -signum | -sigspec] [pid | job]... or\n"
        ++ bytes "kill -l [exitstatus]")
    | [0x2D, 0x73] :: text :: targets =>
      match Signal.named? text with
      | some signal => .ok (some signal, targets)
      | none => .error (bytes "invalid signal number or name: " ++ text)
    | (0x2D :: text) :: targets =>
      if text == bytes "0" then .ok (none, targets)
      else match Signal.named? text with
        | some signal => .ok (some signal, targets)
        | none => .error (bytes "Illegal option -" ++ text.take 1)
    | targets => .ok (Signal.ofNumber? 15, targets)
  match parsed with
  | .error message => (blame state command message).withStatus 2
  | .ok (signal, targets) =>
    targets.foldl (fun state target =>
      if state.halted.isSome then state
      else match Numeral.count? target with
        | none => (blame state command (illegalNumber target)).withStatus 2
        | some number =>
          if number == State.processNumber then (signal.map (receive · state)).getD state
          else if state.jobs.any (·.number == number) then
            (signal.map fun signal => endJob number signal state).getD state
          else (blame state command (bytes "No such process\n")).withStatus 1) (state.withStatus 0)

/-- Wait for commands that run beside the script. One that a signal has ended is reported. -/
def wait : Effect := fun arguments state =>
  if arguments.isEmpty then state.wait.withStatus 0
  else arguments.foldl (fun state target =>
    match state.jobs.find? fun job => some job.number == Numeral.count? target with
    | none => state.withStatus 127
    | some job =>
      let after := state.waitUntil job.time
      match Signal.all.find? fun signal => endedBy signal == job.status with
      | some signal =>
        (if signal.report.isEmpty then after else after.report signal.report).withStatus
          (128 + signal.number)
      | none => after.withStatus job.status) state

/-! ## Finding commands -/

/-- A command that leaves nothing that can be seen here. -/
def idle : Effect := fun _ state => state.withStatus 0

/-- The commands of the shell that do not run other commands. -/
def table : List (Bytes × Effect) :=
  [(bytes ":", idle),
    (bytes "true", idle),
    (bytes "false", fun _ state => state.withStatus 1),
    (bytes "echo", echo),
    (bytes "printf", printf),
    (bytes "test", test (bytes "test")),
    (bytes "[", bracket),
    (bytes "read", read),
    (bytes "shift", shift),
    (bytes "exit", fun arguments state => withStatusOf (bytes "exit") arguments state fun n => .exited (n % 256)),
    (bytes "return", fun arguments state => withStatusOf (bytes "return") arguments state .returned),
    (bytes "break", leave (bytes "break") false),
    (bytes "continue", leave (bytes "continue") true),
    (bytes "export", publish),
    (bytes "readonly", constant),
    (bytes "local", own),
    (bytes "unset", unset),
    (bytes "set", set),
    (bytes "umask", umask),
    (bytes "getopts", getopts),
    (bytes "cd", cd),
    (bytes "pwd", fun _ state => (state.print (state.tree.herePath ++ [10])).withStatus 0),
    (bytes "trap", trap),
    (bytes "kill", kill),
    (bytes "wait", wait),
    (bytes "alias", idle),
    (bytes "unalias", idle),
    (bytes "jobs", idle),
    (bytes "times", idle),
    (bytes "ulimit", idle)]

/-- The command of a name. -/
def find? (name : Bytes) : Option Effect := table.lookup name

/-- The commands of the shell that run other commands. -/
def running : List Bytes := 
  [bytes "eval", bytes "exec", bytes ".", bytes "command", bytes "type", bytes "hash"]

/-- The commands with which the script ends when their redirections cannot be set up. -/
def special : List Bytes :=
  [bytes ":", bytes ".", bytes "break", bytes "continue", bytes "eval", bytes "exec", bytes "exit",
    bytes "export", bytes "readonly", bytes "return", bytes "set", bytes "shift", bytes "times",
    bytes "trap", bytes "unset"]

end Builtin

end Script

end FunctionChain
