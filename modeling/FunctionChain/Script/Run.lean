import FunctionChain.Script.Arithmetic
import FunctionChain.Script.Flaw
import FunctionChain.Script.System

/-!
# Running scripts

The meaning of words and commands. Running takes fuel, which bounds the nesting and the number of
rounds of loops; a script that uses up its fuel is one that does not end, and counts as out of time.
-/

namespace FunctionChain

namespace Script

/-- The value without its beginning or its end that matches a pattern. -/
def trimmedBy (atEnd longest : Bool) (pattern : List Glob) (value : Bytes) : Bytes :=
  let lengths := List.range (value.length + 1)
  let lengths := if longest then lengths.reverse else lengths
  match lengths.find? fun n =>
      Glob.matches pattern (if atEnd then value.drop (value.length - n) else value.take n) with
  | some n => if atEnd then value.take (value.length - n) else value.drop n
  | none => value

/-- The lines of a text without the line ends after them. -/
def withoutEnd (text : Bytes) : Bytes := Bytes.dropEndWhile text (· == newline)

/-! ## Redirections -/

/-- The channel of a file for output, which is made or emptied unless it is added to. -/
def openOutput (state : State) (path : Bytes) (append : Bool) :
    Except Files.Reason Channel × State :=
  if path == State.nowherePath then (.ok .nowhere, state)
  else if path == bytes "/dev/stdout" then (.ok state.standard, state)
  else if path == bytes "/dev/stderr" then (.ok state.diagnostic, state)
  else match state.tree.locate path with
    | .error reason => (.error reason, state)
    | .ok location =>
      match state.tree.get? location with
      | some (.directory _) => (.error .isDirectory, state)
      | some (.file mode content) =>
        (.ok (.file location), { state with
          tree := state.tree.put location (.file mode (if append then content else [])) })
      | none =>
        (.ok (.file location),
          { state with tree := state.tree.put location (.file (Utility.fileMode state) []) })

/-- The words for the reason why a file cannot be made. -/
def outputReason : Files.Reason → Bytes
  | .isDirectory => bytes "Is a directory"
  | .notDirectory => bytes "Not a directory"
  | _ => bytes "Directory nonexistent"

/-- Let a number stand for the channel that another stands for, or for none. -/
def duplicated (state : State) (descriptor : Nat) (target : Bytes) : Except Bytes State :=
  if target == bytes "-" then
    .ok (if descriptor < 3 then state.setChannel descriptor .nowhere
      else { state with channels := state.channels.filter (·.1 != descriptor) })
  else match Decimal.toNat? target with
    | none => .error (bytes "Bad fd number")
    | some source =>
      if descriptor == 0 || source == 0 then .ok state
      else match state.channel source with
        | some channel => .ok (state.setChannel descriptor channel)
        | none => .error (target ++ bytes ": Bad file descriptor")

/-! ## Rounds and ends -/

/-- After one round of a loop: whether to go on, and the state in which. -/
def afterRound (state : State) : Bool × State :=
  match state.halted with
  | none => (true, state)
  | some (.leaving loops again) =>
    if loops > 1 then (false, { state with halted := some (.leaving (loops - 1) again) })
    else (again, { state with halted := none })
  | some _ => (false, state)

/-- Stop when a command has failed and the script has asked for that. -/
def checked (state : State) : State :=
  if state.manner.stopsAtFailure && !state.isTested && state.status != 0 && state.halted.isNone then
    state.exit state.status
  else state

/-- A longer time than any script has. -/
def forever : Nat := 1000000 * Duration.hour

/-- A state in which the fuel is used up. -/
def State.exhausted (state : State) : State := { state with halted := some .late }

/-- Give variables back the values that they had. -/
def restored (before : List (Bytes × Option Bytes)) (state : State) : State :=
  before.foldl (fun state (name, value) =>
    match value with
    | some value => state.assign name value
    | none => state.forget name) state

/-- A program that the script runs, before its first command. -/
def State.child (state : State) (name : Bytes) (arguments : List Bytes) : State :=
  { State.start state.tree name arguments state.environment state.limit with
    input := state.input
    standard := state.standard
    diagnostic := state.diagnostic
    channels := state.channels
    output := state.output
    errors := state.errors
    elapsed := state.elapsed
    recording := state.recording
    mask := state.mask }

/-- The state after a program that the script has run. A program that a signal has ended is reported. -/
def State.afterChild (state child : State) : State :=
  let after := { state with
    tree := { child.tree with here := state.tree.here }
    input := child.input
    output := child.output
    errors := child.errors
    elapsed := child.elapsed
    jobs := state.jobs ++ child.jobs
    recording := child.recording }
  match child.halted with
  | some (.exited status) | some (.returned status) => after.withStatus (status % 256)
  | some (.killed number) =>
    let report := ((Signal.ofNumber? number).map (·.report)).getD []
    (if report.isEmpty then after else after.report report).withStatus (128 + number)
  | some .late => after.exhausted
  | _ => after.withStatus child.status

mutual

/-- Expand a word. -/
def expand : Nat → List Part → State → List Fragment × State
  | 0, _, state => ([], state.exhausted)
  | _, [], state => ([], state)
  | n + 1, part :: rest, state =>
    let (fragments, state) := expandPart n part state
    let (more, state) := expand n rest state
    (fragments ++ more, state)

/-- Expand a part of a word. -/
def expandPart : Nat → Part → State → List Fragment × State
  | 0, _, state => ([], state.exhausted)
  | n + 1, part, state =>
    let piece (quoted : Bool) (text : Bytes) : List Fragment :=
      if quoted then [.fixed true text] else [.loose text]
    let substitute (quoted : Bool) (result : List Fragment × State) : List Fragment × State :=
      if quoted then result else (result.1.map Fragment.loosened, result.2)
    match part with
    | .literal quoted text => ([.fixed quoted text], state)
    | .output quoted body =>
      let (text, after) := state.capture fun state => state.apart fun state =>
        finish n (runAll n body { state with isTested := false })
      (piece quoted (withoutEnd text), { after with status := state.status, inner := after.status })
    | .sum quoted expression =>
      let (fragments, state) := expand n expression state
      let text := textOf fragments
      match Arithmetic.evaluate state.parameter? text with
      | .ok (result, changes) =>
        (piece quoted (Decimal.ofInt result),
          changes.reverse.foldl (fun state (name, value) => state.bind name (Decimal.ofInt value)) state)
      | .error flaw => ([], state.giveUp (flaw.message text))
    | .parameter quoted name use =>
      let found := state.parameter? name
      let isAll := name == bytes "@" || name == bytes "*"
      let isMissing (orEmpty : Bool) : Bool := found.isNone || (orEmpty && found == some [])
      let plain : List Fragment :=
        if name == bytes "@" && quoted then [.separate true state.arguments]
        else if isAll && !quoted then [.separate false state.arguments]
        else piece quoted (found.getD [])
      let required (result : List Fragment × State) : List Fragment × State :=
        if found.isNone && state.manner.stopsAtMissing && !isAll then
          ([], state.giveUp (name ++ bytes ": parameter not set"))
        else result
      match use with
      | .flawed => ([], state.giveUp (bytes "Bad substitution"))
      | .value => required (plain, state)
      | .length => required (piece quoted (Decimal.ofNat (found.getD []).length), state)
      | .default orEmpty word =>
        if isMissing orEmpty then substitute quoted (expand n word state) else (plain, state)
      | .assign orEmpty word =>
        if isMissing orEmpty then
          let (fragments, state) := expand n word state
          (fragments, state.bind name (textOf fragments))
        else (plain, state)
      | .alternative orEmpty word =>
        if isMissing orEmpty then ([], state) else substitute quoted (expand n word state)
      | .require orEmpty word =>
        if isMissing orEmpty then
          let (fragments, state) := expand n word state
          let text := textOf fragments
          let text := if !text.isEmpty then text
            else if orEmpty then bytes "parameter not set or null" else bytes "parameter not set"
          ([], state.giveUp (name ++ bytes ": " ++ text))
        else (plain, state)
      | .trim atEnd longest pattern =>
        let (fragments, state) := expand n pattern state
        required
          (piece quoted (trimmedBy atEnd longest (patternOf fragments) (found.getD [])), state)

/-- Expand words into fields. -/
def expandAll : Nat → List (List Part) → State → List Bytes × State
  | 0, _, state => ([], state.exhausted)
  | _, [], state => ([], state)
  | n + 1, word :: rest, state =>
    let (fragments, state) := expand n word state
    let isNothing := (textOf fragments).isEmpty && fragments.any fun
      | .separate true [] => true
      | _ => false
    let fields := if isNothing then [] else fieldsOf state.separators fragments
    let texts := fields.flatMap fun field =>
      if state.manner.keepsPatterns then [field.text] else field.texts state.tree
    if state.halted.isSome then (texts, state)
    else
      let (more, state) := expandAll n rest state
      (texts ++ more, state)

/-- Set up redirections; the flag tells whether all could be. -/
def redirectAll : Nat → List Redirect → State → Bool × State
  | 0, _, state => (false, state.exhausted)
  | _, [], state => (true, state)
  | n + 1, redirect :: rest, state =>
    let refused (state : State) (message : Bytes) : Bool × State :=
      (false, (state.miss message).withStatus 2)
    match redirect with
    | .here text =>
      let (fragments, state) := expand n text state
      redirectAll n rest { state with input := textOf fragments }
    | .read _ word =>
      let (fragments, state) := expand n word state
      let path := textOf fragments
      if path == State.nowherePath then redirectAll n rest { state with input := [] }
      else match state.tree.stat path with
        | .ok (.file _ content) => redirectAll n rest { state with input := content }
        | .ok (.directory _) => redirectAll n rest { state with input := [] }
        | .error _ => refused state (bytes "cannot open " ++ path ++ bytes ": No such file")
    | .write descriptor append word =>
      let (fragments, state) := expand n word state
      let path := textOf fragments
      match openOutput state path append with
      | (.ok channel, state) => redirectAll n rest (state.setChannel descriptor channel)
      | (.error reason, state) =>
        refused state (bytes "cannot create " ++ path ++ bytes ": " ++ outputReason reason)
    | .duplicate descriptor word =>
      let (fragments, state) := expand n word state
      match duplicated state descriptor (textOf fragments) with
      | .ok state => redirectAll n rest state
      | .error message => if descriptor == 2 then (false, state.withStatus 2) else refused state message

/-- Run with redirections, which end with what is run. The flag tells whether they could be set up. -/
def redirecting : Nat → List Redirect → (State → State) → State → Bool × State
  | 0, _, _, state => (false, state.exhausted)
  | n + 1, redirects, body, state =>
    let (isSet, inside) := redirectAll n redirects state
    let after := if isSet then body inside else inside
    let readsElsewhere := redirects.any fun
      | .read .. | .here _ => true
      | _ => false
    (isSet, { after with
      standard := state.standard
      diagnostic := state.diagnostic
      channels := state.channels
      input := if readsElsewhere then state.input else after.input })

/-- Give variables their values. Each is told as it was assigned. -/
def assignAll : Nat → List (Bytes × List Part) → State → List Bytes × State
  | 0, _, state => ([], state.exhausted)
  | _, [], state => ([], state)
  | n + 1, (name, word) :: rest, state =>
    let (fragments, state) := expand n word state
    if state.halted.isSome then ([], state)
    else
      let value := textOf fragments
      let (more, state) := assignAll n rest (state.bind name value)
      ((name ++ bytes "=" ++ value) :: more, state)

/-- Run the commands of a text, as far as it is a script. -/
def runText : Nat → Bytes → State → State
  | 0, _, state => state.exhausted
  | n + 1, text, state =>
    let (body, flaw?) := read text
    let after := runAll n body state
    match flaw? with
    | some flaw =>
      if after.halted.isSome then after
      else { after with line := flaw.line }.giveUp (state.context ++ flaw.message)
    | none => after

/-- Run what was left for the end. -/
def finish : Nat → State → State
  | 0, state => state.exhausted
  | n + 1, state =>
    let status? := match state.halted with
      | some (.killed _) | some .late => none
      | some (.exited status) | some (.returned status) => some status
      | _ => some state.status
    match status?, (state.innerTraps.getD state.traps).lookup Builtin.endName with
    | some status, some action =>
      let others (traps : List (Bytes × Bytes)) := traps.filter (·.1 != Builtin.endName)
      let inside := { state with
        innerTraps := state.innerTraps.map others
        traps := if state.innerTraps.isSome then state.traps else others state.traps
        halted := none
        status }
      let after := runText n action inside
      if after.halted.isSome then after else after.exit status
    | _, _ => state

/-- Run what was left for signals that have come. -/
def runPending : Nat → State → State
  | 0, state => state.exhausted
  | n + 1, state =>
    match state.pending with
    | [] => state
    | name :: rest =>
      if state.halted.isSome || state.innerTraps.isSome then state
      else
        let after := runText n ((state.traps.lookup name).getD []) { state with pending := rest }
        if after.halted.isSome then after
        else runPending n { after with status := state.status }

/-- Run a script as a program of its own. -/
def runChild : Nat → ShellCall → State → State
  | 0, _, state => state.exhausted
  | n + 1, call, state =>
    let state := if call.readsInput then { state with input := [] } else state
    let child := state.child call.name call.arguments
    match Builtin.changeManner true call.letters child with
    | .error _ => state.withStatus 2
    | .ok child => state.afterChild (finish n (runText n call.text child))

/-- Run the shell as a program. -/
def runShell : Nat → Bytes → List Bytes → State → State
  | 0, _, _, state => state.exhausted
  | n + 1, called, arguments, state =>
    match shellCall state called arguments with
    | .error message => (state.report message).withStatus 2
    | .ok call => runChild n call state

/-- Run a program with other variables. -/
def runWrapped : Nat → List Bytes → State → State
  | 0, _, state => state.exhausted
  | n + 1, arguments, state =>
    match arguments with
    | [] => Utility.showEnvironment [] state
    | word :: rest =>
      if word == bytes "-i" || word == bytes "-" then
        { runWrapped n rest { state with exported := [] } with exported := state.exported }
      else match Bytes.cut? word (byte '=') with
        | some (name, value) =>
          let inside := { state.assign name value with exported := name :: state.exported }
          let after := runWrapped n rest inside
          { after with bindings := state.bindings, exported := state.exported }
        | none =>
          if (programPath? state word).isSome then runProgram n word rest state
          else Utility.fail state wrapperName
            (Utility.quoted word ++ bytes ": " ++ Utility.reasonText .notFound) 127

/-- Run a program for a program that runs others. -/
def runFor : Nat → Bytes → List Bytes → State → State
  | 0, _, _, state => state.exhausted
  | n + 1, name, words, state =>
    match words with
    | [] => Utility.misuse state name (bytes "missing operand")
    | program :: arguments =>
      if (programPath? state program).isSome then runProgram n program arguments state
      else Utility.fail state name (complaint name program) 127
where
  /-- The message about a program that is not there. -/
  complaint (name program : Bytes) : Bytes :=
    (if name == gathererName then program else if name == limiterName then
      bytes "failed to run command " ++ Utility.quoted program else Utility.quoted program)
      ++ bytes ": " ++ Utility.reasonText .notFound

/-- Run a program for a limited time. -/
def runLimited : Nat → List Bytes → State → State
  | 0, _, state => state.exhausted
  | n + 1, words, state =>
    match words.dropWhile fun word => word.head? == some (byte '-') with
    | [] => (state.report (bytes "Try 'timeout --help' for more information.")).withStatus 125
    | text :: command =>
      match Utility.interval? text with
      | none =>
        (Utility.misuse state limiterName (bytes "invalid time interval " ++ Utility.quoted text)).withStatus
          125
      | some time =>
        let deadline := state.elapsed + time
        if time == 0 || state.limit.any (· ≤ deadline) then runFor n limiterName command state
        else
          let after := runFor n limiterName command { state with limit := some deadline }
          let inside := { after with limit := state.limit }
          if after.halted == some .late then { inside with halted := none }.withStatus 124 else inside

/-- Run commands for a program that gathers their arguments. A command that fails makes it fail. -/
def runGathered : Nat → List (List Bytes) → State → State
  | 0, _, state => state.exhausted
  | _, [], state => state
  | n + 1, words :: rest, state =>
    let after := runFor n gathererName words { state with input := [] }
    if after.halted.isSome then after
    else if after.status == 127 || after.status == 126 then after
    else
      let status := if after.status == 0 then state.status else if after.status == 255 then 124 else 123
      runGathered n rest (after.withStatus status)

/-- Run a program of the system. -/
def runSystem : Nat → Start → State → State
  | 0, _, state => state.exhausted
  | n + 1, start, state =>
    if shellNames.contains start.name then runShell n start.path start.arguments state
    else if start.name == wrapperName then runWrapped n start.arguments state
    else if plainRunners.contains start.name then
      runFor n start.name (start.arguments.dropWhile fun word => word.head? == some (byte '-')) state
    else if start.name == limiterName then runLimited n start.arguments state
    else if start.name == gathererName then
      match (Gather.call start.arguments).commands state.input with
      | .ok commands => runGathered n commands { state with input := [], status := 0 }
      | .error message => Utility.fail state gathererName message 1
    else if start.name == finderName then
      start.arguments.foldl (fun state word =>
        match programPath? state word with
        | some path => state.print (path ++ [newline])
        | none => state.withStatus 1) (state.withStatus 0)
    else match program? start.name with
      | some effect => effect start.arguments state
      | none => ((Builtin.find? start.name).map fun effect => effect start.arguments state).getD state

/-- Run a file as a program that is called by a name. A file that is no program is run as a script. -/
def runFile : Nat → Bytes → Bytes → List Bytes → State → State
  | 0, _, _, _, state => state.exhausted
  | n + 1, called, path, arguments, state =>
    match startOf state.tree path arguments with
    | .ok start =>
      runSystem n (if start.path == path then { start with path := called } else start) state
    | .error .absent => (state.miss (path ++ bytes ": not found")).withStatus 127
    | .error .denied => (state.miss (path ++ bytes ": Permission denied")).withStatus 126
    | .error .tooManyFiles =>
      (state.miss (path ++ bytes ": Too many levels of symbolic links")).withStatus 126
    | .error .noProgram => runShell n called (path :: arguments) state

/-- Run a program. It takes long enough to start for all that runs beside the script to write what it has to
write by now. -/
def runProgram : Nat → Bytes → List Bytes → State → State
  | 0, _, _, state => state.exhausted
  | n + 1, name, arguments, state =>
    let state := state.catchUp
    if name.contains Path.slash then runFile n name name arguments state
    else match programPath? state name with
      | some path => runFile n name path arguments state
      | none => (state.miss (name ++ bytes ": not found")).withStatus 127

/-- Run commands of the shell that run other commands. -/
def runRunning : Nat → Bytes → List Bytes → State → State
  | 0, _, _, state => state.exhausted
  | n + 1, name, arguments, state =>
    let before := state.context
    if name == bytes "eval" then
      let line := state.line
      let after := runText n (Bytes.joined (bytes " ") arguments)
        { state with context := bytes "eval: ", status := 0 }
      { after with context := before, line }
    else if name == bytes "exec" then
      match arguments with
      | [] => state.withStatus 0
      | program :: rest =>
        let after := runProgram n program rest { state with context := bytes "exec: " }
        let after := { after with traps := [], innerTraps := after.innerTraps.map fun _ => [] }
        if after.halted.isSome then after else after.exit after.status
    else if name == bytes "." then
      match arguments with
      | [] => state.withStatus 2
      | path :: _ =>
        let place := if path.contains Path.slash then some path else
          (programDirectories state).findSome? fun directory =>
            let path := Files.inside directory path
            if state.tree.isThere path then some path else none
        match place with
        | none => state.giveUp (bytes ".: " ++ path ++ bytes ": not found")
        | some place =>
          match state.tree.stat place with
          | .ok (.file _ content) =>
            let after := runText n content { state with context := path ++ bytes ": " }
            let after := match after.halted with
              | some (.returned status) => { after with halted := none, status }
              | _ => after
            { after with context := before, line := state.line }
          | _ => state.giveUp (bytes ".: cannot open " ++ path ++ bytes ": No such file")
    else if name == bytes "hash" then
      (arguments.filter fun word => word.head? != some (byte '-')).foldl (fun state word =>
        if (programPath? state word).isSome || (Builtin.find? word).isSome
            || (state.functions.lookup word).isSome then state
        else (state.complain (bytes "hash: " ++ word ++ bytes ": not found")).withStatus 1)
        (state.withStatus 0)
    else
      let describes := name == bytes "type" || arguments.head? == some (bytes "-V")
      let found (word : Bytes) : Option (Bytes × Bytes) :=
        if Flaw.reservedWords.contains word then some (word, bytes " is a shell keyword")
        else if (state.functions.lookup word).isSome then some (word, bytes " is a shell function")
        else if Builtin.special.contains word then some (word, bytes " is a special shell builtin")
        else if (Builtin.find? word).isSome || Builtin.running.contains word then
          some (word, bytes " is a shell builtin")
        else (programPath? state word).map fun path => (path, bytes " is " ++ path)
      if describes || arguments.head? == some (bytes "-v") then
        let words := if name == bytes "type" then arguments else (arguments.drop 1).take 1
        words.foldl (fun state word =>
          match found word with
          | some (path, description) =>
            state.print ((if describes then word ++ description else path) ++ [newline])
          | none =>
            (if describes then state.print (word ++ bytes ": not found\n") else state).withStatus 127)
          (state.withStatus 0)
      else
        let after := runWords n arguments { state with functions := [] }
        { after with functions := state.functions }

/-- Run the command of some fields. -/
def runWords : Nat → List Bytes → State → State
  | 0, _, state => state.exhausted
  | _, [], state => state
  | n + 1, name :: arguments, state =>
    match state.functions.lookup name with
    | some body =>
      let after := run n body { state with arguments, outside := some [], loops := 0 }
      let after := { restored (after.outside.getD []) after with
        arguments := state.arguments
        outside := state.outside
        loops := state.loops }
      match after.halted with
      | some (.returned status) => { after with halted := none, status }
      | _ => after
    | none =>
      match Builtin.find? name with
      | some effect => effect arguments state
      | none =>
        if Builtin.running.contains name then runRunning n name arguments state
        else runProgram n name arguments state

/-- Run the stages of a pipeline, each on the output of the one before. -/
def runStages : Nat → List Command → State → State
  | 0, _, state => state.exhausted
  | _, [], state => state
  | n + 1, [last], state => state.apart fun state => finish n (run n last state)
  | n + 1, stage :: rest, state =>
    let (text, state) := state.capture fun state => state.apart fun state => finish n (run n stage state)
    runStages n rest { state with input := text }

/-- Run commands whose outcome is tested. -/
def runTest : Nat → List Command → State → State
  | 0, _, state => state.exhausted
  | n + 1, body, state =>
    { runAll n body { state with isTested := true } with isTested := state.isTested }

/-- Run the first arm whose test succeeds. -/
def runArms : Nat → List (List Command × List Command) → List Command → State → State
  | 0, _, _, state => state.exhausted
  | n + 1, [], otherwise, state => runAll n otherwise (state.withStatus 0)
  | n + 1, (test, body) :: rest, otherwise, state =>
    let state := runTest n test state
    if state.halted.isSome then state
    else if state.status == 0 then runAll n body state
    else runArms n rest otherwise state

/-- Run the first arm one of whose patterns matches. -/
def runSelected : Nat → Bytes → List (List (List Part) × List Command) → State → State
  | 0, _, _, state => state.exhausted
  | _, _, [], state => state.withStatus 0
  | n + 1, subject, (patterns, body) :: rest, state =>
    let (isMatch, state) := patterns.foldl (fun (found, state) pattern =>
      if found then (found, state)
      else
        let (fragments, state) := expand n pattern state
        (Glob.matches (patternOf fragments) subject, state)) (false, state)
    if isMatch then runAll n body (state.withStatus 0) else runSelected n subject rest state

/-- Run the body of a loop for each of some values. -/
def runEach : Nat → Bytes → List Bytes → List Command → State → State
  | 0, _, _, _, state => state.exhausted
  | _, _, [], _, state => state
  | n + 1, name, value :: rest, body, state =>
    let (goOn, state) := afterRound (runAll n body (state.bind name value))
    if goOn then runEach n name rest body state else state

/-- Run a loop as long as its test says so. -/
def runLoop : Nat → Bool → List Command → List Command → State → State
  | 0, _, _, _, state => state.exhausted
  | n + 1, isUntil, test, body, state =>
    let before := state.status
    let (goOn, state) := afterRound (runTest n test state)
    if !goOn then state
    else if (state.status == 0) != isUntil then
      let (goOn, state) := afterRound (runAll n body state)
      if goOn then runLoop n isUntil test body state else state
    else state.withStatus before

/-- Run a simple command. -/
def runSimple : Nat → List (Bytes × List Part) → List (List Part) → List Redirect → State → State
  | 0, _, _, _, state => state.exhausted
  | n + 1, assignments, words, redirects, state =>
    let (fields, state) := expandAll n words { state with inner := 0 }
    if state.halted.isSome then state
    else
      let isSpecial := fields.head?.any Builtin.special.contains
      let shows := state.manner.showsCommands
      let shown (assigned : List Bytes) (inside : State) : State :=
        if shows then
          inside.write state.diagnostic
            (bytes "+ " ++ Bytes.joined (bytes " ") (assigned ++ fields) ++ [newline])
        else inside
      if fields == [bytes "exec"] then
        let (isSet, after) := redirectAll n redirects (shown [] state)
        if isSet then after.withStatus 0 else after.exit 2
      else
        let (isSet, after) := redirecting n redirects (fun state =>
          if fields.isEmpty then
            let (assigned, after) := assignAll n assignments { state with inner := 0 }
            (if assigned.isEmpty then after else shown assigned after).withStatus after.inner
          else
            let names := assignments.map (·.1)
            let before := names.map fun name => (name, state.bindings.lookup name)
            let (assigned, inside) := assignAll n assignments state
            let inside := { inside with exported := names ++ inside.exported }
            if inside.halted.isSome then inside
            else
              let after := runWords n fields (shown assigned inside)
              if isSpecial then after
              else { restored before after with
                exported := if names.isEmpty then after.exported else state.exported }) state
        checked (if !isSet && isSpecial then after.exit 2 else after)

/-- Run a command. -/
def run : Nat → Command → State → State
  | 0, _, state => state.exhausted
  | n + 1, command, state =>
    if state.halted.isSome then state
    else runPending n (match command with
      | .simple line assignments words redirects =>
        runSimple n assignments words redirects { state with line }
      | .pipe negated stages =>
        let inside := if negated then { state with isTested := true } else state
        let after := match stages with
          | [only] => run n only inside
          | _ => { runStages n stages inside with input := state.input }
        let after := { after with isTested := state.isTested }
        if negated then after.withStatus (if after.status == 0 then 1 else 0) else checked after
      | .both first second =>
        let after := runTest n [first] state
        if after.status == 0 then run n second after else after
      | .either first second =>
        let after := runTest n [first] state
        if after.status == 0 then after else run n second after
      | .choose arms otherwise => runArms n arms otherwise state
      | .loop isUntil test body =>
        { runLoop n isUntil test body { state with loops := state.loops + 1, status := 0 } with
          loops := state.loops }
      | .each name words body =>
        let (values, state) := match words with
          | some words => expandAll n words state
          | none => (state.arguments, state)
        if state.halted.isSome then state
        else { runEach n name values body { state with loops := state.loops + 1, status := 0 } with
          loops := state.loops }
      | .select word arms =>
        let (fragments, state) := expand n word state
        if state.halted.isSome then state else runSelected n (textOf fragments) arms state
      | .group isolated body =>
        if isolated then checked (state.apart fun state => finish n (runAll n body state))
        else runAll n body state
      | .redirected line body redirects =>
        checked (redirecting n redirects (fun state => run n body state) { state with line }).2
      | .define name body =>
        { state with functions := (name, body) :: state.functions.filter (·.1 != name) }.withStatus 0
      | .background body =>
        let beside := { state with limit := none, input := [], jobs := [], recording := some [] }
        let after := beside.apart fun state => finish n (run n body state)
        let number := State.processNumber + state.jobs.length + 1
        let job : Job :=
          { number
            time := if after.halted == some .late then forever else after.elapsed
            status := after.status
            events := (after.recording.getD []).reverse }
        { after with
          limit := state.limit
          input := state.input
          elapsed := state.elapsed
          jobs := job :: after.jobs ++ state.jobs
          lastJob := some number
          recording := state.recording
          status := 0
          halted := if after.halted == some .late then none else after.halted })

/-- Run commands one after another. -/
def runAll : Nat → List Command → State → State
  | 0, _, state => state.exhausted
  | _, [], state => state
  | n + 1, command :: rest, state =>
    let state := run n command state
    if state.halted.isSome then state else runAll n rest state

end

/-! ## Whole programs -/

/-- How long a script may go on. -/
def enough : Nat := 100000

/-- How a program ended. -/
inductive Ending where
  | exited (status : Nat)
  | killed
  /-- It was still running when its time was up. -/
  | late
deriving Repr, DecidableEq

/-- The end of a program, once all that runs beside it has ended too. Of its status only the lowest
byte is seen from outside. -/
def endingOf (state : State) : Ending × State :=
  let after := state.wait
  if after.halted == some .late then (.late, after)
  else match state.halted with
    | some (.exited status) | some (.returned status) => (.exited (status % 256), after)
    | some (.killed _) => (.killed, after)
    | _ => (.exited (state.status % 256), after)

/-- Run a script to its end. -/
def executeScript (call : ShellCall) (state : State) : Ending × State :=
  let inside := { state with
    name := call.name
    arguments := call.arguments
    input := if call.readsInput then [] else state.input }
  match Builtin.changeManner true call.letters inside with
  | .error _ => (.exited 2, state)
  | .ok inside => endingOf (finish enough (runText enough call.text inside))

/-- The program that a program runs in its own place, if that is all it does. -/
def wrapped? (state : State) (start : Start) : Option Start :=
  if start.name != wrapperName then none
  else match start.arguments with
    | word :: rest =>
      if word.contains (byte '=') || word.head? == some (byte '-') then none
      else (programPath? state word).bind fun path => (startOf state.tree path rest).toOption
    | [] => none

/-- Run a program of the system to its end. -/
def execute (state : State) (start : Start) : Ending × State :=
  let start := (wrapped? state start).getD start
  if shellNames.contains start.name then
    match shellCall state start.path start.arguments with
    | .error message => (.exited 2, state.report message)
    | .ok call => executeScript call state
  else endingOf (runSystem enough start state)

end Script

end FunctionChain
