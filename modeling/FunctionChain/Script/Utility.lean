import FunctionChain.Script.Numeral
import FunctionChain.Script.State

/-!
# Programs on files

The programs of the system that make, copy, list and remove files, and a few that only compute something
from their arguments, each as a function of its arguments on the state of the script.
-/

namespace FunctionChain

namespace Script

namespace Utility

/-- A program: what it does with its arguments. -/
abbrev Effect := List Bytes → State → State

/-! ## Arguments -/

/-- The options among some arguments, as letters with their values, and the other arguments. The letters of
`valued` take the rest of their word or the next word as their value; `waiting` is a letter that waits for
the next word. -/
def optionsFrom (valued : Bytes) :
    Option UInt8 → List Bytes → List (UInt8 × Bytes) × List Bytes
  | _, [] => ([], [])
  | some letter, value :: rest =>
    let (found, others) := optionsFrom valued none rest
    ((letter, value) :: found, others)
  | none, word :: rest =>
    if word == bytes "--" then ([], rest)
    else match word with
      | 0x2D :: b :: letters =>
        let (plain, after) := (b :: letters).span (!valued.contains ·)
        let flags := plain.map (·, ([] : Bytes))
        let (flags, waiting) := match after with
          | [] => (flags, none)
          | [letter] => (flags, some letter)
          | letter :: value => (flags ++ [(letter, value)], none)
        let (found, others) := optionsFrom valued waiting rest
        (flags ++ found, others)
      | _ =>
        let (found, others) := optionsFrom valued none rest
        (found, word :: others)

/-- The options among some arguments, as letters with their values, and the other arguments. -/
def options (valued : Bytes) (arguments : List Bytes) : List (UInt8 × Bytes) × List Bytes :=
  optionsFrom valued none arguments

/-- Whether an option is among those found. -/
def has (found : List (UInt8 × Bytes)) (letter : Char) : Bool := found.any (·.1 == byte letter)

/-- The value of an option. -/
def valueOf? (found : List (UInt8 × Bytes)) (letter : Char) : Option Bytes := found.lookup (byte letter)

/-! ## Messages -/

/-- A text between quotes. -/
def quoted (text : Bytes) : Bytes := bytes "'" ++ text ++ bytes "'"

/-- The words for a reason, with a capital letter. -/
def reasonText (reason : Files.Reason) : Bytes :=
  match reason.describe with
  | b :: rest => Bytes.upperByte b :: rest
  | [] => []

/-- The words for the reason of an error about files. -/
def errorText (error : Error) : Bytes :=
  match error with
  | .file fault => reasonText fault.reason
  | _ => []

/-- Fail with a message. -/
def fail (state : State) (name message : Bytes) (status : Nat) : State :=
  (state.report (name ++ bytes ": " ++ message)).withStatus status

/-- Fail because of the arguments. -/
def misuse (state : State) (name message : Bytes) : State :=
  ((state.report (name ++ bytes ": " ++ message)).report
    (bytes "Try '" ++ name ++ bytes " --help' for more information.")).withStatus 1

/-- Run for each of some paths, of which there has to be one. -/
def eachPath (name missing : Bytes) (paths : List Bytes) (body : State → Bytes → State)
    (state : State) : State :=
  if paths.isEmpty then misuse state name missing else paths.foldl body (state.withStatus 0)

/-! ## Making and removing -/

/-- The rights of a new file. -/
def fileMode (state : State) : Nat := 0o666 - (0o666 &&& state.mask)

/-- The rights of a new directory. -/
def directoryMode (state : State) : Nat := 0o777 - (0o777 &&& state.mask)

/-- Make directories. -/
def mkdir : Effect := fun arguments state =>
  let name := bytes "mkdir"
  let (found, paths) := options (bytes "m") arguments
  eachPath name (bytes "missing operand") paths (fun state path =>
    let mode := directoryMode state
    let make := if has found 'p' then Files.makeDirectories path mode else Files.makeDirectory path mode
    match state.attempt make with
    | (.ok _, state) => state
    | (.error error, state) =>
      fail state name (bytes "cannot create directory " ++ quoted path ++ bytes ": " ++ errorText error) 1)
    state

/-- Remove empty directories. -/
def rmdir : Effect := fun arguments state =>
  let name := bytes "rmdir"
  let (_, paths) := options [] arguments
  eachPath name (bytes "missing operand") paths (fun state path =>
    let problem? : Option Files.Reason := match state.tree.locateName path with
      | .error reason => some reason
      | .ok location =>
        match state.tree.get? location with
        | some (.directory _) => if (state.tree.names location).isEmpty then none else some .notEmpty
        | some (.file ..) => some .notDirectory
        | none => some (if (state.tree.link? location).isSome then .notDirectory else .notFound)
    match problem? with
    | none => (state.attempt (Files.removeAll path)).2
    | some reason =>
      fail state name (bytes "failed to remove " ++ quoted path ++ bytes ": " ++ reasonText reason) 1)
    state

/-- Remove files. -/
def rm : Effect := fun arguments state =>
  let name := bytes "rm"
  let (found, paths) := options [] arguments
  let isForced := has found 'f'
  let isDeep := has found 'r' || has found 'R'
  if paths.isEmpty && isForced then state.withStatus 0
  else eachPath name (bytes "missing operand") paths (fun state path =>
    let found? : Except Files.Reason Bool := do
      let location ← state.tree.locateName path
      if !state.tree.isTaken location then .error .notFound
      else .ok ((state.tree.get? location).any (·.isDirectory))
    let problem? : Option Files.Reason := match found? with
      | .error reason => if isForced && reason == .notFound then none else some reason
      | .ok isDirectory => if isDirectory && !isDeep then some .isDirectory else none
    match problem? with
    | none => (state.attempt (Files.removeAll path)).2
    | some reason =>
      fail state name (bytes "cannot remove " ++ quoted path ++ bytes ": " ++ reasonText reason) 1) state

/-- Make files that are not there. -/
def touch : Effect := fun arguments state =>
  let name := bytes "touch"
  let (found, paths) := options (bytes "drt") arguments
  eachPath name (bytes "missing file operand") paths (fun state path =>
    if state.tree.isThere path || has found 'c' then state
    else match state.attempt (Files.writeFile path [] (fileMode state)) with
      | (.ok _, state) => state
      | (.error error, state) =>
        fail state name (bytes "cannot touch " ++ quoted path ++ bytes ": " ++ errorText error) 1) state

/-! ## Rights -/

/-- One clause of a change of rights: whose, how, and which. -/
def clause? (mask : Nat) (text : Bytes) : Option (Nat → Nat) :=
  let who := text.takeWhile fun b => (bytes "ugoa").contains b
  let groups :=
    if who.isEmpty || who.contains (byte 'a') then [64, 8, 1]
    else (if who.contains (byte 'u') then [64] else [])
      ++ (if who.contains (byte 'g') then [8] else [])
      ++ (if who.contains (byte 'o') then [1] else [])
  let spread (rights : Nat) : Nat := (groups.map (· * rights)).foldl (· ||| ·) 0
  match text.drop who.length with
  | [] => none
  | sign :: rights =>
    if !rights.all fun b => (bytes "rwxX").contains b then none
    else
      let value := (if rights.contains (byte 'r') then 4 else 0)
        + (if rights.contains (byte 'w') then 2 else 0)
        + (if rights.contains (byte 'x') || rights.contains (byte 'X') then 1 else 0)
      let bits := if who.isEmpty then spread value - (spread value &&& mask) else spread value
      if sign == byte '+' then some fun mode => mode ||| bits
      else if sign == byte '-' then some fun mode => mode - (mode &&& bits)
      else if sign == byte '=' then some fun mode => (mode - (mode &&& spread 7)) ||| bits
      else none

/-- The change of rights that a text stands for. -/
def modeChange? (mask : Nat) (text : Bytes) : Option (Nat → Nat) :=
  if text.isEmpty then none
  else if text.all Numeral.isOctal then some fun _ => Numeral.value 8 text % 512
  else ((Bytes.splitOn text (byte ',')).mapM (clause? mask)).map fun clauses mode =>
    clauses.foldl (fun mode change => change mode) mode

/-- Whether a word is a change of rights that looks like an option. -/
def isModeWord (word : Bytes) : Bool :=
  match word with
  | 0x2D :: rights => !rights.isEmpty && rights.all fun b => (bytes "rwx").contains b
  | _ => false

/-- Change the rights of files. -/
def chmod : Effect := fun arguments state =>
  let name := bytes "chmod"
  let words := arguments.filter fun word => isModeWord word || word.head? != some (byte '-')
  match words with
  | [] => misuse state name (bytes "missing operand")
  | [change] => misuse state name (bytes "missing operand after " ++ quoted change)
  | text :: paths =>
    match modeChange? state.mask text with
    | none => misuse state name (bytes "invalid mode: " ++ quoted text)
    | some change =>
      paths.foldl (fun state path =>
        match state.tree.locate path with
        | .error reason => inaccessible state name path reason
        | .ok location =>
          match state.tree.get? location with
          | some (.file mode content) =>
            { state with tree := state.tree.put location (.file (change mode) content) }
          | some (.directory mode) =>
            { state with tree := state.tree.put location (.directory (change mode)) }
          | none => inaccessible state name path .notFound) (state.withStatus 0)
where
  /-- The message about a file that cannot be reached. -/
  inaccessible (state : State) (name path : Bytes) (reason : Files.Reason) : State :=
    fail state name (bytes "cannot access " ++ quoted path ++ bytes ": " ++ reasonText reason) 1

/-! ## Copying and moving -/

/-- The path of a copy: inside the target when that is a directory. -/
def targetPath (state : State) (source target : Bytes) : Bytes :=
  if state.tree.isDirectory target then Files.inside target (Path.base source) else target

/-- Put a copy of all that stands at a place at another place. -/
def copyAll (source target : Files.Location) (tree : Files.Tree) : Files.Tree :=
  let copies := tree.nodes.filter fun (location, _) => source.isPrefixOf location
  let links := tree.links.filter fun (location, _) => source.isPrefixOf location
  let place (location : Files.Location) : Files.Location := target ++ location.drop source.length
  let tree := copies.foldl (fun tree (location, node) => tree.put (place location) node) tree
  links.foldl (fun tree (location, path) => tree.putLink (place location) path) tree

/-- Copy one file. -/
def copyOne (isDeep : Bool) (state : State) (source target : Bytes) : State :=
  let name := bytes "cp"
  let target := targetPath state source target
  match state.tree.stat source with
  | .error reason =>
    fail state name (bytes "cannot stat " ++ quoted source ++ bytes ": " ++ reasonText reason) 1
  | .ok (.directory _) =>
    if !isDeep then
      fail state name (bytes "-r not specified; omitting directory " ++ quoted source) 1
    else match state.tree.locate source, state.tree.locate target with
      | .ok old, .ok new => { state with tree := copyAll old new state.tree }
      | _, _ => state.withStatus 1
  | .ok (.file mode content) =>
    if (state.tree.linkAt? target).isSome && !state.tree.isThere target then
      fail state name (bytes "not writing through dangling symlink " ++ quoted target) 1
    else match state.attempt (Files.writeFile target content (mode - (mode &&& state.mask))) with
    | (.ok _, state) => state
    | (.error error, state) =>
      fail state name (bytes "cannot create regular file " ++ quoted target ++ bytes ": "
        ++ errorText error) 1

/-- Move one file. -/
def moveOne (state : State) (source target : Bytes) : State :=
  let name := bytes "mv"
  let target := targetPath state source target
  match state.tree.hasName source, state.tree.stat source with
  | false, .error reason =>
    fail state name (bytes "cannot stat " ++ quoted source ++ bytes ": " ++ reasonText reason) 1
  | _, _ =>
    match state.tree.locateName source, state.tree.locateName target with
    | .ok old, .ok new =>
      if old == new then
        fail state name (quoted source ++ bytes " and " ++ quoted target ++ bytes " are the same file") 1
      else { state with tree := (copyAll old new (state.tree.eraseAll new)).eraseAll old }
    | _, .error reason =>
      fail state name (bytes "cannot move " ++ quoted source ++ bytes " to " ++ quoted target ++ bytes ": "
        ++ reasonText reason) 1
    | _, _ => state.withStatus 1

/-- Copy or move files to the last of the paths. -/
def transfer (name : Bytes) (one : State → Bytes → Bytes → State) (paths : List Bytes) (state : State) :
    State :=
  match paths.reverse with
  | [] => misuse state name (bytes "missing file operand")
  | [only] => misuse state name (bytes "missing destination file operand after " ++ quoted only)
  | target :: sources =>
    if sources.length > 1 && !state.tree.isDirectory target then
      fail state name (bytes "target " ++ quoted target ++ bytes ": " ++ reasonText
        (if state.tree.isThere target then .notDirectory else .notFound)) 1
    else sources.reverse.foldl (fun state source => one state source target) (state.withStatus 0)

/-- Copy files. -/
def cp : Effect := fun arguments state =>
  let (found, paths) := options [] arguments
  transfer (bytes "cp") (copyOne (has found 'r' || has found 'R' || has found 'a')) paths state

/-- Move files. -/
def mv : Effect := fun arguments state => transfer (bytes "mv") moveOne (options [] arguments).2 state

/-! ## Linking -/

/-- Make a name for what stands at a path: a link, or else the file itself once more. -/
def linkOne (isSymbolic isForced : Bool) (state : State) (source target : Bytes) : State :=
  let name := bytes "ln"
  let target := targetPath state source target
  let state := if isForced && !state.tree.isDirectory target then
    (state.attempt (Files.discard target)).2 else state
  let kind := if isSymbolic then bytes "symbolic" else bytes "hard"
  let make (action : Files.Action Unit) : State :=
    match state.attempt action with
    | (.ok _, state) => state
    | (.error error, state) =>
      fail state name (bytes "failed to create " ++ kind ++ bytes " link " ++ quoted target ++ bytes ": "
        ++ errorText error) 1
  if isSymbolic then make (Files.makeLink source target)
  else match state.tree.stat source with
    | .error reason =>
      fail state name (bytes "failed to access " ++ quoted source ++ bytes ": " ++ reasonText reason) 1
    | .ok (.directory _) => fail state name (source ++ bytes ": hard link not allowed for directory") 1
    | .ok (.file mode content) =>
      if state.tree.hasName target then
        fail state name (bytes "failed to create hard link " ++ quoted target ++ bytes ": File exists") 1
      else make (Files.writeFile target content mode)

/-- Make links. -/
def ln : Effect := fun arguments state =>
  let name := bytes "ln"
  let (found, paths) := options [] arguments
  let isSymbolic := has found 's'
  match found.find? fun (letter, _) => !(bytes "sfnTvr").contains letter, paths with
  | some (letter, _), _ => misuse state name (bytes "invalid option -- " ++ quoted [letter])
  | none, [] => misuse state name (bytes "missing file operand")
  | none, [only] => linkOne isSymbolic (has found 'f') (state.withStatus 0) only (bytes ".")
  | none, paths => transfer name (linkOne isSymbolic (has found 'f')) paths state

/-- Write the paths that links stand for. -/
def readlink : Effect := fun arguments state =>
  let (found, paths) := options [] arguments
  eachPath (bytes "readlink") (bytes "missing operand") paths (fun state path =>
    let resolves := has found 'f' || has found 'e' || has found 'm'
    let target? := if resolves then (state.tree.locate path).toOption.map (Path.ofNames true)
      else state.tree.linkAt? path
    match target? with
    | some target => state.print (if has found 'n' then target else target ++ [10])
    | none => state.withStatus 1) state

/-! ## Listing -/

/-- The names in a directory that are listed. -/
def listed (found : List (UInt8 × Bytes)) (names : List Bytes) : List Bytes :=
  if has found 'a' then [Path.same, Path.up] ++ names
  else if has found 'A' then names
  else names.filter (·.head? != some (byte '.'))

/-- List files. -/
def ls : Effect := fun arguments state =>
  let name := bytes "ls"
  let (found, paths) := options [] arguments
  let paths := if paths.isEmpty then [Path.same] else Bytes.sorted paths
  let state := paths.foldl (fun state path =>
    match state.tree.stat path with
    | .error reason =>
      fail state name (bytes "cannot access " ++ quoted path ++ bytes ": " ++ reasonText reason) 2
    | .ok _ => state) (state.withStatus 0)
  let there := paths.filter state.tree.isThere
  let (directories, files) := there.partition fun path => state.tree.isDirectory path && !has found 'd'
  let lines (names : List Bytes) : Bytes := names.flatMap (· ++ [10])
  let blocks := (if files.isEmpty then [] else [lines files]) ++ directories.map fun path =>
    let names := match state.tree.locate path with
      | .ok location => listed found (state.tree.names location)
      | .error _ => []
    (if paths.length > 1 then path ++ bytes ":\n" else []) ++ lines names
  state.print (Bytes.joined [10] blocks)

/-! ## Names and numbers -/

/-- Write the last name of a path, without an ending. -/
def basename : Effect := fun arguments state =>
  match (options [] arguments).2 with
  | [] => misuse state (bytes "basename") (bytes "missing operand")
  | path :: rest =>
    let name := Path.base path
    let ending := rest.headD []
    let name := if Bytes.endsWith name ending && name != ending then
      name.take (name.length - ending.length) else name
    (state.print (name ++ [10])).withStatus 0

/-- Write paths without their last names. -/
def dirname : Effect := fun arguments state =>
  let paths := (options [] arguments).2
  eachPath (bytes "dirname") (bytes "missing operand") paths (fun state path =>
    let isSlash (b : UInt8) : Bool := b == Path.slash
    let start := Bytes.dropEndWhile (Path.throughLastSlash (Bytes.dropEndWhile path isSlash)) isSlash
    let start := if start.isEmpty then if Path.isRooted path then [Path.slash] else Path.same else start
    state.print (start ++ [10])) state

/-- The numbers from one to another in steps. `fuel` bounds how many. -/
def stepsFrom (step last : Int) : Nat → Int → List Int
  | 0, _ => []
  | fuel + 1, n => if (if step < 0 then n ≥ last else n ≤ last) then
      n :: stepsFrom step last fuel (n + step) else []

/-- Write numbers in sequence. -/
def seq : Effect := fun arguments state =>
  let name := bytes "seq"
  match arguments.find? fun text => (Numeral.decimal? text).isNone with
  | some text => misuse state name (bytes "invalid floating point argument: " ++ quoted text)
  | none =>
    let write (first step last : Int) : State :=
      let count := if step == 0 then 0 else ((last - first).natAbs / step.natAbs + 1)
      let numbers := stepsFrom step last count first
      (state.print (numbers.flatMap fun n => Decimal.ofInt n ++ [10])).withStatus 0
    match arguments.filterMap Numeral.decimal? with
    | [last] => write 1 1 last
    | [first, last] => write first 1 last
    | [first, step, last] => write first step last
    | _ => misuse state name (bytes "missing operand")

/-- The nanoseconds of a number of seconds, minutes, hours or days, with decimals. -/
def interval? (text : Bytes) : Option Nat :=
  let units := [(byte 's', Duration.second), (byte 'm', Duration.minute), (byte 'h', Duration.hour),
    (byte 'd', 24 * Duration.hour)]
  let (unit, text) := match text.getLast?.bind fun b => units.lookup b with
    | some unit => (unit, text.dropLast)
    | none => (Duration.second, text)
  match Bytes.cut? text (byte '.') with
  | none => (Decimal.toNat? text).map (· * unit)
  | some (whole, fraction) => do
    let whole ← if whole.isEmpty then some 0 else Decimal.toNat? whole
    let parts ← if fraction.isEmpty then some 0 else Decimal.toNat? fraction
    some (whole * unit + parts * unit / Nat.pow 10 fraction.length)

/-- Let time pass. -/
def sleep : Effect := fun arguments state =>
  let name := bytes "sleep"
  match arguments.find? fun text => (interval? text).isNone with
  | some text =>
    if text == bytes "infinity" then { state with halted := some .late }
    else misuse state name (bytes "invalid time interval " ++ quoted text)
  | none =>
    if arguments.isEmpty then misuse state name (bytes "missing operand")
    else (state.withStatus 0).pass ((arguments.filterMap interval?).foldl (· + ·) 0)

/-- Write the variables that programs see. -/
def showEnvironment : Effect := fun arguments state =>
  match arguments with
  | [] =>
    (state.print (state.environment.flatMap fun (name, value) =>
      name ++ bytes "=" ++ value ++ [10])).withStatus 0
  | names =>
    let values := names.filterMap fun name => state.environment.lookup name
    (state.print (values.flatMap (· ++ [10]))).withStatus (if values.length == names.length then 0 else 1)

/-! ## Finding programs -/

/-- The programs of this module. -/
def table : List (Bytes × Effect) :=
  [(bytes "mkdir", mkdir), (bytes "rmdir", rmdir), (bytes "rm", rm), (bytes "touch", touch),
    (bytes "chmod", chmod), (bytes "cp", cp), (bytes "mv", mv), (bytes "ls", ls),
    (bytes "ln", ln), (bytes "readlink", readlink),
    (bytes "basename", basename), (bytes "dirname", dirname), (bytes "seq", seq),
    (bytes "sleep", sleep),
    (bytes "printenv", showEnvironment), (bytes "sync", fun _ state => state.withStatus 0)]

end Utility

end Script

end FunctionChain
