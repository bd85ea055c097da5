import FunctionChain.Script.Builtin
import FunctionChain.Script.Expression
import FunctionChain.Script.Gather
import FunctionChain.Script.Stream

/-!
# Programs of the system

The programs of the system are files, of which only the name of the program matters. They can be copied and
linked like all files. A file that is not such a program names one in its first line, or another file that
does so in turn.
-/

namespace FunctionChain

namespace Script

/-- The names of the shell. -/
def shellNames : List Bytes := [bytes "sh", bytes "dash", bytes "bash"]

/-- The commands of the shell that are programs of the system as well. -/
def sharedNames : List Bytes :=
  [bytes "echo", bytes "printf", bytes "true", bytes "false", bytes "test", bytes "[", bytes "pwd",
    bytes "kill"]

/-- The program that runs another with other variables. -/
def wrapperName : Bytes := bytes "env"

/-- The programs of the system that do not run other programs. -/
def programs : List (Bytes × (List Bytes → State → State)) :=
  Utility.table ++ Filter.table ++ Stream.table ++ Expression.table

/-- The program of the system of a name. -/
def program? (name : Bytes) : Option (List Bytes → State → State) := programs.lookup name

/-- The programs that run another one as it is. -/
def plainRunners : List Bytes := [bytes "nice", bytes "nohup", bytes "setsid", bytes "stdbuf"]

/-- The program that gives another one a limited time. -/
def limiterName : Bytes := bytes "timeout"

/-- The program that gives its input to another one as arguments. -/
def gathererName : Bytes := bytes "xargs"

/-- The program that tells where programs are. -/
def finderName : Bytes := bytes "which"

/-- The names of all programs of the system. -/
def systemNames : List Bytes :=
  shellNames ++ sharedNames ++ [wrapperName, limiterName, gathererName, finderName] ++ plainRunners
    ++ programs.map (·.1)

/-! ## Files of the system -/

/-- The mark with which programs of the system start. -/
def machineMark : Bytes := 0x7F :: bytes "ELF"

/-- The content of a program of the system. -/
def machineCode (name : Bytes) : Bytes := machineMark ++ name

/-- The name of the program of the system that has a content. -/
def machineName? (content : Bytes) : Option Bytes := Bytes.after? content machineMark

/-- The directory of the system's programs, and the shorter path for it. -/
def systemDirectories : List Bytes := [bytes "/usr/bin", bytes "/bin"]

/-- A tree with the directories and the programs of the system in it. -/
def installed (tree : Files.Tree) : Files.Tree :=
  let folder := [bytes "usr", bytes "bin"]
  let tree := [[bytes "tmp"], [bytes "dev"], [bytes "usr"], folder].foldl
    (fun tree location => tree.put location (.directory 0o755)) tree
  let tree := tree.putLink [bytes "bin"] (bytes "usr/bin")
  let tree := tree.put (Files.Tree.steps State.nowherePath) (.file 0o666 [])
  systemNames.foldl (fun tree name => tree.put (folder ++ [name]) (.file 0o755 (machineCode name))) tree

/-! ## Starting files -/

/-- The program that the first line of a file names, with its argument if it has one. -/
def interpreter? (content : Bytes) : Option (Bytes × List Bytes) :=
  match content with
  | 0x23 :: 0x21 :: rest =>
    let line := Bytes.dropEndWhile ((rest.takeWhile (· != newline)).dropWhile isGap) isGap
    let path := line.takeWhile (!isGap ·)
    let argument := (line.drop path.length).dropWhile isGap
    if path.isEmpty then none else some (path, if argument.isEmpty then [] else [argument])
  | _ => none

/-- Why a file cannot be started. -/
inductive Refusal where
  | absent
  | denied
  /-- Neither a program of the system, nor does it name another file. -/
  | noProgram
  | tooManyFiles
deriving Repr, DecidableEq

/-- A program of the system that is to be run: the path by which it is called, its name, and its
arguments. -/
structure Start where
  path : Bytes
  name : Bytes
  arguments : List Bytes
deriving Repr, DecidableEq

/-- The most files that name one another, with the program of the system. -/
def interpreterLimit : Nat := 6

/-- The program that runs when a file is started, through a limited number of files. -/
def startThrough (tree : Files.Tree) : Nat → Bytes → List Bytes → Except Refusal Start
  | 0, _, _ => .error .tooManyFiles
  | limit + 1, path, arguments =>
    match tree.stat path with
    | .error _ => .error .absent
    | .ok (.directory _) => .error .denied
    | .ok (.file mode content) =>
      if mode &&& 0o111 == 0 then .error .denied
      else match machineName? content, interpreter? content with
        | some name, _ => .ok ⟨path, name, arguments⟩
        | none, some (other, words) => startThrough tree limit other (words ++ path :: arguments)
        | none, none => .error .noProgram

/-- The program that runs when a file is started. -/
def startOf (tree : Files.Tree) (path : Bytes) (arguments : List Bytes) : Except Refusal Start :=
  startThrough tree interpreterLimit path arguments

/-- The directories in which programs are looked for. -/
def programDirectories (state : State) : List Bytes :=
  Bytes.splitOn ((state.bindings.lookup State.pathName).getD State.defaultPath) (byte ':')

/-- Whether there is a program at a path. -/
def isProgramAt (tree : Files.Tree) (path : Bytes) : Bool :=
  match tree.stat path with
  | .ok node => node.isProgram
  | .error _ => false

/-- The path at which a program is found. -/
def programPath? (state : State) (name : Bytes) : Option Bytes :=
  if name.contains Path.slash then if state.tree.isThere name then some name else none
  else ((programDirectories state).map fun directory =>
      if directory.isEmpty then name else Files.inside directory name).find? (isProgramAt state.tree)

/-! ## Calls of the shell -/

/-- A call of the shell. -/
structure ShellCall where
  /-- The letters that ask for the manner of running. -/
  letters : Bytes
  /-- The name and the arguments that the script sees. -/
  name : Bytes
  arguments : List Bytes
  text : Bytes
  /-- Whether the script is the input. -/
  readsInput : Bool

/-- The letters among the arguments of the shell, and the other arguments. -/
def shellLetters : List Bytes → Bytes × List Bytes
  | (0x2D :: b :: more) :: rest =>
    if b == byte '-' && more.isEmpty then ([], rest)
    else
      let (letters, others) := shellLetters rest
      (b :: more ++ letters, others)
  | arguments => ([], arguments)

/-- The script that the shell runs for its arguments, or a complaint. -/
def shellCall (state : State) (called : Bytes) (arguments : List Bytes) : Except Bytes ShellCall :=
  let (letters, others) := shellLetters arguments
  let plain := letters.filter fun b => b != byte 'c' && b != byte 's'
  match Builtin.changeManner true plain state with
  | .error letter => .error (called ++ bytes ": 0: Illegal option -" ++ [letter])
  | .ok _ =>
    if letters.contains (byte 'c') then
      match others with
      | [] => .error (called ++ bytes ": 0: -c requires an argument")
      | text :: rest => .ok ⟨plain, rest.headD called, rest.tail, text, false⟩
    else match others, letters.contains (byte 's') with
      | path :: rest, false =>
        match state.tree.stat path with
        | .ok (.file _ content) => .ok ⟨plain, path, rest, content, false⟩
        | _ => .error (called ++ bytes ": 0: cannot open " ++ path ++ bytes ": No such file")
      | _, _ => .ok ⟨plain, called, others, state.input, true⟩

end Script

end FunctionChain
