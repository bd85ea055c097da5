import FunctionChain.Command.Arguments
import FunctionChain.Text.EditDistance

/-!
# The commands of the program

The commands form a tree under the program itself. A command is known by its path, the names that lead
to it from the program; the catalog lists all commands, and a command's children are those whose path
is one name longer.

A command line names a command by the first words that are no flags. Which words are flags' values depends
on the flags of the command found so far, so the search looks again after each name. The flag that asks
for help is not among them yet.
-/

namespace FunctionChain

namespace Command

/-- How many words a command takes besides its name and its flags. -/
inductive Arity where
  | any
  | nothing
  | atMostOne
  | exactlyOne
deriving Repr, DecidableEq

/-- What commands do. -/
inductive Action where
  | compile
  | generate
  | serve
  | listJobs
  | showJob
  | help
  | completion
deriving Repr, DecidableEq

end Command

/-- A command of the program. -/
structure Command where
  /-- The names that lead to it. The program itself has none. -/
  path : List Bytes
  /-- The words it takes, as its use line shows them. -/
  operands : Bytes
  /-- What it does, on one line. -/
  short : Bytes
  /-- What it does, at length; nothing when the line says it all. -/
  long : Bytes
  /-- Its flags, options apart. -/
  flags : List Command.Flag
  arity : Command.Arity
  /-- What it does; a command without an action only has children. -/
  action : Option Command.Action
  /-- Whether its use line mentions that it has flags. -/
  mentionsFlags : Bool
deriving Repr, DecidableEq

namespace Command

/-- The name of the program. -/
def programName : Bytes := bytes "fsscompiler"

/-! ## The catalog -/

/-- The program itself. -/
def root : Command :=
  ⟨[], [], bytes "Translate function-chain documents into C++ programs, build and run them", [], [],
    .any, none, true⟩

/-- The command that builds and runs. -/
def compileCommand : Command :=
  ⟨[bytes "compile"], bytes "[file|-]",
    bytes "Generate, build and run the program described by a document", [],
    [.named "trace" (.text []) "write the job trace as canonical JSON to this path"],
    .atMostOne, some .compile, true⟩

/-- The command that prints the program of a document. -/
def generateCommand : Command :=
  ⟨[bytes "generate"], bytes "[file|-]",
    bytes "Print the C++ program generated from a document without building it", [], [],
    .atMostOne, some .generate, true⟩

/-- The command that runs the server. -/
def serveCommand : Command :=
  ⟨[bytes "serve"], [], bytes "Serve the compile API over HTTP", [], [], .nothing, some .serve, true⟩

/-- The commands about the archive. -/
def jobsCommand : Command :=
  ⟨[bytes "jobs"], [], bytes "Inspect jobs archived under --record-dir", [], [], .any, none, true⟩

/-- The command that lists the archive. -/
def listCommand : Command :=
  ⟨[bytes "jobs", bytes "list"], [], bytes "List archived jobs", [], [], .nothing, some .listJobs,
    true⟩

/-- The command that prints one job of the archive. -/
def showCommand : Command :=
  ⟨[bytes "jobs", bytes "show"], bytes "<job-id>", bytes "Print an archived job and its failure", [],
    [], .exactlyOne, some .showJob, true⟩

/-- The command that explains commands. -/
def helpCommand : Command :=
  ⟨[bytes "help"], bytes "[command]", bytes "Help about any command",
    bytes "Help provides help for any command in the application.\nSimply type "
      ++ programName ++ bytes " help [path to command] for full details.",
    [], .any, some .help, true⟩

/-- The commands for shells. -/
def completionCommand : Command :=
  ⟨[bytes "completion"], [], bytes "Generate the autocompletion script for the specified shell",
    bytes "Generate the autocompletion script for " ++ programName ++ bytes " for the specified shell.
See each sub-command's help for details on how to use the generated script.", [], .nothing, none, true⟩

/-- The command that prints the completion script of a shell. -/
def shellCommand (shell : String) (long : Bytes) (mentionsFlags : Bool) : Command :=
  ⟨[bytes "completion", bytes shell], [],
    bytes "Generate the autocompletion script for " ++ bytes shell, long,
    [.named "no-descriptions" (.switch false) "disable completion descriptions"],
    .nothing, some .completion, mentionsFlags⟩

/-- A text with the program's name at each mark `%`. -/
def withName (text : String) : Bytes := (bytes text).replaceAll (bytes "%") programName

/-- What to do with the script for bash. -/
def bashCommand : Command := shellCommand "bash" (withName
"Generate the autocompletion script for the bash shell.

This script depends on the 'bash-completion' package.
If it is not installed already, you can install it via your OS's package manager.

To load completions in your current shell session:

\tsource <(% completion bash)

To load completions for every new session, execute once:

#### Linux:

\t% completion bash > /etc/bash_completion.d/%

#### macOS:

\t% completion bash > $(brew --prefix)/etc/bash_completion.d/%

You will need to start a new shell for this setup to take effect.") false

/-- What to do with the script for zsh. -/
def zshCommand : Command := shellCommand "zsh" (withName
"Generate the autocompletion script for the zsh shell.

If shell completion is not already enabled in your environment you will need
to enable it.  You can execute the following once:

\techo \"autoload -U compinit; compinit\" >> ~/.zshrc

To load completions in your current shell session:

\tsource <(% completion zsh)

To load completions for every new session, execute once:

#### Linux:

\t% completion zsh > \"$\x7bfpath[1]\x7d/_%\"

#### macOS:

\t% completion zsh > $(brew --prefix)/share/zsh/site-functions/_%

You will need to start a new shell for this setup to take effect.") true

/-- What to do with the script for fish. -/
def fishCommand : Command := shellCommand "fish" (withName
"Generate the autocompletion script for the fish shell.

To load completions in your current shell session:

\t% completion fish | source

To load completions for every new session, execute once:

\t% completion fish > ~/.config/fish/completions/%.fish

You will need to start a new shell for this setup to take effect.") true

/-- What to do with the script for powershell. -/
def powershellCommand : Command := shellCommand "powershell" (withName
"Generate the autocompletion script for powershell.

To load completions in your current shell session:

\t% completion powershell | Out-String | Invoke-Expression

To load completions for every new session, add the output of the above command
to your powershell profile.") true

/-- All commands. -/
def catalog : List Command :=
  [root, compileCommand, generateCommand, serveCommand, jobsCommand, listCommand, showCommand,
    helpCommand, completionCommand, bashCommand, zshCommand, fishCommand, powershellCommand]

/-! ## Names -/

/-- The last name of a command. -/
def name (command : Command) : Bytes := command.path.getLastD programName

/-- The names of a command after the program's. -/
def fullName (command : Command) : Bytes := Bytes.joined (bytes " ") (programName :: command.path)

/-- Whether a command stands right under another. -/
def isUnder (parent command : Command) : Bool :=
  !command.path.isEmpty && command.path.dropLast == parent.path

/-- The commands right under a command. -/
def children (command : Command) : List Command := catalog.filter command.isUnder

/-- The command of a name right under a command. -/
def child? (command : Command) (name : Bytes) : Option Command :=
  command.children.find? (·.name == name)

/-! ## Finding the command of a command line -/

/-- The flags that a command has before it is asked for help. -/
def ownAndShared (command : Command) : List Flag := command.flags ++ options

/-- Whether the next word is the value of a flag, as far as the flags are known. -/
def takesNext (flags : List Flag) (word : Bytes) : Bool :=
  !word.contains (byte '=') &&
    (if word.startsWith (bytes "--") then
      !((flagNamed? flags (word.drop 2)).any (·.standard.isSwitch))
    else
      word.startsWith (bytes "-") && word.length == 2 &&
        !((flags.find? (·.letter == word[1]?)).any (·.standard.isSwitch)))

/-- The words that are neither flags nor values of flags, up to the mark that ends the flags. A flag whose
value is the last word ends them too. -/
def plainWords (flags : List Flag) : List Bytes → List Bytes
  | [] => []
  | word :: rest =>
    if word == bytes "--" then []
    else if takesNext flags word then
      match rest with
      | _ :: next :: rest => plainWords flags (next :: rest)
      | _ => []
    else if word.isEmpty || word.startsWith (bytes "-") then plainWords flags rest
    else word :: plainWords flags rest

/-- The words without the first that is the given name and neither a flag nor the value of one. -/
def withoutName (flags : List Flag) (name : Bytes) : List Bytes → List Bytes
  | [] => []
  | word :: rest =>
    if word == bytes "--" then word :: rest
    else if takesNext flags word then
      match rest with
      | value :: rest => word :: value :: withoutName flags name rest
      | [] => [word]
    else if word == name then rest
    else word :: withoutName flags name rest

/-- The command that words name below a command, in at most so many steps, and the remaining words. -/
def descend : Nat → Command → List Bytes → Command × List Bytes
  | 0, command, words => (command, words)
  | steps + 1, command, words =>
    match (plainWords command.ownAndShared words).head? with
    | none => (command, words)
    | some name =>
      match command.child? name with
      | none => (command, words)
      | some child => descend steps child (withoutName command.ownAndShared name words)

/-- The names that may be meant by a word that names no command. Nobody means the help command. -/
def suggestions (word : Bytes) : List Bytes :=
  ((root.children.filter (·.action != some .help)).map Command.name).filter
    (EditDistance.isMeantBy word)

/-- The message about a word that names no command. -/
def unknownMessage (command : Command) (word : Bytes) : Bytes :=
  bytes "unknown command " ++ Quoted.quote word ++ bytes " for " ++ Quoted.quote command.fullName

/-- The hint at what may be meant. -/
def hint (names : List Bytes) : Bytes :=
  if names.isEmpty then []
  else bytes "\n\nDid you mean this?\n" ++ names.flatMap fun name => byte '\t' :: name ++ [byte '\n']

/-- The command that words name, and the remaining words; or the message about the first that is left when
they name none. -/
def find (words : List Bytes) : Except Bytes (Command × List Bytes) :=
  let (command, rest) := descend words.length root words
  if command.path.isEmpty then
    match plainWords command.ownAndShared rest with
    | [] => .ok (command, rest)
    | word :: _ => .error (unknownMessage command word ++ hint (suggestions word))
  else .ok (command, rest)

/-! ## Choosing -/

/-- Why a command does not take such words. -/
def refusal? (command : Command) (words : List Bytes) : Option Bytes :=
  match command.arity, words with
  | .any, _ | .nothing, [] | .atMostOne, [] | .atMostOne, [_] | .exactlyOne, [_] => none
  | .nothing, word :: _ => some (command.unknownMessage word)
  | .atMostOne, words =>
    some (bytes "accepts at most 1 arg(s), received " ++ Decimal.ofNat words.length)
  | .exactlyOne, words =>
    some (bytes "accepts 1 arg(s), received " ++ Decimal.ofNat words.length)

/-- The flag that asks for the help of a command. -/
def helpFlag (command : Command) : Flag := .helpFor command.name

/-- What a command line asks for. -/
inductive Choice where
  /-- The help of a command. -/
  | explain (command : Command)
  /-- That a command does something. -/
  | perform (action : Action) (parsed : Parsed)
  /-- Nothing, since no command is meant. -/
  | unknown (message : Bytes)
  /-- Nothing, since a flag is not as it should be. -/
  | badFlag (message : Bytes)
  /-- Nothing, since the command does not take such words. -/
  | badWords (message : Bytes)

/-- What a command line asks for. -/
def choose (words : List Bytes) : Choice :=
  match find words with
  | .error message => .unknown message
  | .ok (command, rest) =>
    match parseWords (command.helpFlag :: command.ownAndShared) rest with
    | .error misuse => .badFlag misuse.message
    | .ok parsed =>
      if (parsed.given.lookup command.helpFlag.name).any Setting.isOn then .explain command
      else
        match command.action with
        | none => .explain command
        | some action =>
          match command.refusal? parsed.words with
          | some message => .badWords message
          | none => .perform action parsed

end Command

end FunctionChain
