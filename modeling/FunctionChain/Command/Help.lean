import FunctionChain.Command.Catalog

/-!
# Help

The texts that explain commands: what a command does, how it is used, the commands under it and its
flags.
-/

namespace FunctionChain

namespace Command

/-! ## Flags -/

/-- The beginning of a flag's line: its letter, its name and the kind of its value. -/
def Flag.head (flag : Flag) : Bytes :=
  (match flag.letter with
    | some letter => bytes "  -" ++ letter :: bytes ", --"
    | none => bytes "      --")
  ++ flag.name
  ++ (if flag.standard.kindWord.isEmpty then [] else byte ' ' :: flag.standard.kindWord)

/-- What a flag means, with the value that holds when nothing else is said. -/
def Flag.meaning (flag : Flag) : Bytes :=
  flag.help ++
    match flag.standard.shown? with
    | some shown => bytes " (default " ++ shown ++ bytes ")"
    | none => []

/-- The blanks between the longest beginning and the meanings. -/
def flagGap : Nat := 3

/-- The lines of flags, by name, with the meanings in one column. -/
def flagLines (flags : List Flag) : Bytes :=
  let flags := flags.mergeSort fun a b => Bytes.atMost a.name b.name
  let width := flags.foldl (fun width flag => max width flag.head.length) 0 + flagGap
  Bytes.joined [byte '\n'] (flags.map fun flag => flag.head.padRight width ++ flag.meaning)

/-! ## Commands -/

/-- The least width of the column of names. -/
def nameWidth : Nat := 11

/-- The line of a command in the list of its parent. -/
def listLine (command : Command) : Bytes :=
  bytes "\n  " ++ command.name.padRight nameWidth ++ bytes " " ++ command.short

/-- How a command is written that does something. -/
def useLine (command : Command) : Bytes :=
  command.fullName
  ++ (if command.operands.isEmpty then [] else byte ' ' :: command.operands)
  ++ (if command.mentionsFlags then bytes " [flags]" else [])

/-- A titled part of a text, unless it is empty. -/
def part (title : String) (content : Bytes) : Bytes :=
  if content.isEmpty then [] else bytes "\n\n" ++ bytes title ++ bytes ":\n" ++ content

/-- How a command is used, where it has the flags `own` besides the options. -/
def usageWith (command : Command) (own : List Flag) : Bytes :=
  let children := command.children.mergeSort fun a b => Bytes.atMost a.name b.name
  let isRoot := command.path.isEmpty
  bytes "Usage:"
  ++ (if command.action.isSome then bytes "\n  " ++ command.useLine else [])
  ++ (if children.isEmpty then []
    else bytes "\n  " ++ command.fullName ++ bytes " [command]\n\nAvailable Commands:"
      ++ children.flatMap listLine)
  ++ part "Flags" (flagLines (if isRoot then own ++ options else own))
  ++ part "Global Flags" (if isRoot then [] else flagLines options)
  ++ (if children.isEmpty then []
    else bytes "\n\nUse \"" ++ command.fullName
      ++ bytes " [command] --help\" for more information about a command.")
  ++ bytes "\n"

/-- How a command is used. -/
def usage (command : Command) : Bytes := command.usageWith command.flags

/-- The help of a command. Its usage then mentions the flag that asks for help. -/
def explanation (command : Command) : Bytes :=
  (if command.long.isEmpty then command.short else command.long) ++ bytes "\n\n" ++ command.usageWith (command.helpFlag :: command.flags)

/-! ## Topics -/

/-- The words of a topic as messages show them. -/
def topicText (words : List Bytes) : Bytes :=
  0x5B :: Bytes.joined [byte ' '] (words.map Quoted.rawQuote) ++ [0x5D]

/-- The help about the command that words name. -/
def helpAbout (words : List Bytes) : Bytes :=
  match find words with
  | .ok (command, _) => command.explanation
  | .error _ => bytes "Unknown help topic " ++ topicText words ++ bytes "\n" ++ root.usage

end Command

end FunctionChain
