import FunctionChain.Command.Completion
import FunctionChain.Command.Help
import FunctionChain.Command.Library
import FunctionChain.Settings.File

/-!
# A library for command lines

Command lines are read by the catalog of commands and their flags. The values of options come from the
command line, the environment, a configuration file in one of several formats, and the standard values.
-/

namespace FunctionChain

namespace Command

/-! ## Effective values -/

/-- Where values come from. -/
structure Sources where
  /-- The flags that were given. -/
  given : List (Bytes × Setting)
  /-- The environment variables. -/
  environment : List (Bytes × Bytes)
  /-- The configuration file; nothing before it has been read. -/
  file : Settings.Table

/-- The environment variable of an option. -/
def variableName (option : Bytes) : Bytes :=
  bytes "FSSC_" ++ Bytes.upper (option.map fun b => if b == byte '-' then byte '_' else b)

namespace Sources

/-- The value of an option that was given. A list is the one that its written form reads as. -/
def fromFlags? (sources : Sources) (flag : Flag) : Option Setting :=
  (sources.given.lookup flag.name).map fun
    | .texts list => .texts (Csv.settled list)
    | setting => setting

/-- The value of an option from the environment. An empty variable counts as none. -/
def fromEnvironment? (sources : Sources) (flag : Flag) : Option Setting :=
  match sources.environment.lookup (variableName flag.name) with
  | none | some [] => none
  | some value => some (flag.standard.reread (.text value))

/-- The value of an option from the configuration file. -/
def fromFile? (sources : Sources) (flag : Flag) : Option Setting :=
  (sources.file.find? flag.name).map fun value => flag.standard.reread value

/-- The effective value of an option. -/
def effective (sources : Sources) (flag : Flag) : Setting :=
  ((sources.fromFlags? flag).or ((sources.fromEnvironment? flag).or (sources.fromFile? flag))).getD
    flag.standard

/-- The effective value of the option of a name. -/
def setting (sources : Sources) (name : Bytes) : Setting :=
  match flagNamed? options name with
  | some flag => sources.effective flag
  | none => .text []

end Sources

/-! ## Reading command lines -/

/-- An answer that prints a text. -/
def Answer.printing (stdout : Bytes) : Answer := ⟨stdout, [], none⟩

/-- An answer that is an error. -/
def Answer.failing (message : Bytes) : Answer := ⟨[], [], some message⟩

/-- How an action reads as a task of the program, or what is answered. The scripts for shells, which print
themselves, are left out. -/
def Parsed.reading (parsed : Parsed) (values : Sources) : Action → Reading Sources
  | .compile =>
    .task (.compile parsed.words
      (((parsed.given.lookup (bytes "trace")).map Setting.toText).getD [])) values
  | .generate => .task (.generate parsed.words) values
  | .serve => .task .serve values
  | .listJobs => .task .listJobs values
  | .showJob => .task (.showJob (parsed.words.headD [])) values
  | .help => .own values (.printing (helpAbout parsed.words))
  | .completion => .own values (.printing [])

/-- What a shell is told about how a command line can go on. The flags of that command line are not
given. -/
def Completion.Request.reading (request : Completion.Request)
    (environment : List (Bytes × Bytes)) : Reading Sources :=
  if request.words.isEmpty then
    .answered (.failing (bytes "requires at least 1 arg(s), only received 0"))
  else
    let answer := Completion.answer request.words
    .own ⟨[], environment, []⟩ ⟨answer.text request.hasMeanings, answer.note, none⟩

/-- Read a command line. -/
def readWords (words : List Bytes) (environment : List (Bytes × Bytes)) : Reading Sources :=
  match Completion.request? words with
  | some request => request.reading environment
  | none =>
    match choose words with
    | .explain command => .answered (.printing command.explanation)
    | .perform action parsed => parsed.reading ⟨parsed.given, environment, []⟩ action
    | .unknown message => .answered (.failing message)
    | .badFlag message => .badFlag message
    | .badWords message => .badWords message

/-- The values with those of a configuration file. -/
def Sources.withFile (sources : Sources) (path : Bytes) (tree : Files.Tree) : Except Bytes Sources :=
  match Settings.readFile sources.environment path tree with
  | (.ok table, _) => .ok { sources with file := table }
  | (.error error, _) => .error error.text

/-- The library of these command lines. -/
@[reducible]
def standardLibrary : Library where
  Values := Sources
  read := readWords
  readConfig := Sources.withFile
  text sources option := (sources.setting option).toText
  texts sources option := (sources.setting option).toTexts
  int sources option := (sources.setting option).toInt
  switch sources option := (sources.setting option).isOn
  duration sources option := (sources.setting option).toDuration

end Command

end FunctionChain
