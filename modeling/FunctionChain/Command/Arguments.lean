import FunctionChain.Command.Flag

/-!
# Command lines

A command line is a list of words. A word that starts with a minus sign is a flag, unless it is just
that sign; flags and other words may be mixed, and after `--` everything is taken as it is. The value of
a flag stands behind an equals sign or is the next word; a switch is on when it has none.
-/

namespace FunctionChain

namespace Command

/-- What a command line says. -/
structure Parsed where
  /-- The flags that were given, by name. -/
  given : List (Bytes × Setting)
  /-- The words that are no flags. -/
  words : List Bytes
deriving Repr, DecidableEq

/-- Why a command line cannot be read. -/
inductive Misuse where
  | badForm (word : Bytes)
  | unknownFlag (name : Bytes)
  | unknownLetter (letter : UInt8) (letters : Bytes)
  | noValue (word : Bytes)
  | badValue (flag : Flag) (text reason : Bytes)
deriving Repr, DecidableEq

/-- The name of a flag in messages. -/
def Flag.title (flag : Flag) : Bytes :=
  match flag.letter with
  | some letter => byte '-' :: letter :: bytes ", --" ++ flag.name
  | none => bytes "--" ++ flag.name

/-- The message about a command line that cannot be read. -/
def Misuse.message : Misuse → Bytes
  | .badForm word => bytes "bad flag syntax: " ++ word
  | .unknownFlag name => bytes "unknown flag: --" ++ name
  | .unknownLetter letter letters =>
    bytes "unknown shorthand flag: " ++ Quoted.quoteByte letter ++ bytes " in -" ++ letters
  | .noValue word => bytes "flag needs an argument: " ++ word
  | .badValue flag text reason =>
    bytes "invalid argument " ++ Quoted.quote text ++ bytes " for " ++ Quoted.quote flag.title
      ++ bytes " flag: " ++ reason

/-- The flag of a name. -/
def flagNamed? (flags : List Flag) (name : Bytes) : Option Flag := flags.find? (·.name == name)

/-- Take up the value of a flag. -/
def Parsed.set (parsed : Parsed) (flag : Flag) (text : Bytes) : Except Misuse Parsed :=
  match flag.standard.parse (parsed.given.lookup flag.name) text with
  | .error reason => .error (.badValue flag text reason)
  | .ok setting =>
    .ok { parsed with
      given := (flag.name, setting) :: parsed.given.filter fun (name, _) => name != flag.name }

/-- The value for a switch that has none. -/
def onText : Bytes := bytes "true"

/-- Read the letters of a word with one minus sign. All flags with a letter are switches. -/
def parseLetters (flags : List Flag) : Parsed → Bytes → Except Misuse Parsed
  | parsed, [] => .ok parsed
  | parsed, letter :: rest =>
    match flags.find? (·.letter == some letter) with
    | none => .error (.unknownLetter letter (letter :: rest))
    | some flag =>
      match rest with
      | b :: c :: more =>
        if b == byte '=' then parsed.set flag (c :: more)
        else
          match parsed.set flag onText with
          | .error misuse => .error misuse
          | .ok parsed => parseLetters flags parsed (b :: c :: more)
      | rest =>
        match parsed.set flag onText with
        | .error misuse => .error misuse
        | .ok parsed => parseLetters flags parsed rest

/-- Whether a word is a flag. -/
def isFlag : Bytes → Bool
  | a :: _ :: _ => a == byte '-'
  | _ => false

/-- The name of a long flag without the minus signs, and what stands behind the equals sign. -/
def nameAndValue (word : Bytes) : Bytes × Option Bytes :=
  match Bytes.cut? (word.drop 2) (byte '=') with
  | some (name, value) => (name, some value)
  | none => (word.drop 2, none)

/-- Whether the name of a long flag is malformed. -/
def isMalformed (word : Bytes) : Bool :=
  match word.drop 2 with
  | b :: _ => b == byte '-' || b == byte '='
  | [] => true

/-- Read a command line, with what was said before. -/
def parseFrom (flags : List Flag) : Parsed → List Bytes → Except Misuse Parsed
  | parsed, [] => .ok parsed
  | parsed, word :: rest =>
    if !isFlag word then parseFrom flags { parsed with words := parsed.words ++ [word] } rest
    else if word == bytes "--" then .ok { parsed with words := parsed.words ++ rest }
    else if !word.startsWith (bytes "--") then
      match parseLetters flags parsed (word.drop 1) with
      | .error misuse => .error misuse
      | .ok parsed => parseFrom flags parsed rest
    else if isMalformed word then .error (.badForm word)
    else
      let (name, value?) := nameAndValue word
      match flagNamed? flags name with
      | none => .error (.unknownFlag name)
      | some flag =>
        match value?.or (if flag.standard.isSwitch then some onText else none) with
        | some text =>
          match parsed.set flag text with
          | .error misuse => .error misuse
          | .ok parsed => parseFrom flags parsed rest
        | none =>
          match rest with
          | [] => .error (.noValue word)
          | text :: rest =>
            match parsed.set flag text with
            | .error misuse => .error misuse
            | .ok parsed => parseFrom flags parsed rest

/-- Read a command line. -/
def parseWords (flags : List Flag) (words : List Bytes) : Except Misuse Parsed :=
  parseFrom flags ⟨[], []⟩ words

end Command

end FunctionChain
