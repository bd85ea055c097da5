import FunctionChain.Build.Machine
import FunctionChain.Job.Service
import FunctionChain.Settings.Value
import FunctionChain.Text.Csv

/-!
# Flags

A flag of the command line has a name, a value that holds when nothing else is said, and a line of help.
The kind of that value is the kind of value that the flag takes. Most flags are *options*: they may also
be set from the environment and from a configuration file.
-/

namespace FunctionChain

namespace Command

/-- The value of a flag. -/
inductive Setting where
  | text (t : Bytes)
  | texts (list : List Bytes)
  | int (n : Int)
  | switch (isOn : Bool)
  | duration (d : Duration)
deriving Repr, DecidableEq

namespace Setting

/-- The word for the kind of value in help; switches have none. -/
def kindWord : Setting → Bytes
  | .text _ => bytes "string"
  | .texts _ => bytes "strings"
  | .int _ => bytes "int"
  | .switch _ => []
  | .duration _ => bytes "duration"

/-- The text of a value in help, unless it says nothing. -/
def shown? : Setting → Option Bytes
  | .text t => if t.isEmpty then none else some (Quoted.quote t)
  | .texts _ => none
  | .int n => if n == 0 then none else some (Decimal.ofInt n)
  | .switch isOn => if isOn then some (bytes "true") else none
  | .duration d => if d == 0 then none else some (Duration.text d)

/-- Whether a flag with such a value may stand without one. -/
def isSwitch : Setting → Bool
  | .switch _ => true
  | _ => false

/-- A value of the same kind from the environment or from a configuration file. -/
def reread (value : Settings.Value) : Setting → Setting
  | .text _ => .text value.toText
  | .texts _ => .texts value.toList
  | .int _ => .int value.toInt
  | .switch _ => .switch value.toBool
  | .duration _ => .duration value.toDuration

/-- A value of the same kind from the command line, or why there is none. A list takes up what was
given before. -/
def parse (given : Option Setting) (text : Bytes) : Setting → Except Bytes Setting
  | .text _ => .ok (.text text)
  | .texts _ =>
    match Csv.entries text with
    | .error problem => .error problem.message
    | .ok entries =>
      match given with
      | some (.texts before) => .ok (.texts (before ++ entries))
      | _ => .ok (.texts entries)
  | .int _ =>
    match Integer.read text with
    | .error problem => .error (problem.message text)
    | .ok n => .ok (.int n)
  | .switch _ =>
    match Truth.read? text with
    | none => .error (Truth.problemMessage text)
    | some isOn => .ok (.switch isOn)
  | .duration _ =>
    match Duration.read text with
    | .error problem => .error problem.message
    | .ok d => .ok (.duration d)

/-- The text of a value that is one. -/
def toText : Setting → Bytes
  | .text t => t
  | _ => []

/-- The texts of a value that is a list. -/
def toTexts : Setting → List Bytes
  | .texts list => list
  | _ => []

/-- The integer of a value that is one. -/
def toInt : Setting → Int
  | .int n => n
  | _ => 0

/-- Whether a value is a switch that is on. -/
def isOn : Setting → Bool
  | .switch isOn => isOn
  | _ => false

/-- The duration of a value that is one. -/
def toDuration : Setting → Duration
  | .duration d => d
  | _ => 0

end Setting

/-- A flag. -/
structure Flag where
  name : Bytes
  /-- The letter that also stands for it. -/
  letter : Option UInt8
  /-- The value when nothing else is said. -/
  standard : Setting
  help : Bytes
deriving Repr, DecidableEq

/-- A flag without a letter. -/
def Flag.named (name : String) (standard : Setting) (help : String) : Flag :=
  ⟨bytes name, none, standard, bytes help⟩

/-- The flag that asks for the help of a command. -/
def Flag.helpFor (name : Bytes) : Flag :=
  ⟨bytes "help", some (byte 'h'), .switch false, bytes "help for " ++ name⟩

/-- The options, which all commands share. -/
def options : List Flag :=
  [.named "config" (.text []) "path to a toml, yaml or json config file",
    .named "toolchain" (.text (bytes "g++")) "C++ compiler command",
    .named "opt-flag" (.text (bytes "-O2")) "optimization flag passed to the compiler",
    .named "include-dir" (.texts []) "header search directory passed as -I (repeatable)",
    .named "compile-arg" (.texts [])
      "extra compiler argument placed before the source file; runs in the job workspace, so use absolute paths (repeatable)",
    .named "link-arg" (.texts [])
      "extra argument placed after the output file, e.g. -lcrypto; use absolute paths (repeatable)",
    .named "workspace-root" (.text [])
      "directory holding job workspaces (default: system temp dir)",
    .named "keep-workspace" (.switch false) "keep job workspaces after the job ends",
    .named "compile-timeout" (.duration Build.defaultCompileTimeout)
      "maximum time for one compilation",
    .named "run-timeout" (.duration Build.defaultRunTimeout)
      "maximum time for one program execution",
    .named "run-env" (.texts [])
      "KEY=VALUE visible to the compiled program; nothing else is (repeatable)",
    .named "cache-dir" (.text [])
      "directory for cached artifacts (disabled when empty); keyed by include-dir paths, not contents, so set --library-version when the library is rebuilt",
    .named "cache-db" (.text [])
      "boltdb file for cached artifacts; excludes --cache-dir (same keying as --cache-dir)",
    .named "library-version" (.text [])
      "version of the primitive library build; part of the artifact cache key",
    .named "record-dir" (.text [])
      "directory where finished jobs are archived (disabled when empty)",
    .named "strict-references" (.switch false)
      "reject identifiers that no earlier call declares",
    .named "max-concurrent-jobs" (.int Job.defaultSlots)
      "maximum number of jobs running at once",
    .named "log-level" (.text (bytes "info"))
      "supported log levels are debug, info, warn, and error",
    .named "log-format" (.text (bytes "console")) "supported log formats are console and json",
    .named "http-bind-address" (.text (bytes ":8080")) "bind address for the HTTP API"]

end Command

end FunctionChain
