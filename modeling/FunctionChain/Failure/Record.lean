import FunctionChain.Failure.Error
import FunctionChain.Json.Written
import FunctionChain.Text.Blank
import FunctionChain.Text.Quoted

/-!
# Failure records

The structured form of a job failure, as it is shown to callers and kept in the archive. An error is
classified by the first class of the taxonomy that occurs anywhere in it, in a fixed order of
priority; everything outside the taxonomy is internal.
-/

namespace FunctionChain

namespace Failure

/-- The classes of failure. -/
inductive Class where
  | parse
  | resolve
  | io
  | compile
  | runtime
  | internal
deriving Repr, DecidableEq

/-- The name of a class in records. -/
def Class.name : Class → Bytes
  | .parse => bytes "parse"
  | .resolve => bytes "resolve"
  | .io => bytes "io"
  | .compile => bytes "compile"
  | .runtime => bytes "runtime"
  | .internal => bytes "internal"

/-- All classes. -/
def Class.all : List Class := [.parse, .resolve, .io, .compile, .runtime, .internal]

/-- The class of a name. -/
def Class.ofName? (name : Bytes) : Option Class := Class.all.find? (·.name == name)

/-- A failure as it is written down. The class is kept by name because a record that is read back
may name any. -/
structure Record where
  className : Bytes
  code : Bytes
  message : Bytes
  diagnostic : Bytes
  exitCode : Option Int
deriving Repr, DecidableEq

/-- The record without contents. -/
def Record.blank : Record := ⟨[], [], [], [], none⟩

namespace Record

/-- What is wrong with a record, in the order in which it is reported. -/
def problems (record : Record) : List Bytes :=
  (if (Class.ofName? record.className).isSome then []
    else [bytes "invalid class " ++ Quoted.quote record.className])
  ++ (if Blank.isAllBlank record.code then [bytes "code is required"] else [])
  ++ (if Blank.isAllBlank record.message then [bytes "message is required"] else [])

/-- The error of a record that must not be kept. -/
def invalid? (record : Record) : Option Error :=
  Error.join? (record.problems.map .plain)

/-- The text to present: the diagnostic when there is one, the message otherwise. -/
def text (record : Record) : Bytes :=
  if Blank.isAllBlank record.diagnostic then record.message else record.diagnostic

/-- The members of a record in the order in which they are written. A diagnostic that is empty and
an exit code that is missing are left out. -/
def fields (record : Record) : List Json.Field :=
  [(bytes "class", Json.ofText record.className),
    (bytes "code", Json.ofText record.code),
    (bytes "message", Json.ofText record.message)]
  ++ (if record.diagnostic.isEmpty then []
    else [(bytes "diagnostic", Json.ofText record.diagnostic)])
  ++ (match record.exitCode with
    | some code => [(bytes "exit_code", Decimal.ofInt code)]
    | none => [])

/-- The record as JSON without white space. -/
def toJson (record : Record) : Bytes := Json.compactRecord record.fields

end Record

/-! ## Codes -/

namespace Code

def malformedDocument : Bytes := bytes "MalformedDocument"
def schemaViolation : Bytes := bytes "SchemaViolation"
def undefinedReference : Bytes := bytes "UndefinedReference"
def workspaceCreate : Bytes := bytes "WorkspaceCreate"
def workspaceWrite : Bytes := bytes "WorkspaceWrite"
def nonZeroExit : Bytes := bytes "NonZeroExit"
def toolchainUnavailable : Bytes := bytes "ToolchainUnavailable"
def artifactUnavailable : Bytes := bytes "ArtifactUnavailable"
def timeout : Bytes := bytes "Timeout"
def cancelled : Bytes := bytes "Cancelled"
def crash : Bytes := bytes "Panic"
def unknown : Bytes := bytes "UnknownError"

end Code

/-! ## Classification -/

/-- The first text unless it is empty. -/
def orDefault (text fallback : Bytes) : Bytes := if text.isEmpty then fallback else text

/-- The exit code belongs to the record only when the process ran and left it. -/
def recordedExit (code : Bytes) (exitCode : Int) : Option Int :=
  if code.isEmpty || code == Code.nonZeroExit then some exitCode else none

/-- The record of a node that is of a class itself. -/
def ofNode? (error : Error) : Option Record :=
  let message (given : Bytes) : Bytes := orDefault given error.text
  match error with
  | .parse code text _ =>
    some ⟨Class.name .parse, orDefault code Code.malformedDocument, message text, [], none⟩
  | .resolve code _ text =>
    some ⟨Class.name .resolve, orDefault code Code.undefinedReference, message text, [], none⟩
  | .io code text _ =>
    some ⟨Class.name .io, orDefault code Code.workspaceWrite, message text, [], none⟩
  | .compile code text diagnostic exitCode _ =>
    some ⟨Class.name .compile, orDefault code Code.nonZeroExit, message text, diagnostic,
      recordedExit code exitCode⟩
  | .runtime code text diagnostic exitCode _ =>
    some ⟨Class.name .runtime, orDefault code Code.nonZeroExit, message text, diagnostic,
      recordedExit code exitCode⟩
  | _ => none

/-- The record of an error outside the taxonomy. -/
def internalRecord (error : Error) : Record :=
  ⟨Class.name .internal, Code.unknown, error.text, [], none⟩

/-- The kinds that decide the class, the most important first. -/
def priority : List ErrorKind := [.parse, .resolve, .io, .compile, .runtime]

/-- The record of an error by the first of the kinds that occurs in it. An absent node hides the
others of its kind, and the search goes on with the next kind. -/
def classifyBy (error : Error) : List ErrorKind → Option Record
  | [] => some (internalRecord error)
  | kind :: rest =>
    match error.find kind with
    | .broken => none
    | .nothing => classifyBy error rest
    | .node node =>
      match ofNode? node with
      | some record => some record
      | none => classifyBy error rest

/-- The record of an error, or `none` when an absent node makes the search break off. -/
def classify (error : Error) : Option Record := classifyBy error priority

end Failure

end FunctionChain
