import FunctionChain.Document.Call
import FunctionChain.Document.Overflow
import FunctionChain.Document.Wire
import FunctionChain.Failure.Record
import FunctionChain.Files.Action
import FunctionChain.Json.Scan

/-!
# Loading documents

A document is a single JSON object, with nothing but white space around it. Its `functions` member
lists the calls; members that mean nothing here are skipped. A text that is no such object is
malformed, and one whose members have the wrong types, or lack a name or a function, violates the
schema.
-/

namespace FunctionChain

namespace Document

/-- Why a document cannot be loaded. -/
inductive Problem where
  | empty
  | truncated
  | fault (fault : Json.Fault)
  /-- A second value follows the first. -/
  | trailingValue
  /-- A number out of range follows the first value. -/
  | trailingOverflow (literal : Bytes)
  | notObject
  | finding (finding : Json.Finding)
  | noName (index : Nat)
  | noFunction (index : Nat)
  | nullParameter (index : Nat) (key : Bytes)
deriving Repr, DecidableEq

/-- Whether the text is no document at all, as against one with the wrong contents. -/
def Problem.isMalformed : Problem → Bool
  | .empty | .truncated | .fault _ | .trailingValue | .trailingOverflow _ | .notObject => true
  | .finding _ | .noName _ | .noFunction _ | .nullParameter .. => false

/-- The code of a problem. -/
def Problem.code (problem : Problem) : Bytes :=
  if problem.isMalformed then Failure.Code.malformedDocument else Failure.Code.schemaViolation

/-- The place of a call in messages. -/
def callPlace (index : Nat) : Bytes := bytes "functions[" ++ Decimal.ofNat index ++ bytes "]"

/-- The message of a problem. -/
def Problem.message : Problem → Bytes
  | .empty => bytes "empty document"
  | .truncated => bytes "unexpected EOF"
  | .fault found => found.message
  | .trailingValue => bytes "trailing data after document"
  | .trailingOverflow literal =>
    Json.Finding.message (.mismatch (bytes "number " ++ literal) none (bytes "float64"))
  | .notObject => bytes "document must be a JSON object"
  | .finding found => found.message
  | .noName index => callPlace index ++ bytes ".name is required"
  | .noFunction index => callPlace index ++ bytes ".function is required"
  | .nullParameter index key =>
    callPlace index ++ bytes ".parameters." ++ key ++ bytes " must be a string, not null"

/-- Whether the problem was found by the JSON reader, whose own error is then the cause. -/
def Problem.hasCause : Problem → Bool
  | .empty | .truncated | .fault _ | .trailingOverflow _ | .finding _ => true
  | .trailingValue | .notObject | .noName _ | .noFunction _ | .nullParameter .. => false

/-- The error of a problem. -/
def Problem.toError (problem : Problem) : Error :=
  .parse problem.code problem.message
    (if problem.hasCause then
      some (.plain (if problem == .empty then bytes "EOF" else problem.message))
    else none)

/-- The texts of parameters none of which is `null`, or the first key whose value is. -/
def parameterTexts : List (Bytes × Option Bytes) → Except Bytes (List (Bytes × Bytes))
  | [] => .ok []
  | (key, none) :: _ => .error key
  | (key, some value) :: rest =>
    match parameterTexts rest with
    | .ok texts => .ok ((key, value) :: texts)
    | .error key => .error key

/-- One call, which must have a name, a function and texts as parameters. -/
def checkCall (index : Nat) (call : WireCall) : Except Problem Call :=
  if call.name.isEmpty then .error (.noName index)
  else if call.function.isEmpty then .error (.noFunction index)
  else match call.parameters with
    | none => .ok ⟨call.name, call.function, none⟩
    | some parameters =>
      match parameterTexts parameters with
      | .ok texts => .ok ⟨call.name, call.function, some texts⟩
      | .error key => .error (.nullParameter index key)

/-- All calls, or the problem of the first that has one. `done` holds those before in reverse. -/
def checkCalls (index : Nat) (done : List Call) : List WireCall → Except Problem (List Call)
  | [] => .ok done.reverse
  | call :: rest =>
    match checkCall index call with
    | .ok call => checkCalls (index + 1) (call :: done) rest
    | .error problem => .error problem

/-- The only value of a text, or why it has none. -/
def onlyValue (text : Bytes) : Except Problem Json :=
  match Json.scan text with
  | .blank => .error .empty
  | .truncated => .error .truncated
  | .fault fault => .error (.fault fault)
  | .value value rest =>
    match Json.scan rest with
    | .blank => .ok value
    | .truncated => .error .truncated
    | .fault fault => .error (.fault fault)
    | .value trailing _ =>
      match Json.firstOverflow? trailing with
      | some literal => .error (.trailingOverflow literal)
      | none => .error .trailingValue

/-- The graph of a document, or why there is none. -/
def read (text : Bytes) : Except Problem Graph :=
  match onlyValue text with
  | .error problem => .error problem
  | .ok (.object members) =>
    match readMembers members with
    | ⟨_, some finding⟩ => .error (.finding finding)
    | ⟨calls, none⟩ =>
      match checkCalls 0 [] calls.current with
      | .ok calls => .ok ⟨calls⟩
      | .error problem => .error problem
  | .ok _ => .error .notObject

/-- The graph of a document, or the error to report. -/
def load (text : Bytes) : Except Error Graph := (read text).mapError Problem.toError

/-- The graph of the document in a file. A file that cannot be read is no malformed document. -/
def loadFile (path : Bytes) : Files.Action Graph := do
  let text ← (Files.contents path).labelled (bytes "read document")
  match load text with
  | .ok graph => return graph
  | .error error => throw error

end Document

end FunctionChain
