import FunctionChain.Files.Fault
import FunctionChain.Text.Decimal

/-!
# Errors

An error is a tree: an error of the failure taxonomy may have a cause, a message may be put before an
error, and several errors may be joined. Classifying an error means looking for the first node of a
kind, the node itself before its causes, and the joined errors in order.

A node may also be *absent*: it has a kind but no contents. An absent node answers to its kind, has
an empty text, and cannot be asked for its cause: a search that would have to look behind one of the
kinds that have causes breaks off.
-/

namespace FunctionChain

/-- The kinds of error that others look for. -/
inductive ErrorKind where
  | parse
  | resolve
  | io
  | compile
  | runtime
  | invocation
  | admission
  | invalidJobId
deriving Repr, DecidableEq

/-- Whether errors of this kind have causes to ask for. -/
def ErrorKind.hasCause : ErrorKind → Bool
  | .parse | .io | .compile | .runtime | .admission => true
  | .resolve | .invocation | .invalidJobId => false

/-- An error and what caused it. -/
inductive Error where
  /-- A malformed document. -/
  | parse (code message : Bytes) (cause : Option Error)
  /-- A reference that cannot be resolved. -/
  | resolve (code call message : Bytes)
  /-- A workspace that cannot be made or written. -/
  | io (code message : Bytes) (cause : Option Error)
  /-- A compiler that failed, with its output. -/
  | compile (code message diagnostic : Bytes) (exitCode : Int) (cause : Option Error)
  /-- A compiled program that failed, with its error output. -/
  | runtime (code message diagnostic : Bytes) (exitCode : Int) (cause : Option Error)
  /-- A job that got no slot. -/
  | admission (cause : Option Error)
  /-- A command line or a configuration that cannot be used, with the exit code to leave with. -/
  | invocation (exitCode : Int) (message : Bytes)
  /-- A message before another error. -/
  | wrap (message : Bytes) (cause : Error)
  /-- Several errors, one per line. -/
  | joined (errors : List Error)
  /-- Several errors, separated by semicolons. -/
  | combined (errors : List Error)
  /-- A node of a kind without contents. -/
  | absent (kind : ErrorKind)
  /-- A job id that cannot name an archive directory. -/
  | invalidJobId (detail : Bytes)
  /-- A failed file operation. -/
  | file (fault : Files.Fault)
  /-- Any other error. -/
  | plain (message : Bytes)

namespace Error

/-- `label (code): message`, or `label: message` when there is no code. -/
def labelled (label code message : Bytes) : Bytes :=
  if code.isEmpty then label ++ bytes ": " ++ message
  else label ++ bytes " (" ++ code ++ bytes "): " ++ message

mutual

/-- The text of an error. -/
def text : Error → Bytes
  | .parse code message _ => labelled (bytes "parse error") code message
  | .resolve code call message =>
    if call.isEmpty then bytes "resolve error (" ++ code ++ bytes "): " ++ message
    else bytes "resolve error call=" ++ call ++ bytes " (" ++ code ++ bytes "): " ++ message
  | .io code message _ => labelled (bytes "io error") code message
  | .compile code message _ _ _ => labelled (bytes "compile error") code message
  | .runtime code message _ _ _ => labelled (bytes "runtime error") code message
  | .admission cause => bytes "job not admitted: " ++ causeText cause
  | .invocation _ message => message
  | .wrap message cause => message ++ bytes ": " ++ cause.text
  | .joined errors => Bytes.joined (bytes "\n") (texts errors)
  | .combined errors => Bytes.joined (bytes "; ") (texts errors)
  | .absent _ => []
  | .invalidJobId detail => bytes "invalid job id: " ++ detail
  | .file fault => fault.message
  | .plain message => message

/-- The text of a cause that may be missing. -/
def causeText : Option Error → Bytes
  | some cause => cause.text
  | none => bytes "<nil>"

/-- The texts of several errors. -/
def texts : List Error → List Bytes
  | [] => []
  | error :: rest => error.text :: texts rest

end

/-- The error directly behind this one. Joined errors have none. -/
def cause? : Error → Option Error
  | .parse _ _ cause | .io _ _ cause | .compile _ _ _ _ cause | .runtime _ _ _ _ cause
  | .admission cause => cause
  | .wrap _ cause => some cause
  | _ => none

/-- The kind that a node answers to. -/
def kind? : Error → Option ErrorKind
  | .parse .. => some .parse
  | .resolve .. => some .resolve
  | .io .. => some .io
  | .compile .. => some .compile
  | .runtime .. => some .runtime
  | .invocation .. => some .invocation
  | .admission .. => some .admission
  | .invalidJobId .. => some .invalidJobId
  | .absent kind => some kind
  | _ => none

/-- What a search through an error tree brings. -/
inductive Found where
  | node (error : Error)
  | nothing
  /-- The search had to look behind an absent node. -/
  | broken

/-- Go on with another search only when the first has brought nothing. -/
def Found.orElse (first : Found) (second : Found) : Found :=
  match first with
  | .nothing => second
  | _ => first

mutual

/-- The first node of a kind: the error itself, then what is behind it, depth first. -/
def find (kind : ErrorKind) (error : Error) : Found :=
  if error.kind? == some kind then .node error
  else match error with
    | .parse _ _ cause | .io _ _ cause | .compile _ _ _ _ cause | .runtime _ _ _ _ cause
    | .admission cause => findCause kind cause
    | .wrap _ cause => find kind cause
    | .joined errors | .combined errors => findAny kind errors
    | .absent other => if other.hasCause then .broken else .nothing
    | .resolve .. | .invocation .. | .invalidJobId .. | .file .. | .plain .. => .nothing

/-- The first node of a kind behind an error that may have a cause. -/
def findCause (kind : ErrorKind) : Option Error → Found
  | some cause => find kind cause
  | none => .nothing

/-- The first node of a kind in several errors. -/
def findAny (kind : ErrorKind) : List Error → Found
  | [] => .nothing
  | error :: rest => (find kind error).orElse (findAny kind rest)

end

/-- Whether an error of the kind occurs, absent ones included. -/
def has (error : Error) (kind : ErrorKind) : Bool :=
  match find kind error with
  | .node _ => true
  | _ => false

/-- Join the errors that there are, one per line. -/
def join? (errors : List Error) : Option Error :=
  if errors.isEmpty then none else some (.joined errors)

/-- A message before an error. If that is missing there is nothing to look behind, and the text says
so. -/
def before (message : Bytes) : Option Error → Error
  | some cause => .wrap message cause
  | none => .plain (message ++ bytes ": %!w(<nil>)")

/-- The errors that an error combines. -/
def parts : Error → List Error
  | .combined errors => errors
  | error => [error]

/-- Combine two errors of which either may be missing. Combined errors are not nested. -/
def combine? : Option Error → Option Error → Option Error
  | none, second => second
  | first, none => first
  | some first, some second => some (.combined (first.parts ++ second.parts))

/-- Whether the error comes from a file that does not exist. -/
def isNotFound : Error → Bool
  | .file fault => fault.reason == .notFound
  | .wrap _ cause => cause.isNotFound
  | _ => false

end Error

end FunctionChain
