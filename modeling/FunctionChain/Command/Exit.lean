import FunctionChain.Job.Result

/-!
# Exit codes

The codes with which an invocation ends, the code that an error stands for, and the code for the result of
a job.
-/

namespace FunctionChain

namespace Command

namespace Exit

def success : Int := 0
def jobFailure : Int := 1
def invalidInvocation : Int := 2
def configError : Int := 3
def internalError : Int := 4

/-- The code that an error asks for, if it is one of the command line or the configuration. -/
def asked? (error : Error) : Option Int :=
  match error.find .invocation with
  | .node (.invocation code _) => some code
  | _ => none

/-- The exit code of an invocation's error: its own when it is one of the command line or the
configuration, and the code for internal errors otherwise. -/
def ofError : Option Error → Int
  | none => success
  | some error =>
    match asked? error with
    | some code => if code == 0 then invalidInvocation else code
    | none => internalError

/-- The exit code for the result of a job. -/
def ofResult (result : Job.Result) : Int :=
  if result.isOk then success
  else if result.failure.any fun record => record.className == Failure.Class.internal.name then
    internalError
  else jobFailure

end Exit

end Command

end FunctionChain
