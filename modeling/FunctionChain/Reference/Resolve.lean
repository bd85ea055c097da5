import FunctionChain.Document.Call
import FunctionChain.Failure.Record
import FunctionChain.Program.Source
import FunctionChain.Reference.Environment

/-!
# Resolving references

Calls are taken in order, and the arguments of each by their keys in bytewise order. Under the
strict policy an identifier must be the name of an earlier call; otherwise it may also name a symbol
of the primitive library and is passed through.
-/

namespace FunctionChain

/-- What to do with identifiers that no earlier call binds. -/
inductive ReferencePolicy where
  | passThrough
  | strict
  /-- A policy without a name, which passes identifiers through. -/
  | other (number : Int)
deriving Repr, DecidableEq

namespace ReferencePolicy

/-- The policy of a number. -/
def ofInt (number : Int) : ReferencePolicy :=
  if number == 0 then .passThrough else if number == 1 then .strict else .other number

/-- The name of a policy. -/
def name : ReferencePolicy → Bytes
  | .passThrough => bytes "pass-through"
  | .strict => bytes "strict"
  | .other number => bytes "ReferencePolicy(" ++ Decimal.ofInt number ++ bytes ")"

end ReferencePolicy

namespace Reference

/-- A reference to a name that no earlier call binds. -/
structure Undefined where
  call : Bytes
  index : Nat
  key : Bytes
  token : Bytes
deriving Repr, DecidableEq

/-- The error of an undefined reference. -/
def Undefined.toError (undefined : Undefined) : Error :=
  .resolve Failure.Code.undefinedReference undefined.call
    (bytes "parameter " ++ Quoted.quote undefined.key ++ bytes " of call "
      ++ Decimal.ofNat undefined.index ++ bytes " references " ++ Quoted.quote undefined.token
      ++ bytes " before it is bound")

/-- The parameters of a call by their keys. -/
def orderedParameters (call : Call) : List (Bytes × Bytes) :=
  (call.parameters.getD []).mergeSort fun a b => Bytes.atMost a.1 b.1

/-- A parameter as an argument. -/
def toArgument (parameter : Bytes × Bytes) : Argument :=
  ⟨parameter.1, parameter.2, Token.classify parameter.2⟩

/-- Whether the policy refuses an argument in an environment. -/
def isRefused (policy : ReferencePolicy) (env : Environment) (argument : Argument) : Bool :=
  policy == .strict && argument.kind == .identifier && !env.declared argument.token

/-- Resolve the calls from a position on, in the environment of those before it. `done` holds the
resolved calls in reverse. -/
def resolveFrom (policy : ReferencePolicy) (index : Nat) (env : Environment)
    (done : List ResolvedCall) : List Call → Except Undefined (List ResolvedCall × Environment)
  | [] => .ok (done.reverse, env)
  | call :: rest =>
    let arguments := (orderedParameters call).map toArgument
    match arguments.find? (isRefused policy env) with
    | some argument => .error ⟨call.name, index, argument.key, argument.token⟩
    | none =>
      resolveFrom policy (index + 1) (env.declare call.name index).2
        (⟨call.name, call.function, arguments⟩ :: done) rest

/-- Resolve a graph: one resolved call per call, in order, and the environment they build. A graph
that is missing gives no calls. -/
def resolve (policy : ReferencePolicy) :
    Option Graph → Except Undefined (List ResolvedCall × Environment)
  | none => .ok ([], .empty)
  | some graph => resolveFrom policy 0 .empty [] graph.calls

end Reference

end FunctionChain
