import FunctionChain.Text.Bytes

/-!
# Stages of a build

A build goes from a generated program to a written, compiled and executed one, and ends in success;
from every stage that is not final it may fail instead. Stages are known by name: a name that is
none of these has no move but to failure.
-/

namespace FunctionChain

namespace Build

/-- The stages of a build. -/
inductive Stage where
  | generated
  | written
  | compiled
  | executed
  | succeeded
  | failed
deriving Repr, DecidableEq

/-- The name of a stage in traces. -/
def Stage.name : Stage → Bytes
  | .generated => bytes "GENERATED"
  | .written => bytes "WRITTEN"
  | .compiled => bytes "COMPILED"
  | .executed => bytes "EXECUTED"
  | .succeeded => bytes "SUCCEEDED"
  | .failed => bytes "FAILED"

/-- All stages, in order. -/
def Stage.all : List Stage := [.generated, .written, .compiled, .executed, .succeeded, .failed]

/-- The stage of a name. -/
def Stage.ofName? (name : Bytes) : Option Stage := Stage.all.find? (·.name == name)

/-- Whether a build ends with the stage. -/
def Stage.isFinal : Stage → Bool
  | .succeeded | .failed => true
  | _ => false

/-- The stage that follows when all goes well. -/
def Stage.next? : Stage → Option Stage
  | .generated => some .written
  | .written => some .compiled
  | .compiled => some .executed
  | .executed => some .succeeded
  | .succeeded | .failed => none

/-- Whether the name is that of a final stage. -/
def isFinalName (name : Bytes) : Bool := (Stage.ofName? name).any Stage.isFinal

/-- Whether a build may move between the named stages. -/
def isAllowed (source target : Bytes) : Bool :=
  if target == Stage.name .failed then !isFinalName source
  else match (Stage.ofName? source).bind Stage.next? with
    | some next => next.name == target
    | none => false

/-- Why a move was refused. -/
inductive MoveError where
  /-- The caller believed in another stage than the current one. -/
  | mismatch (believed current : Bytes)
  | disallowed (source target : Bytes)
deriving Repr, DecidableEq

/-- The message of a refused move. -/
def MoveError.message : MoveError → Bytes
  | .mismatch believed current =>
    bytes "invalid transition: expected " ++ believed ++ bytes ", got " ++ current
  | .disallowed source target =>
    bytes "disallowed transition: " ++ source ++ bytes " -> " ++ target

/-- Move from the current stage to a target. The caller names the stage it believes in; a refused
move leaves the stage as it is. -/
def move (current believed target : Bytes) : Except MoveError Bytes :=
  if current != believed then .error (.mismatch believed current)
  else if !isAllowed believed target then .error (.disallowed believed target)
  else .ok target

end Build

end FunctionChain
