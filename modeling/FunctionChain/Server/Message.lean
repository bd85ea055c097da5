import FunctionChain.Job.Service

/-!
# Requests and responses

What a client of the compile API sends and gets.
-/

namespace FunctionChain

namespace Server

/-- A request of a client. Its target is a path, with or without a query, or a whole address that leads
to one. -/
structure Request where
  method : Bytes
  target : Bytes
  body : Bytes
  /-- How long the client waits. -/
  patience : Job.Patience

namespace Target

/-- Whether a byte may stand in the name of a scheme after its first letter. -/
def isSchemeByte (b : UInt8) : Bool :=
  Bytes.isLower (Bytes.lowerByte b) || Bytes.isDigit b || (bytes "+-.").contains b

/-- What follows the scheme of a target, if it has one: letters and the like before a colon. -/
def afterScheme? (target : Bytes) : Option Bytes :=
  if !(target.head?.map (Bytes.isLower ∘ Bytes.lowerByte)).getD false then none
  else match target.dropWhile isSchemeByte with
    | b :: rest => if b == byte ':' then some rest else none
    | [] => none

/-- The text without the query after it. -/
def withoutQuery (text : Bytes) : Bytes := text.takeWhile (· != byte '?')

/-- The path behind a scheme: that after the name of the server, if there is one. -/
def pathOf (rest : Bytes) : Bytes :=
  match rest.after? (bytes "//") with
  | some named => named.dropWhile (· != byte '/')
  | none => if rest.head? == some (byte '/') then rest else []

/-- The path of a target. -/
def path (target : Bytes) : Bytes :=
  match afterScheme? target with
  | some rest => pathOf (withoutQuery rest)
  | none => withoutQuery target

end Target

/-- The method of a request: reading, unless another is given. -/
def Request.verb (request : Request) : Bytes :=
  if request.method.isEmpty then bytes "GET" else request.method

/-- The path of a request's target. The target of a connection is the name of a server, unless it is a
path. -/
def Request.path (request : Request) : Bytes :=
  if request.verb == bytes "CONNECT" && request.target.head? != some (byte '/') then
    Target.path (bytes "http://" ++ request.target)
  else Target.path request.target

/-- A response to a client. -/
structure Response where
  status : Nat
  /-- The type of the body, or nothing when none is declared. -/
  contentType : Bytes
  body : Bytes
deriving Repr, DecidableEq

/-- The type of JSON bodies. -/
def jsonType : Bytes := bytes "application/json; charset=utf-8"

/-- The type of messages. -/
def messageType : Bytes := bytes "text/plain; charset=utf-8"

/-- The type of listings of metrics. -/
def metricsType : Bytes := bytes "text/plain; version=0.0.4; charset=utf-8; escaping=values"

namespace Response

/-- A response whose body is a JSON value on a line. -/
def json (status : Nat) (value : Bytes) : Response := ⟨status, jsonType, value ++ bytes "\n"⟩

/-- The response to a request for something that is not there. -/
def notFound : Response := ⟨404, messageType, bytes "404 page not found\n"⟩

/-- The response to a method that a place does not have. -/
def methodNotAllowed (contentType : Bytes) : Response := ⟨405, contentType, []⟩

end Response

end Server

end FunctionChain
