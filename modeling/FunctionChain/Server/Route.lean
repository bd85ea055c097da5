import FunctionChain.Server.Message

/-!
# Routes

Which operation a method and a path stand for. Every answer is counted under a *label* that says which
part of the table of routes the path led to, so that paths made up by clients do not add labels.

The operations of the API stand below `/api`; that path itself is one with and one without a slash at
its end, and they are told apart in the label only.
-/

namespace FunctionChain

namespace Server

/-- The operations of the server. -/
inductive Operation where
  | status
  | compile
  | metrics
deriving Repr, DecidableEq

/-- Where a method and a path lead to. -/
inductive Destination where
  | operation (operation : Operation) (label : Bytes)
  /-- The path is known and has other methods. -/
  | otherMethods (label : Bytes)
  /-- A path below `/api` that leads nowhere. -/
  | nowhereBelow (label : Bytes)
  /-- A method that no path has. -/
  | noMethod
  | nowhere
deriving Repr, DecidableEq

/-- The methods that some path may have. -/
def methods : List Bytes :=
  [bytes "CONNECT", bytes "DELETE", bytes "GET", bytes "HEAD", bytes "OPTIONS", bytes "PATCH",
    bytes "POST", bytes "PUT", bytes "TRACE"]

/-- The label of requests that lead nowhere. -/
def unmatchedLabel : Bytes := bytes "unmatched"

namespace Destination

/-- Where the root of the API leads to, under the label of its path. -/
def apiRoot (method label : Bytes) : Destination :=
  if method == bytes "GET" then .operation .status (label ++ bytes "/") else .otherMethods label

/-- Where a path below the API's root leads to. -/
def belowApi (method rest : Bytes) : Destination :=
  let label := bytes "/api/*"
  if rest == bytes "compile" then
    if method == bytes "POST" then .operation .compile (bytes "/api/compile") else .otherMethods label
  else .nowhereBelow label

/-- Where a method and a path lead to. -/
def find (method path : Bytes) : Destination :=
  if !methods.contains method then .noMethod
  else if path == bytes "/metrics" then .operation .metrics (bytes "/metrics")
  else if path == bytes "/api" then apiRoot method (bytes "/api")
  else if path == bytes "/api/" then apiRoot method (bytes "/api/")
  else match path.after? (bytes "/api/") with
    | some rest => belowApi method rest
    | none => .nowhere

/-- The label under which requests to a destination are counted. -/
def label : Destination → Bytes
  | .operation _ label | .otherMethods label | .nowhereBelow label => label
  | .noMethod | .nowhere => unmatchedLabel

end Destination

end Server

end FunctionChain
