import FunctionChain.Text.Bytes

/-!
# Calls and graphs

A document describes a chain of calls. Each call binds its name to the result of a function applied
to parameters; a parameter's key says nothing but where the argument stands.
-/

namespace FunctionChain

/-- A call as a document gives it. Parameters that were not given are told apart from an empty set
of parameters. No key occurs twice. -/
structure Call where
  name : Bytes
  function : Bytes
  parameters : Option (List (Bytes × Bytes))
deriving Repr, DecidableEq

/-- The calls of one document, in order. -/
structure Graph where
  calls : List Call
deriving Repr, DecidableEq

namespace Graph

/-- The number of calls. -/
def size (graph : Graph) : Nat := graph.calls.length

/-- The last call, whose result is the program's. -/
def last? (graph : Graph) : Option Call := graph.calls.getLast?

end Graph

end FunctionChain
