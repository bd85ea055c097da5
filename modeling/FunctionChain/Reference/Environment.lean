import FunctionChain.Association
import FunctionChain.Text.Bytes

/-!
# Environments

The names bound so far, in the order of their first declaration. A name may be declared again: the
latest declaration wins, and the name keeps its place.
-/

namespace FunctionChain

/-- The names bound so far: a map from names to the positions of the calls that bind them now, the
names in the order of their first declaration, and how many declarations replaced a position. -/
structure Environment where
  index : List (Bytes × Int)
  order : List Bytes
  rebinds : Nat
deriving Repr, DecidableEq

namespace Environment

/-- The environment without names. -/
def empty : Environment := ⟨[], [], 0⟩

/-- The position that a name is bound to. -/
def binding? (env : Environment) (name : Bytes) : Option Int := env.index.lookup name

/-- Whether a name is bound. -/
def declared (env : Environment) (name : Bytes) : Bool := (env.index.lookup name).isSome

/-- Bind a name to the call at a position. The flag says whether the name was bound already. -/
def declare (env : Environment) (name : Bytes) (position : Int) : Bool × Environment :=
  let index := Association.assign env.index name position
  if (env.index.lookup name).isSome then (true, { env with index, rebinds := env.rebinds + 1 })
  else (false, { env with index, order := env.order ++ [name] })

/-- The bound names in the order of their first declaration. -/
def names (env : Environment) : List Bytes := env.order

/-- How many names are bound. -/
def size (env : Environment) : Nat := env.order.length

end Environment

end FunctionChain
