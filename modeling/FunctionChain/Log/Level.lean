import FunctionChain.Text.LetterCase

/-!
# Log levels

The levels of log entries, from the chattiest to the gravest, and the names by which a level is
chosen.
-/

namespace FunctionChain

namespace Log

/-- The levels of log entries. -/
inductive Level where
  | debug
  | info
  | warn
  | error
  | dpanic
  | panic
  | fatal
deriving Repr, DecidableEq

/-- All levels, in order. -/
def Level.all : List Level := [.debug, .info, .warn, .error, .dpanic, .panic, .fatal]

/-- The name of a level. -/
def Level.name : Level → Bytes
  | .debug => bytes "debug"
  | .info => bytes "info"
  | .warn => bytes "warn"
  | .error => bytes "error"
  | .dpanic => bytes "dpanic"
  | .panic => bytes "panic"
  | .fatal => bytes "fatal"

/-- The rank of a level: entries below the chosen rank are not written. -/
def Level.rank : Level → Int
  | .debug => -1
  | .info => 0
  | .warn => 1
  | .error => 2
  | .dpanic => 3
  | .panic => 4
  | .fatal => 5

/-- The level that a name in any letter case stands for. No name stands for `info`. -/
def Level.ofName? (name : Bytes) : Option Level :=
  if name.isEmpty then some .info
  else Level.all.find? fun level => LetterCase.isInAnyCase name level.name

/-- The message for a name that no level has. -/
def Level.unknownMessage : Bytes :=
  bytes "unknown log level; supported levels are debug, info, warn, and error"

end Log

end FunctionChain
