import FunctionChain.Files.Tree
import FunctionChain.Time.Duration

/-!
# The library for command lines

A library reads the words of a command line, answers those that ask for help itself, and knows the
effective values of the options: the one given on the command line, else the one of the environment,
else the one of the configuration file, else the standard one. How it does so is not told here; this is
what the program asks of it, and what it is told.
-/

namespace FunctionChain

namespace Command

/-- What the program is to do. -/
inductive Task where
  /-- Compile the document that the words name, and write the trace to a path unless it is empty. -/
  | compile (words : List Bytes) (tracePath : Bytes)
  | generate (words : List Bytes)
  | serve
  | listJobs
  | showJob (id : Bytes)
deriving Repr, DecidableEq

/-- What the library says when it answers itself: what it prints, and an error if it ends with one. -/
structure Answer where
  stdout : Bytes
  stderr : Bytes
  error : Option Bytes
deriving Repr, DecidableEq

/-- What the library makes of a command line, where the options have certain values. -/
inductive Reading (Values : Type) where
  /-- The library answers before any command is prepared. -/
  | answered (answer : Answer)
  /-- A command of the library's own answers, after it has been prepared like all others. -/
  | own (values : Values) (answer : Answer)
  /-- A flag is not as it should be. -/
  | badFlag (message : Bytes)
  /-- A command of the program does not take such words. -/
  | badWords (message : Bytes)
  /-- A command of the program is to do its task. -/
  | task (task : Task) (values : Values)

/-- A library for command lines and configurations. -/
class Library where
  /-- The effective values of the options. -/
  Values : Type
  /-- Read the words of a command line, in an environment. -/
  read : (words : List Bytes) → (environment : List (Bytes × Bytes)) → Reading Values
  /-- The values with those of a configuration file, or the text of an error. -/
  readConfig : Values → (path : Bytes) → Files.Tree → Except Bytes Values
  /-- The text that an option has as its value, and likewise for other kinds of options. -/
  text : Values → (option : Bytes) → Bytes
  texts : Values → (option : Bytes) → List Bytes
  int : Values → (option : Bytes) → Int
  switch : Values → (option : Bytes) → Bool
  duration : Values → (option : Bytes) → Duration

end Command

end FunctionChain
