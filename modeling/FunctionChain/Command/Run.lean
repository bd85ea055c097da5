import FunctionChain.Command.Inspect
import FunctionChain.Command.Work

/-!
# The command line

One invocation of the program from its words to its end.
-/

namespace FunctionChain

namespace Command

variable [Build.DatabaseLibrary] [Library]

open Doing

/-- Do a task, under a configuration. From here on a command has run. -/
def perform (invocation : Invocation) (configuration : Configuration) (task : Task) :
    Doing Unit := do
  modify fun session => { session with hasRun := true }
  match task with
  | .compile words tracePath => compile invocation configuration words tracePath
  | .generate words => generate invocation configuration words
  | .serve => serve invocation configuration
  | .listJobs => listJobs invocation configuration
  | .showJob id => showJob invocation configuration id

/-- Give the answer of the library. -/
def give (answer : Answer) : Doing Unit := do
  print answer.stdout
  complain answer.stderr
  if let some message := answer.error then throw (.plain message)

/-- Carry out an invocation. -/
def carryOut (invocation : Invocation) : Doing Unit :=
  match Library.read invocation.words invocation.environment with
  | .answered answer => give answer
  | .badFlag message | .badWords message => throw (misuse message)
  | .own values answer => do
    let _ ← onFiles (Configuration.load values)
    give answer
  | .task task values => do
    let configuration ← onFiles (Configuration.load values)
    perform invocation configuration task

/-- Run the program. -/
def run (invocation : Invocation) (tree : Files.Tree) : Ended × Files.Tree :=
  let (result, session) := carryOut invocation (.start tree)
  (session.ended result, session.tree)

end Command

end FunctionChain
