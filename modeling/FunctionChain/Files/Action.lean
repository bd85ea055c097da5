import FunctionChain.Failure.Error
import FunctionChain.Files.Tree

/-!
# File operations

The operations of the system on a file tree. An operation gives a result or an error, and the tree
afterwards: some change the tree before they fail. Each names its call and its path in the error.

Writing a whole file is done in one step from an outside view: the content goes into a temporary
file beside the target, which then takes the target's name.
-/

namespace FunctionChain

namespace Files

/-- What is done to a file tree, with a result or an error. -/
abbrev Action := ExceptT Error (StateM Tree)

namespace Action

/-- Do it to a tree. -/
def on {α : Type} (action : Action α) (tree : Tree) : Except Error α × Tree := action tree

/-- Fail with a file fault. -/
def fail {α : Type} (call : Bytes) (paths : List Bytes) (reason : Reason) : Action α :=
  throw (.file ⟨call, paths, reason⟩)

/-- Put a message before an error. -/
def labelled {α : Type} (message : Bytes) (action : Action α) : Action α := fun tree =>
  match action tree with
  | (.error error, tree) => (.error (.wrap message error), tree)
  | (.ok result, tree) => (.ok result, tree)

/-- The error of an action that has no result to give, if it fails. -/
def attempt (action : Action Unit) : Action (Option Error) := fun tree =>
  match action tree with
  | (.error error, tree) => (.ok (some error), tree)
  | (.ok _, tree) => (.ok none, tree)

end Action

open FunctionChain.Files.Action (fail)

/-! ## Reading -/

/-- The content of a file. A directory can be opened, but not read. -/
def contents (path : Bytes) : Action Bytes := do
  match (← get).stat path with
  | .error reason => fail (bytes "open") [path] reason
  | .ok (.directory _) => fail (bytes "read") [path] .isDirectory
  | .ok (.file _ content) => return content

/-- What stands in a directory, by name. -/
def readDirectory (path : Bytes) : Action (List (Bytes × Node)) := do
  let tree ← get
  match tree.locate path with
  | .error reason => fail (bytes "open") [path] reason
  | .ok location =>
    match tree.get? location with
    | none => fail (bytes "open") [path] .notFound
    | some (.file ..) => fail (bytes "open") [path] .notDirectory
    | some (.directory _) => return tree.children location

/-! ## Directories -/

/-- Make one directory. -/
def makeDirectory (path : Bytes) (mode : Nat) : Action Unit := do
  let tree ← get
  match tree.locateName path with
  | .error reason => fail (bytes "mkdir") [path] reason
  | .ok location =>
    if tree.isTaken location then fail (bytes "mkdir") [path] .alreadyExists
    else set (tree.put location (.directory mode))

/-- Make a link. -/
def makeLink (target path : Bytes) : Action Unit := do
  let tree ← get
  match tree.locateName path with
  | .error reason => fail (bytes "symlink") [target, path] reason
  | .ok location =>
    if tree.isTaken location then fail (bytes "symlink") [target, path] .alreadyExists
    else set (tree.putLink location target)

/-- The path without its last name and the slashes around it, unless nothing is left. -/
def above? (path : Bytes) : Option Bytes :=
  let start := Path.throughLastSlash (Bytes.dropEndWhile path (· == Path.slash))
  if start.length > 1 then some start.dropLast else none

/-- Make a directory that is not there, after the directories that lead to it. `depth` bounds their
number. -/
def makeDirectoriesWithin (mode : Nat) : Nat → Bytes → Action Unit
  | 0, path => fail (bytes "mkdir") [path] .nameTooLong
  | depth + 1, path => do
    match (← get).stat path with
    | .ok (.directory _) => return
    | .ok (.file ..) => fail (bytes "mkdir") [path] .notDirectory
    | .error _ =>
      match above? path with
      | some parent => makeDirectoriesWithin mode depth parent
      | none => pure ()
      makeDirectory path mode

/-- Make a directory and those that lead to it, as far as they are not there. -/
def makeDirectories (path : Bytes) (mode : Nat) : Action Unit :=
  makeDirectoriesWithin mode (path.length + 1) path

/-! ## Writing -/

/-- Write a file, in place of its content if it is there. It then keeps its mode. -/
def writeFile (path content : Bytes) (mode : Nat) : Action Unit := do
  let tree ← get
  match tree.locate path with
  | .error reason => fail (bytes "open") [path] reason
  | .ok location =>
    match tree.get? location with
    | some (.directory _) => fail (bytes "open") [path] .isDirectory
    | some (.file old _) => set (tree.put location (.file old content))
    | none => set (tree.put location (.file mode content))

/-- A path in a directory. -/
def inside (directory name : Bytes) : Bytes :=
  if directory.getLast? == some Path.slash then directory ++ name
  else directory ++ Path.slash :: name

/-- A number such that the name with it between `start` and `ending` is not yet taken in the
directory. -/
def freshNumber (tree : Tree) (directory start ending : Bytes) : Nat :=
  let isFree (n : Nat) : Bool :=
    !tree.hasName (inside directory (start ++ Decimal.ofNat n ++ ending))
  (((List.range (tree.nodes.length + 1)).map (tree.fresh + ·)).find? isFree).getD tree.fresh

/-- A fresh path in a directory. The next one will be another. -/
def freshPath (directory start ending : Bytes) : Action Bytes := do
  let tree ← get
  let number := freshNumber tree directory start ending
  set { tree with fresh := number + 1 }
  return inside directory (start ++ Decimal.ofNat number ++ ending)

/-- Make a new file in a directory, under a name that starts so. Nothing that is there already is
opened. -/
def createTemporary (directory start : Bytes) : Action Bytes := do
  let path ← freshPath directory start []
  let tree ← get
  match tree.locateName path with
  | .error reason => fail (bytes "open") [path] reason
  | .ok location =>
    if tree.isTaken location then fail (bytes "open") [path] .alreadyExists
    else
      set (tree.put location (.file 0o600 []))
      return path

/-- Make a new directory in a directory. Its name is the pattern with a number at its last star, or
else at its end. -/
def makeTemporaryDirectory (directory pattern : Bytes) : Action Bytes := do
  if pattern.contains Path.slash then fail (bytes "mkdirtemp") [pattern] .patternHasSlash
  else
    let star := byte '*'
    let (start, ending) :=
      if pattern.contains star then
        ((pattern.reverse.dropWhile (· != star)).reverse.dropLast,
          (pattern.reverse.takeWhile (· != star)).reverse)
      else (pattern, [])
    let path ← freshPath directory start ending
    makeDirectory path 0o700
    return path

/-- Give a file another name. A directory of that name is not replaced. -/
def renameFile (source target : Bytes) : Action Unit := do
  let tree ← get
  match tree.locateName source, tree.locateName target with
  | .error reason, _ | _, .error reason => fail (bytes "rename") [source, target] reason
  | .ok old, .ok new =>
    match tree.get? old, tree.link? old, tree.get? new with
    | none, none, _ => fail (bytes "rename") [source, target] .notFound
    | _, _, some (.directory _) => fail (bytes "rename") [source, target] .alreadyExists
    | some node, _, _ => set ((tree.erase old).put new node)
    | none, some path, _ => set ((tree.erase old).putLink new path)

/-- Take away a file, if it is there. -/
def discard (path : Bytes) : Action Unit := do
  let tree ← get
  match tree.locateName path with
  | .error _ => return
  | .ok location => set (tree.erase location)

/-- Write a whole file by way of a temporary one beside it. Whatever goes wrong, no temporary file
is left. -/
def replaceFile (path content : Bytes) (mode : Nat) : Action Unit := do
  let temporary ← createTemporary (Path.parent path) (Path.base path ++ bytes ".tmp.")
  let tree ← get
  match tree.locate temporary with
  | .error reason => fail (bytes "open") [temporary] reason
  | .ok location =>
    set (tree.put location (.file mode content))
    tryCatch (renameFile temporary path) fun error => do
      discard temporary
      throw error

/-- Have the entries of a directory written out. It is opened for that, as a file could be too. -/
def syncDirectory (path : Bytes) : Action Unit := do
  match (← get).stat path with
  | .error reason => fail (bytes "open") [path] reason
  | .ok _ => return

/-! ## Removing -/

/-- Take away all that stands at a path. Nothing there is fine. -/
def removeAll (path : Bytes) : Action Unit := do
  let tree ← get
  match tree.locateName path with
  | .error .notFound => return
  | .error reason => fail (bytes "unlinkat") [path] reason
  | .ok location => set (tree.eraseAll location)

end Files

end FunctionChain
