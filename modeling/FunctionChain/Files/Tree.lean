import FunctionChain.Files.Fault
import FunctionChain.Files.Path
import FunctionChain.Text.Decimal

/-!
# File trees

A file tree as a value: what stands at each location, and the directory in which relative paths are
read. The tree is kept as one flat listing, so that looking up a location, putting something there
and taking it away are each one line, and a tree that differs from another at one location is easily
told.

Paths are resolved name by name, as the system does it: every name but the last must lead to a
directory that is there. A link stands for another path, read in the directory of the link. Nothing here
is about rights.
-/

namespace FunctionChain

namespace Files

/-- A place in a tree: the names from the root down to it. -/
abbrev Location := List Bytes

/-- What stands at a place. Modes are the nine permission bits. -/
inductive Node where
  | directory (mode : Nat)
  | file (mode : Nat) (content : Bytes)
deriving Repr, DecidableEq

/-- Whether it is a directory. -/
def Node.isDirectory : Node → Bool
  | .directory _ => true
  | .file .. => false

/-- Whether it is a file with a right to execute it. -/
def Node.isProgram : Node → Bool
  | .directory _ => false
  | .file mode _ => mode &&& 0o111 != 0

/-- A file tree. -/
structure Tree where
  /-- The directory in which relative paths are read. -/
  here : Location
  /-- All files and directories below the root, each location at most once. -/
  nodes : List (Location × Node)
  /-- The links and the paths that they stand for, at other locations. -/
  links : List (Location × Bytes)
  /-- The number from which names for temporary files are taken. -/
  fresh : Nat
deriving Repr

namespace Tree

/-- The tree with nothing in it. -/
def empty : Tree := ⟨[], [], [], 1000000007⟩

/-! ## Locations -/

/-- The file or directory at a location. The root is always a directory. -/
def get? (tree : Tree) (location : Location) : Option Node :=
  if location.isEmpty then some (.directory 0o755) else tree.nodes.lookup location

/-- The path that a link at a location stands for. -/
def link? (tree : Tree) (location : Location) : Option Bytes := tree.links.lookup location

/-- Whether anything stands at a location. -/
def isTaken (tree : Tree) (location : Location) : Bool :=
  (tree.get? location).isSome || (tree.link? location).isSome

/-- Take away what stands at the locations of a class. -/
def without (tree : Tree) (isOne : Location → Bool) : Tree :=
  { tree with
    nodes := tree.nodes.filter fun (location, _) => !isOne location
    links := tree.links.filter fun (location, _) => !isOne location }

/-- Take away what stands at a location. -/
def erase (tree : Tree) (location : Location) : Tree := tree.without (· == location)

/-- Take away what stands at a location and all below it. -/
def eraseAll (tree : Tree) (location : Location) : Tree := tree.without location.isPrefixOf

/-- Put a file or a directory at a location, in place of what was there. -/
def put (tree : Tree) (location : Location) (node : Node) : Tree :=
  let tree := tree.erase location
  { tree with nodes := (location, node) :: tree.nodes }

/-- Put a link at a location, in place of what was there. -/
def putLink (tree : Tree) (location : Location) (target : Bytes) : Tree :=
  let tree := tree.erase location
  { tree with links := (location, target) :: tree.links }

/-- The names of what stands directly in a directory, in order. -/
def names (tree : Tree) (location : Location) : List Bytes :=
  Bytes.sorted ((tree.nodes.map (·.1) ++ tree.links.map (·.1)).filterMap fun other =>
    match other.reverse with
    | name :: above => if above.reverse == location then some name else none
    | [] => none)

/-- The files and directories that stand directly in a directory, by name. -/
def children (tree : Tree) (location : Location) : List (Bytes × Node) :=
  (tree.nodes.filterMap fun (other, node) =>
    match other.reverse with
    | name :: above => if above.reverse == location then some (name, node) else none
    | [] => none).mergeSort fun a b => Bytes.atMost a.1 b.1

/-- All files and directories below a directory, by the path from there. -/
def below (tree : Tree) (location : Location) : List (Bytes × Node) :=
  (tree.nodes.filterMap fun (other, node) =>
    if location.isPrefixOf other && other != location then
      some (Bytes.joined [Path.slash] (other.drop location.length), node)
    else none).mergeSort fun a b => Bytes.atMost a.1 b.1

/-! ## Paths -/

/-- The longest name. -/
def longestName : Nat := 255

/-- The longest path. -/
def longestPath : Nat := 4095

/-- The names that lead along a path. A slash at the end asks for a directory. -/
def steps (path : Bytes) : List Bytes :=
  (Path.names path).filter (!·.isEmpty)
    ++ (if path.getLast? == some Path.slash then [Path.same] else [])

/-- A link on the way along a path: where its own path is read, that path, and the names after it. -/
structure Detour where
  location : Location
  target : Bytes
  rest : List Bytes

/-- Follow names from a location up to a link. A link at the end counts only if it is to be followed. -/
def walkToLink (tree : Tree) (follows : Bool) : Location → List Bytes → Except Reason (Location ⊕ Detour)
  | location, [] => .ok (.inl location)
  | location, name :: rest =>
    match tree.get? location with
    | none => .error .notFound
    | some (.file ..) => .error .notDirectory
    | some (.directory _) =>
      if name.length > longestName then .error .nameTooLong
      else if name == Path.same then walkToLink tree follows location rest
      else if name == Path.up then walkToLink tree follows location.dropLast rest
      else match tree.link? (location ++ [name]) with
        | some target =>
          if rest.isEmpty && !follows then .ok (.inl (location ++ [name]))
          else .ok (.inr ⟨location, target, rest⟩)
        | none => walkToLink tree follows (location ++ [name]) rest

/-- The most links on the way along a path. -/
def linkLimit : Nat := 40

/-- Follow names from a location, through a limited number of links. -/
def walk (tree : Tree) (follows : Bool) : Nat → Location → List Bytes → Except Reason Location
  | 0, _, _ => .error .tooManyLinks
  | links + 1, location, names =>
    match tree.walkToLink follows location names with
    | .error reason => .error reason
    | .ok (.inl found) => .ok found
    | .ok (.inr detour) =>
      walk tree follows links (if Path.isRooted detour.target then [] else detour.location)
        (steps detour.target ++ detour.rest)

/-- The location that a path leads to. -/
def locateBy (tree : Tree) (follows : Bool) (path : Bytes) : Except Reason Location :=
  if path.contains 0 then .error .invalidArgument
  else if path.isEmpty then .error .notFound
  else if path.length > longestPath then .error .nameTooLong
  else tree.walk follows (linkLimit + 1) (if Path.isRooted path then [] else tree.here) (steps path)

/-- The location of a path. All but the last name lead through directories that are there, and no link
stands at the location. -/
def locate (tree : Tree) (path : Bytes) : Except Reason Location := tree.locateBy true path

/-- The location that a path names: if the last name is that of a link, the location of the link. -/
def locateName (tree : Tree) (path : Bytes) : Except Reason Location := tree.locateBy false path

/-- What stands at a path. -/
def stat (tree : Tree) (path : Bytes) : Except Reason Node :=
  match tree.locate path with
  | .error reason => .error reason
  | .ok location =>
    match tree.get? location with
    | some node => .ok node
    | none => .error .notFound

/-- Whether there is a file or a directory at a path. -/
def isThere (tree : Tree) (path : Bytes) : Bool :=
  match tree.stat path with
  | .ok _ => true
  | .error _ => false

/-- Whether there is a directory at a path. -/
def isDirectory (tree : Tree) (path : Bytes) : Bool :=
  match tree.stat path with
  | .ok node => node.isDirectory
  | .error _ => false

/-- Whether there is anything at a path, be it a link that leads nowhere. -/
def hasName (tree : Tree) (path : Bytes) : Bool :=
  match tree.locateName path with
  | .ok location => tree.isTaken location
  | .error _ => false

/-- The path that a link at a path stands for. -/
def linkAt? (tree : Tree) (path : Bytes) : Option Bytes :=
  (tree.locateName path).toOption.bind tree.link?

/-- The rooted path of the directory in which relative paths are read. -/
def herePath (tree : Tree) : Bytes := Path.ofNames true tree.here

end Tree

/-! ## Modes -/

/-- The permission bits of one group, as letters. -/
def modeLetters (bits : Nat) : Bytes :=
  [if bits &&& 4 != 0 then byte 'r' else byte '-',
    if bits &&& 2 != 0 then byte 'w' else byte '-',
    if bits &&& 1 != 0 then byte 'x' else byte '-']

/-- The permission bits of a file, as letters. -/
def modeText (mode : Nat) : Bytes :=
  byte '-' :: modeLetters (mode / 64) ++ modeLetters (mode / 8) ++ modeLetters mode

end Files

end FunctionChain
