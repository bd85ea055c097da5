import FunctionChain.Text.Bytes

/-!
# Paths

Paths as texts, and what can be done with them without looking at any file. A path is a list of
names between slashes; *cleaning* it removes empty names and `.`, and lets every `..` cancel the
name before it. A rooted path has nothing above its root, so leading `..` disappear there; in a
relative path they stay.
-/

namespace FunctionChain

namespace Path

/-- The byte between names. -/
def slash : UInt8 := byte '/'

/-- The name of the directory itself. -/
def same : Bytes := [byte '.']

/-- The name of the directory above. -/
def up : Bytes := [byte '.', byte '.']

/-- Whether a path starts at the root. -/
def isRooted (path : Bytes) : Bool := path.head? == some slash

/-- The names of a path as they stand between the slashes, empty ones included. -/
def names (path : Bytes) : List Bytes := Bytes.splitOn path slash

/-- Put one more name on a cleaned list of names, the last name first. -/
def push (rooted : Bool) (stack : List Bytes) (name : Bytes) : List Bytes :=
  if name.isEmpty || name == same then stack
  else if name == up then
    match stack with
    | [] => if rooted then [] else [up]
    | last :: rest => if last == up then up :: stack else rest
  else name :: stack

/-- The names that are left after cleaning. -/
def cleanNames (rooted : Bool) (names : List Bytes) : List Bytes :=
  (names.foldl (push rooted) []).reverse

/-- The path of cleaned names. No names at all are the root, or the directory itself. -/
def ofNames (rooted : Bool) (names : List Bytes) : Bytes :=
  if rooted then slash :: Bytes.joined [slash] names
  else if names.isEmpty then same
  else Bytes.joined [slash] names

/-- The shortest path that names the same place, as far as the text tells. -/
def clean (path : Bytes) : Bytes :=
  ofNames (isRooted path) (cleanNames (isRooted path) (names path))

/-- The cleaned path of several parts, one below the other. Empty parts do not count, and no part at
all gives the empty path. -/
def join (parts : List Bytes) : Bytes :=
  match parts.filter (!·.isEmpty) with
  | [] => []
  | parts => clean (Bytes.joined [slash] parts)

/-- What stands after the last slash. -/
def afterLastSlash (path : Bytes) : Bytes := (path.reverse.takeWhile (· != slash)).reverse

/-- What stands up to and including the last slash. -/
def throughLastSlash (path : Bytes) : Bytes := (path.reverse.dropWhile (· != slash)).reverse

/-- The last name of a path, trailing slashes aside. -/
def base (path : Bytes) : Bytes :=
  if path.isEmpty then same
  else
    let name := afterLastSlash (Bytes.dropEndWhile path (· == slash))
    if name.isEmpty then [slash] else name

/-- The cleaned path without its last name. -/
def parent (path : Bytes) : Bytes := clean (throughLastSlash path)

/-- The last name's ending from its last dot on, without the dot. -/
def extension (path : Bytes) : Bytes :=
  let name := afterLastSlash path
  if name.contains (byte '.') then (name.reverse.takeWhile (· != byte '.')).reverse else []

/-- The rooted, cleaned path of a path that is read in a directory. -/
def absolute (here path : Bytes) : Bytes :=
  if isRooted path then clean path else join [here, path]

end Path

end FunctionChain
