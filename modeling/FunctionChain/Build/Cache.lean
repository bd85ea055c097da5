import FunctionChain.Association
import FunctionChain.Build.Toolchain
import FunctionChain.Files.Action

/-!
# Artifact caches

A cache keeps artifacts by cache key. It may live in memory, in a directory with one file per key, or
in a bucket of a database file. All three answer a key with the artifact that was last stored under it.

Databases are the work of a library, which is not told here: `DatabaseLibrary` says what is asked of it.
-/

namespace FunctionChain

namespace Build

open Files (Action)

/-! ## Databases -/

/-- A library for database files, with byte strings by key in named buckets. -/
class DatabaseLibrary where
  /-- A database that was opened. -/
  Database : Type
  /-- The path of its file. -/
  path : Database → Bytes
  /-- Open the database of a file, which is made with a mode if it is not there. -/
  openFile : (path : Bytes) → (mode : Nat) → Action Database
  /-- Make a bucket, unless it is there. -/
  createBucket : Database → (bucket : Bytes) → Action Database
  /-- The slice that a bucket has under a key: the nil slice if it has none. -/
  get : Database → (bucket key : Bytes) → Except Error (Option Bytes)
  /-- Give a key of a bucket a value. If this fails the database stays as it was. -/
  put : Database → (bucket key value : Bytes) → Action Database
  /-- The number of keys in a bucket. -/
  size : Database → (bucket : Bytes) → Except Error Nat
  /-- Close a database. -/
  close : Database → Action Database

namespace DatabaseLibrary

/-- The longest key that is taken. -/
def longestKey : Nat := 32768

/-- The longest value that is taken. -/
def longestValue : Nat := 0x7FFFFFFE

end DatabaseLibrary

/-- The bucket of artifacts. -/
def artifactsBucket : Bytes := bytes "artifacts"

/-! ## Slices -/

/-- Copy bytes over the beginning of a slice, as far as there are bytes and there is room. -/
def copyOver (slice source : Bytes) : Bytes :=
  source.take slice.length ++ slice.drop source.length

/-- A slice of its own with the same bytes. -/
def duplicate (source : Bytes) : Bytes := copyOver (List.replicate source.length 0) source

/-- A slice of its own has the same bytes. -/
@[simp]
theorem duplicate_eq (source : Bytes) : duplicate source = source := by
  simp [duplicate, copyOver]

/-! ## Caches -/

section

variable [DatabaseLibrary]

/-- A cache. -/
inductive Cache where
  | memory (entries : List (Bytes × Bytes))
  | directory (path : Bytes)
  | database (opened : DatabaseLibrary.Database)

namespace Cache

/-- The file of a key in a cache directory. Keys that start alike share a directory. -/
def entryPath (directory key : Bytes) : Bytes :=
  if key.length < 2 then Path.join [directory, key ++ bytes ".bin"]
  else Path.join [directory, key.take 2, key ++ bytes ".bin"]

/-- Look up the artifact of a key. -/
def lookup (cache : Cache) (key : Bytes) : Action (Option Bytes) := do
  match cache with
  | .memory entries => return (entries.lookup key).map duplicate
  | .directory path =>
    match (← get).stat (entryPath path key) with
    | .error .notFound => return none
    | _ =>
      let content ← (Files.contents (entryPath path key)).labelled (bytes "reading cache entry")
      return some content
  | .database opened =>
    match DatabaseLibrary.get opened artifactsBucket key with
    | .error error => throw (.wrap (bytes "reading cache entry") error)
    | .ok value =>
      -- The slice that is handed out is good only for now. A copy of it is not nil, even if it is
      -- empty; an artifact is found just if there is a copy.
      let mut out : Option Bytes := none
      if let some value := value then out := some (duplicate value)
      return out

/-- Store an artifact under a key. -/
def store (cache : Cache) (key artifact : Bytes) : Action Cache := do
  match cache with
  | .memory entries => return .memory (Association.assign entries key (duplicate artifact))
  | .directory path =>
    let file := entryPath path key
    (Files.makeDirectories (Path.parent file) 0o755).labelled (bytes "creating cache directory")
    (Files.replaceFile file artifact 0o644).labelled (bytes "writing cache entry")
    return cache
  | .database opened =>
    let changed ← (DatabaseLibrary.put opened artifactsBucket key artifact).labelled
      (bytes "writing cache entry")
    return .database changed

/-! ## Opening and closing -/

/-- Tell of an error by its text alone, with words before it. -/
def retold {α : Type} (words : Bytes) (action : Action α) : Action α :=
  tryCatch action fun error => throw (.plain (words ++ error.text))

/-- Do something to a database, and close it if that fails. -/
def orClosed {α : Type} (opened : DatabaseLibrary.Database) (action : Action α) : Action α :=
  tryCatch action fun error => do
    let _ ← Action.attempt (discard (DatabaseLibrary.close opened))
    throw error

/-- Open the cache in a database file, which is made if it is not there. -/
def openDatabase (path : Bytes) : Action Cache := do
  retold (bytes "unable to create directory " ++ path ++ bytes ": ")
    (Files.makeDirectories (Path.parent path) 0o700)
  let opened ← retold (bytes "unable to open boltdb file ") (DatabaseLibrary.openFile path 0o600)
  let opened ← retold (bytes "unable to initialize boltdb file: ")
    (orClosed opened (DatabaseLibrary.createBucket opened artifactsBucket))
  return .database opened

/-- Give up what a cache holds, if it holds anything. -/
def close : Cache → Action Unit
  | .database opened => discard (DatabaseLibrary.close opened)
  | _ => pure ()

end Cache

end

end Build

end FunctionChain
