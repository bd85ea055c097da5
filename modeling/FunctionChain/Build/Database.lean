import FunctionChain.Build.Cache

/-!
# Database files

A library for databases. A database file starts with a mark, and holds its entries one after another,
each key and value after its length. An opened database holds the entries itself and brings every
change to its file; a closed one refuses all work. Keys stand in it behind the name of their bucket.
-/

namespace FunctionChain

namespace Build

/-- A database that was opened. -/
structure Database where
  path : Bytes
  entries : List (Bytes × Bytes)
  isOpen : Bool
deriving Repr, DecidableEq

namespace Database

open Files (Action)

/-! ## Files -/

/-- The beginning of every database file. -/
def mark : Bytes := bytes "artifact database 1\n"

/-- The content of a database file. -/
def encode (entries : List (Bytes × Bytes)) : Bytes :=
  mark ++ entries.flatMap fun (key, value) => CacheKey.field key ++ CacheKey.field value

/-- A text after its length, and the rest. -/
def readField (text : Bytes) : Option (Bytes × Bytes) :=
  if text.length < 8 then none
  else
    let length := (text.take 8).foldl (fun n b => n * 256 + b.toNat) 0
    let rest := text.drop 8
    if rest.length < length then none else some (rest.take length, rest.drop length)

/-- The entries in a text; each takes at least one byte, so `fuel` is its length. -/
def readEntries : Nat → Bytes → Option (List (Bytes × Bytes))
  | _, [] => some []
  | 0, _ => none
  | fuel + 1, text => do
    let (key, rest) ← readField text
    let (value, rest) ← readField rest
    let entries ← readEntries fuel rest
    return (key, value) :: entries

/-- The entries of a database file, if it is one. A file without content is one without entries. -/
def decode? (content : Bytes) : Option (List (Bytes × Bytes)) :=
  if content.isEmpty then some []
  else match Bytes.after? content mark with
    | some entries => readEntries entries.length entries
    | none => none

/-! ## Databases -/

/-- The size of a page; a database file has two at least. -/
def pageSize : Nat := 4096

/-- Open the database of a file, which is made if it is not there. -/
def openFile (path : Bytes) (mode : Nat) : Action Database := do
  let content ← match (← get).stat path with
    | .error .notFound => do
      Files.writeFile path [] mode
      pure []
    | .ok (.directory _) => Action.fail (bytes "open") [path] .isDirectory
    | _ => Files.contents path
  match decode? content with
  | none =>
    let isShort := pageSize ≤ content.length && content.length < 2 * pageSize
    throw (.plain (if isShort then bytes "file size too small" else bytes "invalid database"))
  | some entries =>
    Files.writeFile path (encode entries) mode
    return ⟨path, entries, true⟩

/-- The error of a database that is not open. -/
def closedError : Error := .plain (bytes "database not open")

/-- The key of an entry in a bucket. -/
def entryKey (bucket key : Bytes) : Bytes := CacheKey.field bucket ++ key

/-- The value of a key, if it has one. -/
def get? (database : Database) (bucket key : Bytes) : Except Error (Option Bytes) :=
  if !database.isOpen then .error closedError
  else .ok (database.entries.lookup (entryKey bucket key))

/-- Bring the entries of a database to its file, as long as that is one. -/
def save (database : Database) : Action Unit := do
  match (← get).stat database.path with
  | .ok (.file _ content) =>
    if (decode? content).isSome then
      Files.writeFile database.path (encode database.entries) 0o600
  | _ => pure ()

/-- The database in which a key has a value. -/
def assigned (database : Database) (bucket key value : Bytes) : Database :=
  { database with entries := Association.assign database.entries (entryKey bucket key) value }

/-- Give a key a value. -/
def put (database : Database) (bucket key value : Bytes) : Action Database := do
  if !database.isOpen then throw closedError
  else if key.isEmpty then throw (.plain (bytes "key required"))
  else if key.length > DatabaseLibrary.longestKey then throw (.plain (bytes "key too large"))
  else if value.length > DatabaseLibrary.longestValue then
    throw (.plain (bytes "value too large"))
  else
    (database.assigned bucket key value).save
    return database.assigned bucket key value

/-- The number of keys. -/
def size (database : Database) (bucket : Bytes) : Except Error Nat :=
  if !database.isOpen then .error closedError
  else .ok (database.entries.countP fun entry => Bytes.startsWith entry.1 (CacheKey.field bucket))

/-- The library of these databases. A bucket needs no making. -/
@[reducible]
def library : DatabaseLibrary where
  Database := Database
  path := Database.path
  openFile := openFile
  createBucket database _ := pure database
  get := get?
  put := put
  size := size
  close database := pure { database with isOpen := false }

end Database

end Build

end FunctionChain
