import FunctionChain.Settings.Inspect
import FunctionChain.Settings.Toml.Token

/-!
# Tables of TOML

A document is a tree of tables. Under a name stands a value, a table, or a list of tables; of a list of
tables the last one is meant by its name.
-/

namespace FunctionChain

namespace Settings

namespace Toml

/-- What stands under a name. -/
inductive Entry where
  /-- A value, and where it was given a name if that is known. -/
  | leaf (value : Value) (place : Place)
  | table (entries : List (Bytes × Entry))
  | tables (tables : List (List (Bytes × Entry)))

/-- A table. -/
abbrev Tree := List (Bytes × Entry)

namespace Tree

/-- The table with an entry put under a name, in place of one that is there. -/
def put (tree : Tree) (name : Bytes) (entry : Entry) : Tree :=
  tree.filter (·.1 != name) ++ [(name, entry)]

/-- The table that an entry means. -/
def ofEntry? : Entry → Option Tree
  | .leaf .. => none
  | .table entries => some entries
  | .tables tables => tables.getLast?

/-- An entry with another table in place of the one that it means. -/
def within (entry : Entry) (tree : Tree) : Entry :=
  match entry with
  | .leaf value place => .leaf value place
  | .table _ => .table tree
  | .tables tables => .tables (tables.dropLast ++ [tree])

/-- What stands at a path. -/
def find? (tree : Tree) : List Bytes → Option Entry
  | [] => some (.table tree)
  | [name] => tree.lookup name
  | name :: path =>
    match (tree.lookup name).bind ofEntry? with
    | some inner => find? inner path
    | none => none

/-- The tree with tables at a path, made where they are missing. A value on the way is a fault. -/
def open? (tree : Tree) : List Bytes → Except (Bytes × Value × Place) Tree
  | [] => .ok tree
  | name :: path =>
    match tree.lookup name with
    | none => (open? [] path).map fun inner => tree.put name (.table inner)
    | some (.leaf value place) => .error (name, value, place)
    | some (.table inner) => (open? inner path).map fun inner => tree.put name (.table inner)
    | some (.tables tables) =>
      (open? (tables.getLastD []) path).map fun inner =>
        tree.put name (.tables (tables.dropLast ++ [inner]))

/-- The tree with an entry put at a path. Tables are made where they are missing, and a value on the way
is passed over. -/
def putAt (tree : Tree) (entry : Entry) : List Bytes → Tree
  | [] => tree
  | [name] => tree.put name entry
  | name :: path =>
    match tree.lookup name with
    | none => tree.put name (.table (putAt [] entry path))
    | some (.leaf ..) => putAt tree entry path
    | some (.table inner) => tree.put name (.table (putAt inner entry path))
    | some (.tables tables) =>
      tree.put name (.tables (tables.dropLast ++ [putAt (tables.getLastD []) entry path]))

/-- The tree with a change to the table at a path, if there is one. -/
def change (tree : Tree) (edit : Tree → Tree) : List Bytes → Tree
  | [] => edit tree
  | name :: path =>
    match tree.lookup name with
    | none => tree
    | some entry =>
      match ofEntry? entry with
      | none => tree
      | some inner => tree.put name (within entry (change inner edit path))

end Tree

mutual

/-- The value of what stands under a name. -/
def Entry.toValue : Entry → Value
  | .leaf value _ => value
  | .table entries => .table (Entry.toTable entries)
  | .tables list => .list (Entry.toTables list)

/-- The table of a tree. -/
def Entry.toTable : List (Bytes × Entry) → Table
  | [] => []
  | (name, entry) :: rest => (name, entry.toValue) :: Entry.toTable rest

/-- The tables of several trees. -/
def Entry.toTables : List (List (Bytes × Entry)) → List Value
  | [] => []
  | entries :: rest => .table (Entry.toTable entries) :: Entry.toTables rest

end

/-- The description of a value that stands where a table should be. -/
def valueShown (value : Value) (place : Place) : Bytes :=
  let emptyList := Value.listType ++ bytes "(nil)"
  bytes "&toml.tomlValue" ++ Value.braced [bytes "value:" ++ value.shown emptyList,
    bytes "comment:\"\"", bytes "commented:false", bytes "multiline:false",
    bytes "position:toml.Position" ++ Value.braced [bytes "Line:" ++ Decimal.ofNat place.line,
      bytes "Col:" ++ Decimal.ofNat place.column]]

end Toml

end Settings

end FunctionChain
