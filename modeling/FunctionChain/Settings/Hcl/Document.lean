import FunctionChain.Settings.Hcl.Node
import FunctionChain.Settings.Value

/-!
# Configuration in HCL

The items of a text are taken one after the other. A name that comes again keeps the kind of its first
value: a number may be given as a text then, lists and objects are added to those before, and what does not
fit is refused. An object stands in the list of the objects of its name, unless it stands in a list itself.
-/

namespace FunctionChain

namespace Settings

namespace Hcl

/-- A value that was taken from nodes. -/
inductive Datum where
  | truth (b : Bool)
  | integer (n : Int)
  | number (x : Double)
  | text (t : Bytes)
  | list (items : List Datum)
  /-- The objects of a name. -/
  | objects (tables : List (List (Bytes × Datum)))
  | table (entries : List (Bytes × Datum))

/-- What a value is taken from. -/
inductive Origin where
  | node (node : Node)
  /-- Items that share the first of their keys, which they have no more. -/
  | group (items : List Item)
  /-- One of these items. -/
  | item (item : Item)

/-- The place of a node. -/
def Node.place : Node → Place
  | .literal token => token.place
  | .list place _ => place
  | .object place _ => place

/-- The place of an item, which is that of its first key. -/
def itemPlace (item : Item) : Place :=
  match item.1 with
  | key :: _ => key.place
  | [] => .nowhere

/-- The place of items. -/
def groupPlace (items : List Item) : Place := (items.head?.map itemPlace).getD .nowhere

namespace Origin

/-- The place of an origin. -/
def place : Origin → Place
  | .node n => n.place
  | .group is => groupPlace is
  | .item i => itemPlace i

/-- The type of an origin, as messages name it. -/
def typeName : Origin → Bytes
  | .node (.literal _) => bytes "*ast.LiteralType"
  | .node (.list ..) => bytes "*ast.ListType"
  | .node (.object ..) => bytes "*ast.ObjectType"
  | .group _ => bytes "*ast.ObjectList"
  | .item _ => bytes "*ast.ObjectItem"

/-- The items of an origin that is an object. -/
def items? : Origin → Option (List Item)
  | .node (.object _ is) => some is
  | .node _ => none
  | .group is => some is
  | .item i => some [i]

/-- What a list takes from an origin. -/
def parts? : Origin → Option (List Origin)
  | .group is => some (is.map .item)
  | .node (.object place is) => some [.node (.object place is)]
  | .node (.list _ nodes) => some (nodes.map .node)
  | .node (.literal _) | .item _ => none

end Origin

/-- Refuse an origin. -/
def misfit {α : Type} (origin : Origin) (message : Bytes) : Except Bytes α :=
  .error (placed origin.place message)

/-- The number of a literal of double precision. -/
def floatValue (spelling : Bytes) : Except Bytes Datum :=
  let refused (reason : String) : Except Bytes Datum :=
    .error (bytes "strconv.ParseFloat: parsing " ++ Quoted.quote spelling ++ bytes ": " ++ bytes reason)
  match Double.ofLiteral? spelling with
  | some (.infinite _) => refused "value out of range"
  | some x => .ok (.number x)
  | none => refused "invalid syntax"

/-- The integer of a text. -/
def integerValue (text : Bytes) : Except Bytes Datum :=
  match Integer.read text with
  | .ok n => .ok (.integer n)
  | .error problem => .error (problem.message text)

/-- The value of a literal that takes the place of another value, or of none. -/
def literalValue (native : Bool) (name : Bytes) (token : Token) (old : Option Datum) :
    Except Bytes Datum :=
  let origin : Origin := .node (.literal token)
  match old, token.kind with
  | none, .truth | some (.truth _), .truth => .ok (.truth (token.characters == codes "true"))
  | none, .float | some (.number _), .float | some (.number _), .number => floatValue token.spelling
  | none, .number | some (.integer _), .number => integerValue token.spelling
  | some (.integer _), .text | some (.integer _), .null => integerValue (token.content native)
  | some (.text _), .number => .ok (.text token.spelling)
  | none, .text | none, .document | none, .null | some (.text _), .text | some (.text _), .document
  | some (.text _), .null => .ok (.text (token.content native))
  | some (.text _), _ => misfit origin (name ++ bytes ": unknown type for string " ++ origin.typeName)
  | some (.list _), _ | some (.objects _), _ =>
    misfit origin (bytes "unknown slice type: " ++ origin.typeName)
  | some (.table _), _ =>
    misfit origin (name ++ bytes ": not an object type for map (" ++ origin.typeName ++ bytes ")")
  | _, _ => misfit origin (name ++ bytes ": unknown type " ++ origin.typeName)

/-- Set the value of a name. -/
def setEntry (entries : List (Bytes × Datum)) (name : Bytes) (datum : Datum) : List (Bytes × Datum) :=
  entries.filter (·.1 != name) ++ [(name, datum)]

/-- The items of a first key, without it. Its letter case does not matter. -/
def withKey (native : Bool) (key : Bytes) (items : List Item) : List Item :=
  items.filterMap fun (keys, node) =>
    match keys with
    | first :: rest =>
      if LetterCase.lowered (first.content native) == LetterCase.lowered key then some (rest, node)
      else none
    | [] => none

/-- The name of an item of a list in messages. -/
def indexed (name : Bytes) (index : Nat) : Bytes :=
  name ++ bytes "[" ++ Decimal.ofNat index ++ bytes "]"

mutual

/-- Take a value from an origin, for a name that may have a value. -/
def datum (native : Bool) : Nat → (inList : Bool) → Bytes → Origin → Option Datum → Except Bytes Datum
  | 0, _, _, _, _ => .ok (.list [])
  | fuel + 1, inList, name, origin, old =>
    match origin, old with
    | .node (.literal token), old => literalValue native name token old
    | .item _, none => .error (name ++ bytes ": cannot decode into interface: " ++ origin.typeName)
    | .node (.list ..), none => do return .list (← listOf native fuel name origin)
    | _, none =>
      if inList then do return .table (← entriesOf native fuel name origin)
      else do return .objects (← objectsOf native fuel name origin)
    | _, some (.list items) => do return .list (items ++ (← listOf native fuel name origin))
    | _, some (.objects tables) => do return .objects (tables ++ (← objectsOf native fuel name origin))
    | _, some (.text _) =>
      misfit origin (name ++ bytes ": unknown type for string " ++ origin.typeName)
    | _, some _ => misfit origin (name ++ bytes ": unknown type " ++ origin.typeName)

/-- Take the items of a list. -/
def listOf (native : Bool) : Nat → Bytes → Origin → Except Bytes (List Datum)
  | 0, _, _ => .ok []
  | fuel + 1, name, origin =>
    match origin.parts? with
    | none => misfit origin (bytes "unknown slice type: " ++ origin.typeName)
    | some parts => parts.zipIdx.mapM fun (part, index) =>
      datum native fuel true (indexed name index) part none

/-- Take the objects of a name. -/
def objectsOf (native : Bool) : Nat → Bytes → Origin → Except Bytes (List (List (Bytes × Datum)))
  | 0, _, _ => .ok []
  | fuel + 1, name, origin =>
    match origin.parts? with
    | none => misfit origin (bytes "unknown slice type: " ++ origin.typeName)
    | some parts => parts.zipIdx.mapM fun (part, index) => entriesOf native fuel (indexed name index) part

/-- Take the entries of an object. -/
def entriesOf (native : Bool) : Nat → Bytes → Origin → Except Bytes (List (Bytes × Datum))
  | 0, _, _ => .ok []
  | fuel + 1, name, origin =>
    match origin.items? with
    | none =>
      misfit origin (name ++ bytes ": not an object type for map (" ++ origin.typeName ++ bytes ")")
    | some found => entriesFrom native fuel name (groupPlace found) found [] found []

/-- Take entries from items, which are among `all` the items of an object. Items of several keys are taken
together with the first of them: `done` are their first keys. -/
def entriesFrom (native : Bool) :
    Nat → Bytes → Place → List Item → List Bytes → List Item → List (Bytes × Datum) →
      Except Bytes (List (Bytes × Datum))
  | fuel + 1, name, place, all, done, (keys, node) :: rest, found =>
    match keys with
    | [] => .error (placed place (name ++ bytes ": map must have string keys"))
    | first :: more =>
      let key := first.content native
      if done.contains key then entriesFrom native fuel name place all done rest found
      else do
        let (origin, done) : Origin × List Bytes :=
          if more.isEmpty then (.node node, done) else (.group (withKey native key all), key :: done)
        let next ← datum native fuel false (name ++ bytes "." ++ key) origin (found.lookup key)
        entriesFrom native fuel name place all done rest (setEntry found key next)
  | _, _, _, _, _, _, found => .ok found

end

mutual

/-- The value of a datum. The objects of a name count as one table. -/
def Datum.value : Datum → Value
  | .truth b => .truth b
  | .integer n => .integer n true
  | .number x => .number x
  | .text t => .text t
  | .list items => .list (valuesOf items)
  | .objects tables => .table (tablesOf tables)
  | .table entries => .table (tableOf entries)

/-- The values of several data. -/
def valuesOf : List Datum → List Value
  | [] => []
  | item :: rest => item.value :: valuesOf rest

/-- The entries of several tables. -/
def tablesOf : List (List (Bytes × Datum)) → List (Bytes × Value)
  | [] => []
  | entries :: rest => tableOf entries ++ tablesOf rest

/-- The table of entries. -/
def tableOf : List (Bytes × Datum) → List (Bytes × Value)
  | [] => []
  | (name, item) :: rest => (name, item.value) :: tableOf rest

end

/-- Read a configuration. -/
def read (text : Bytes) : Except Bytes Table := do
  let all ← parse text
  let found ← entriesFrom (isNative text) (8 * (text.length + 8)) (bytes "root") (groupPlace all) all []
    all []
  return tableOf found

end Hcl

end Settings

end FunctionChain
