import FunctionChain.Settings.Inspect
import FunctionChain.Settings.Yaml.Meaning
import FunctionChain.Settings.Yaml.Node

/-!
# Configurations in YAML

A document is turned into the table of its settings. The names of settings are texts; the names in inner
maps may be any values other than lists and maps. A value of another type than is wanted is noted, and
the others are still looked at. An entry `<<` stands for the entries of another map.

Aliases can make a small document stand for a huge one. So the steps are counted, and a document of which
nearly all steps are inside of aliases is refused.
-/

namespace FunctionChain

namespace Settings

namespace Yaml

/-- What was seen of a document. -/
structure Progress where
  /-- How many nodes were looked at. -/
  steps : Nat
  /-- How many of them were inside of aliases. -/
  aliased : Nat
  /-- The values of other types than wanted, the last one first. -/
  mismatches : List Mismatch

/-- A step of making sense of a document. -/
abbrev Sense := StateT Progress (Except Problem)

/-- The entries of a map. -/
abbrev Entries := List (Value × Value)

namespace Sense

/-! ## Aliases -/

/-- The number of steps up to which 99 of 100 may be inside of aliases. -/
def fewSteps : Nat := 400000

/-- The number of steps from which on 10 of 100 may be inside of aliases. -/
def manySteps : Nat := 4000000

/-- Whether too many steps are inside of aliases. Between few and many steps the bound falls evenly. -/
def isExcessive (steps aliased : Nat) : Bool :=
  aliased > 100 && steps > 1000 &&
    (if steps ≤ fewSteps then aliased * 100 > steps * 99
      else if steps ≥ manySteps then aliased * 10 > steps
      else
        let range := manySteps - fewSteps
        aliased * 100 * range > steps * (99 * range - 89 * (steps - fewSteps)))

/-- Count a step. `active` are the aliases that it is inside of. -/
def step (active : List Nat) : Sense Unit := do
  let progress ← get
  let steps := progress.steps + 1
  let aliased := if active.isEmpty then progress.aliased else progress.aliased + 1
  if isExcessive steps aliased then throw .tooManyAliases
  set { progress with steps := steps, aliased := aliased }

/-! ## Names and types -/

/-- Note a value of another type than wanted. -/
def note (line : Nat) (tag text : Bytes) (wanted : Bytes) : Sense Unit :=
  let shown :=
    if tag == commonTag "seq" || tag == commonTag "map" then text
    else if text.length > 10 then bytes " `" ++ text.take 7 ++ bytes "...`"
    else bytes " `" ++ text ++ bytes "`"
  modify fun progress =>
    { progress with mismatches := ⟨line, shortTag tag ++ shown, wanted⟩ :: progress.mismatches }

/-- Note a list or a map where something else is wanted. -/
def noteCollection (line : Nat) (tag : Bytes) (type : String) (wanted : Bytes) : Sense Unit :=
  note line (if tag.isEmpty then commonTag type else tag) [] wanted

/-- The type of texts in messages. -/
def textType : Bytes := bytes "string"

/-- The text of a scalar that is the name of a setting. -/
def nameText (text : Bytes) (meaning : Meaning) : Bytes :=
  match meaning.value with
  | .null => []
  | .text t => t
  | _ => text

/-- Whether a node is the name of an entry that stands for the entries of another map. -/
def isMerge : Node → Bool
  | .scalar _ tag text isImplicit => text == bytes "<<" && (isImplicit || tag == commonTag "merge")
  | _ => false

/-- The entries with another one. It takes the place of one that has the same name. -/
def put (entries : Entries) (name value : Value) : Entries :=
  entries.filter (fun (other, _) => !Value.isSameName other name) ++ [(name, value)]

/-! ## Values -/

mutual

/-- The value of a node. -/
def value (anchored : List (Nat × Node)) (active : List Nat) (node : Node) : Nat → Sense Value
  | 0 => return .null
  | fuel + 1 => do
    step active
    match node with
    | .scalar _ tag text isImplicit => return (← Meaning.ofScalar tag text isImplicit).value
    | .list _ _ list => return .list (← items anchored active list fuel [])
    | .map _ _ entries => return .mapping (← pairs anchored active false entries fuel [])
    | .aliasOf number name target =>
      if active.contains number then throw (.containsItself name)
      match anchored.lookup target with
      | some node => value anchored (number :: active) node fuel
      | none => return .null

/-- The values of several nodes. `done` are those before, in reverse. -/
def items (anchored : List (Nat × Node)) (active : List Nat) :
    List Node → Nat → List Value → Sense (List Value)
  | _, 0, done => return done.reverse
  | [], _, done => return done.reverse
  | node :: rest, fuel + 1, done => do
    let item ← value anchored active node fuel
    items anchored active rest fuel (item :: done)

/-- The name of a setting, or none if it is not a text. -/
def settingName (anchored : List (Nat × Node)) (active : List Nat) (node : Node) :
    Nat → Sense (Option Value)
  | 0 => return none
  | fuel + 1 => do
    step active
    match node with
    | .scalar _ tag text isImplicit =>
      return some (.text (nameText text (← Meaning.ofScalar tag text isImplicit)))
    | .list line tag _ =>
      noteCollection line tag "seq" textType
      return none
    | .map line tag _ =>
      noteCollection line tag "map" textType
      return none
    | .aliasOf number name target =>
      if active.contains number then throw (.containsItself name)
      match anchored.lookup target with
      | some node => settingName anchored (number :: active) node fuel
      | none => return none

/-- The name of an entry. On the top it is a setting. -/
def entryName (anchored : List (Nat × Node)) (active : List Nat) (isTop : Bool) (node : Node) :
    Nat → Sense (Option Value)
  | 0 => return none
  | fuel + 1 => do
    if isTop then settingName anchored active node fuel
    else
      let name ← value anchored active node fuel
      match name with
      | .list _ | .mapping _ => throw (.badName (name.shown (Value.listType ++ bytes "\x7b\x7d")))
      | _ => return some name

/-- The entries of a map after those of `done`. -/
def pairs (anchored : List (Nat × Node)) (active : List Nat) (isTop : Bool) :
    List (Node × Node) → Nat → Entries → Sense Entries
  | _, 0, done => return done
  | [], _, done => return done
  | (first, second) :: rest, fuel + 1, done => do
    let done ←
      if isMerge first then merged anchored active isTop second fuel done
      else do
        match ← entryName anchored active isTop first fuel with
        | none => pure done
        | some name => pure (put done name (← value anchored active second fuel))
    pairs anchored active isTop rest fuel done

/-- The entries of a map, or of the map that an alias stands for, after those of `done`. -/
def mergedMap (anchored : List (Nat × Node)) (active : List Nat) (isTop : Bool) (node : Node) :
    Nat → Entries → Sense Entries
  | 0, done => return done
  | fuel + 1, done => do
    match node with
    | .map _ _ entries =>
      step active
      pairs anchored active isTop entries fuel done
    | .aliasOf number name target =>
      match anchored.lookup target with
      | some (.map line tag entries) =>
        step active
        if active.contains number then throw (.containsItself name)
        mergedMap anchored (number :: active) isTop (.map line tag entries) fuel done
      | _ => throw .mergesNoTable
    | .scalar .. | .list .. => throw .mergesNoTable

/-- The entries that stand for those of other maps, after those of `done`. Of several maps the first one
counts most. -/
def merged (anchored : List (Nat × Node)) (active : List Nat) (isTop : Bool) (node : Node) :
    Nat → Entries → Sense Entries
  | 0, done => return done
  | fuel + 1, done => do
    match node with
    | .list _ _ nodes => mergedMaps anchored active isTop nodes.reverse fuel done
    | node => mergedMap anchored active isTop node fuel done

/-- The entries of several maps, one after the other. -/
def mergedMaps (anchored : List (Nat × Node)) (active : List Nat) (isTop : Bool) :
    List Node → Nat → Entries → Sense Entries
  | _, 0, done => return done
  | [], _, done => return done
  | node :: rest, fuel + 1, done => do
    let done ← mergedMap anchored active isTop node fuel done
    mergedMaps anchored active isTop rest fuel done

end

/-! ## Documents -/

/-- The entries of a document. -/
def document (anchored : List (Nat × Node)) (fuel : Nat) (node : Node) : Sense Entries := do
  step []
  step []
  match node with
  | .map _ _ entries => pairs anchored [] true entries fuel []
  | .scalar line tag text isImplicit =>
    let meaning ← Meaning.ofScalar tag text isImplicit
    match meaning.value with
    | .null => return []
    | _ =>
      note line (if tag.isEmpty then meaning.tag else tag) text Value.tableType
      return []
  | .list line tag _ =>
    noteCollection line tag "seq" Value.tableType
    return []
  | .aliasOf .. => return []

end Sense

/-- The settings that entries give, by name. -/
def settingsOf (entries : Entries) : Table :=
  entries.filterMap fun (name, value) =>
    match name with
    | .text t => some (t, value)
    | _ => none

/-- Read a configuration. A text without a document has no settings. -/
def read (text : Bytes) : Except Problem Table := do
  let (content, anchored) ← readDocument text
  match content with
  | none => return []
  | some node =>
    let fuel := Nat.pow (8 * text.length + 64) 2
    let (entries, progress) ← (Sense.document anchored fuel node).run ⟨0, 0, []⟩
    if progress.mismatches.isEmpty then return settingsOf entries
    else throw (.mismatches progress.mismatches.reverse)

end Yaml

end Settings

end FunctionChain
