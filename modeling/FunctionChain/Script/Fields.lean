import FunctionChain.Files.Tree
import FunctionChain.Script.Pattern

/-!
# Fields

Expanding a word gives fragments; the fragments of a word make up the fields that a command gets as its
arguments. What comes out of an unquoted expansion is split at separators: white space among them counts
as one separator however much of it there is, any other separator ends a field of its own. A field with
unquoted pattern marks stands for the paths that match it, if there are any.
-/

namespace FunctionChain

namespace Script

/-- A piece of an expanded word. -/
inductive Fragment where
  /-- Text that stays in one piece. -/
  | fixed (quoted : Bool) (text : Bytes)
  /-- Text that is split at separators. -/
  | loose (text : Bytes)
  /-- Texts that each start a field; they stay in one piece when they are quoted. -/
  | separate (quoted : Bool) (texts : List Bytes)

/-- A fragment as it stands in the place of an unquoted value: plain text in it is split. -/
def Fragment.loosened : Fragment → Fragment
  | .fixed false text => .loose text
  | fragment => fragment

/-- The text of a word that is not split. -/
def textOf (fragments : List Fragment) : Bytes :=
  fragments.flatMap fun
    | .fixed _ text | .loose text => text
    | .separate _ texts => Bytes.joined (bytes " ") texts

/-- The pattern of a word. -/
def patternOf (fragments : List Fragment) : List Glob :=
  fragments.flatMap fun
    | .fixed true text => text.map .exactly
    | .fixed false text | .loose text => globs text
    | .separate _ texts => (Bytes.joined (bytes " ") texts).map .exactly

/-- A field: its text, and the same as a pattern. -/
structure Field where
  text : Bytes
  pattern : List Glob

/-- Add text to a field. -/
def Field.add (field : Field) (quoted : Bool) (text : Bytes) : Field :=
  ⟨field.text ++ text, field.pattern ++ (if quoted then text.map .exactly else globs text)⟩

/-- Fields under way: those that are complete, the latest first, and the one at hand. -/
structure Fields where
  done : List Field
  current : Option Field
  /-- Whether white space has ended the latest field, so that one other separator may follow. -/
  isSpaced : Bool

namespace Fields

/-- Add text to the field at hand. -/
def add (fields : Fields) (quoted : Bool) (text : Bytes) : Fields :=
  { fields with
    current := some ((fields.current.getD ⟨[], []⟩).add quoted text)
    isSpaced := false }

/-- Complete the field at hand. -/
def close (fields : Fields) : Fields :=
  match fields.current with
  | some field => { fields with done := field :: fields.done, current := none }
  | none => fields

/-- A separator that is white space. -/
def space (fields : Fields) : Fields :=
  match fields.current with
  | some _ => { fields.close with isSpaced := true }
  | none => fields

/-- A separator that is not white space. -/
def separator (fields : Fields) : Fields :=
  if fields.isSpaced then { fields with isSpaced := false }
  else match fields.current with
    | some _ => fields.close
    | none => { fields with done := ⟨[], []⟩ :: fields.done }

/-- Whether a byte is white space. -/
def isWhite (b : UInt8) : Bool := b == 0x20 || b == 9 || b == 10

/-- Add loose text. `fuel` is more than the length of the text. -/
def addLoose (separators : Bytes) : Nat → Bytes → Fields → Fields
  | 0, _, fields => fields
  | _, [], fields => fields
  | fuel + 1, b :: rest, fields =>
    if separators.contains b then
      addLoose separators fuel rest (if isWhite b then fields.space else fields.separator)
    else
      let isPlain (b : UInt8) : Bool := !separators.contains b
      let text := b :: rest.takeWhile isPlain
      addLoose separators fuel (rest.dropWhile isPlain) (fields.add false text)

/-- Add one fragment. -/
def addFragment (separators : Bytes) (fields : Fields) : Fragment → Fields
  | .fixed quoted text => if quoted || !text.isEmpty then fields.add quoted text else fields
  | .loose text => addLoose separators (text.length + 1) text fields
  | .separate _ [] => fields
  | .separate true (first :: rest) =>
    rest.foldl (fun fields text => fields.close.add true text) (fields.add true first)
  | .separate false (first :: rest) =>
    rest.foldl (fun fields text => addLoose separators (text.length + 1) text fields.close)
      (addLoose separators (first.length + 1) first fields)

end Fields

/-- The fields of a word. -/
def fieldsOf (separators : Bytes) (fragments : List Fragment) : List Field :=
  (fragments.foldl (Fields.addFragment separators) ⟨[], none, false⟩).close.done.reverse

/-! ## Paths by pattern -/

/-- The bytes of a pattern without marks. -/
def literal? (pattern : List Glob) : Option Bytes :=
  pattern.mapM fun
    | .exactly b => some b
    | _ => none

/-- The parts of a pattern between slashes. -/
def components (pattern : List Glob) : List (List Glob) :=
  let (done, last) := pattern.foldl (fun (done, last) element =>
    if element == .exactly Path.slash then (last.reverse :: done, []) else (done, element :: last))
    (([], []) : List (List Glob) × List Glob)
  (last.reverse :: done).reverse

/-- Whether a name matches a part of a pattern. A leading dot is matched by a dot only. -/
def nameMatches (pattern : List Glob) (name : Bytes) : Bool :=
  Glob.matches pattern name
    && (name.head? != some (byte '.') || pattern.head? == some (.exactly (byte '.')))

/-- The paths that match the parts of a pattern and start so. -/
def matchingFrom (tree : Files.Tree) : Bytes → List (List Glob) → List Bytes
  | start, [] => if tree.hasName start then [start] else []
  | start, part :: rest =>
    let goOn (name : Bytes) : List Bytes :=
      matchingFrom tree (start ++ name ++ (if rest.isEmpty then [] else [Path.slash])) rest
    match literal? part with
    | some name => goOn name
    | none =>
      match tree.locate (if start.isEmpty then Path.same else start) with
      | .error _ => []
      | .ok location =>
        let hidden := [Path.same, Path.up]
        let names := hidden ++ tree.names location
        (names.filter (nameMatches part)).flatMap goOn

/-- The texts that a field stands for. -/
def Field.texts (tree : Files.Tree) (field : Field) : List Bytes :=
  if (literal? field.pattern).isSome then [field.text]
  else match matchingFrom tree [] (components field.pattern) with
    | [] => [field.text]
    | paths => Bytes.sorted paths

end Script

end FunctionChain
