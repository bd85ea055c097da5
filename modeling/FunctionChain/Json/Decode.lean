import FunctionChain.Json.Unquoted
import FunctionChain.Text.Decimal
import FunctionChain.Text.Quoted
import FunctionChain.Text.Integer

/-!
# Reading records from JSON

Readers of a record go through the members of an object in order and put each into the field it
names. A member names a field when its name is the field's name, or when the two differ only in the
case of letters. A value of the wrong type leaves its field as it is and is remembered; reading goes
on, and of all such findings the first is reported.
-/

namespace FunctionChain

namespace Json

/-! ## Names -/

/-- The character that stands for all characters that differ from it only in case, as far as ASCII
letters are concerned: the long s and the Kelvin sign belong to `S` and `K`. -/
def foldCase (code : Nat) : Nat :=
  if 0x61 ≤ code && code ≤ 0x7A then code - 32
  else if code == 0x17F then 0x53
  else if code == 0x212A then 0x4B
  else code

/-- The characters of a name without regard to case. -/
def foldedName (name : Bytes) : List Nat := (Utf8.pieces name).map fun p => foldCase p.code

/-- The field that a member's name stands for: the field of that very name, or else the first whose
name differs only in case. -/
def fieldOf? (fields : List Bytes) (name : Bytes) : Option Bytes :=
  if fields.contains name then some name
  else fields.find? fun field => foldedName field == foldedName name

/-! ## Findings -/

/-- Where in a record a value was to go: the innermost record's type and the names that lead to it
from the top. -/
structure Target where
  record : Bytes
  path : List Bytes
deriving Repr, DecidableEq

/-- What is wrong with a member. -/
inductive Finding where
  /-- A value of the wrong type: what was found, where it was to go and the type wanted there. -/
  | mismatch (found : Bytes) (target : Option Target) (wanted : Bytes)
  /-- A member that names no field, where that is not allowed. -/
  | unknownField (name : Bytes)
deriving Repr, DecidableEq

/-- The message of a finding. -/
def Finding.message : Finding → Bytes
  | .mismatch found (some target) wanted =>
    bytes "json: cannot unmarshal " ++ found ++ bytes " into Go struct field " ++ target.record
      ++ bytes "." ++ Bytes.joined (bytes ".") target.path ++ bytes " of type " ++ wanted
  | .mismatch found none wanted =>
    bytes "json: cannot unmarshal " ++ found ++ bytes " into Go value of type " ++ wanted
  | .unknownField name => bytes "json: unknown field " ++ Quoted.quote name

/-- The word for the type of a value in findings. -/
def typeWord : Json → Bytes
  | .null => bytes "null"
  | .bool _ => bytes "bool"
  | .number _ => bytes "number"
  | .string _ => bytes "string"
  | .array _ => bytes "array"
  | .object _ => bytes "object"

/-- A value that was read, with the first finding on the way. -/
structure Reading (α : Type) where
  value : α
  finding : Option Finding

/-- The finding for a value of the wrong type. -/
def wrongType (value : Json) (target : Option Target) (wanted : Bytes) : Finding :=
  .mismatch value.typeWord target wanted

/-- Read a text field whose type is called `wanted`. `null` leaves the old text. -/
def readTextAs (wanted old : Bytes) (target : Target) (value : Json) : Reading Bytes :=
  match value with
  | .string written => ⟨unquoted written, none⟩
  | .null => ⟨old, none⟩
  | other => ⟨old, some (wrongType other (some target) wanted)⟩

/-- Read a text field. `null` leaves the old text. -/
def readText (old : Bytes) (target : Target) (value : Json) : Reading Bytes :=
  readTextAs (bytes "string") old target value

/-- The integer of a literal without fraction and exponent, in the range of 64 bits. -/
def int64? (literal : Bytes) : Option Int :=
  let (negative, digits) := match literal with
    | 0x2D :: digits => (true, digits)
    | digits => (false, digits)
  match Decimal.toNat? digits with
  | none => none
  | some n =>
    if negative then if n ≤ Word.half then some (-(n : Int)) else none
    else if n < Word.half then some n else none

/-- Read a field of integers; `onNull` is what `null` makes of it. -/
def readInt {α : Type} (onNull old : α) (ofInt : Int → α) (target : Target) (value : Json) :
    Reading α :=
  match value with
  | .null => ⟨onNull, none⟩
  | .number literal =>
    match int64? literal with
    | some n => ⟨ofInt n, none⟩
    | none => ⟨old, some (.mismatch (bytes "number " ++ literal) (some target) (bytes "int"))⟩
  | other => ⟨old, some (wrongType other (some target) (bytes "int"))⟩

end Json

end FunctionChain
