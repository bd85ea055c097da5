import FunctionChain.Json.Decode
import FunctionChain.Json.Scan
import FunctionChain.Settings.Value

/-!
# Configuration in JSON

The file holds one object and nothing else. Its numbers are numbers of double precision.
-/

namespace FunctionChain

namespace Settings

namespace JsonFile

/-- Why a text is no configuration. -/
inductive Problem where
  | badByte (fault : Json.Fault)
  | truncated
  /-- There is something after the value. -/
  | surplus (found : UInt8)
  /-- The value is no object. -/
  | wrongType (word : Bytes)
  /-- A number beyond all numbers. -/
  | tooLarge (literal : Bytes)
deriving Repr, DecidableEq

/-- The message of a problem. -/
def Problem.message : Problem → Bytes
  | .badByte fault => fault.message
  | .truncated => bytes "unexpected end of JSON input"
  | .surplus found =>
    bytes "invalid character " ++ Quoted.quoteByte found ++ bytes " after top-level value"
  | .wrongType word =>
    bytes "json: cannot unmarshal " ++ word
      ++ bytes " into Go value of type map[string]interface \x7b\x7d"
  | .tooLarge literal =>
    bytes "json: cannot unmarshal number " ++ literal ++ bytes " into Go value of type float64"

mutual

/-- The value of a JSON value. -/
def valueOf : Json → Value
  | .null => .null
  | .bool b => .truth b
  | .number literal => .number ((Double.ofLiteral? literal).getD .notANumber)
  | .string written => .text (Json.unquoted written)
  | .array items => .list (valuesOf items)
  | .object members => .table (tableOf members)

/-- The values of several JSON values. -/
def valuesOf : List Json → List Value
  | [] => []
  | item :: rest => valueOf item :: valuesOf rest

/-- The table of an object's members. -/
def tableOf : List (Bytes × Json) → Table
  | [] => []
  | (name, value) :: rest => (Json.unquoted name, valueOf value) :: tableOf rest

end

mutual

/-- The first number of a value that is beyond all numbers. -/
def tooLarge? : Json → Option Bytes
  | .number literal =>
    match Double.ofLiteral? literal with
    | some (.infinite _) => some literal
    | _ => none
  | .array items => tooLargeIn? items
  | .object members => tooLargeAmong? members
  | .null | .bool _ | .string _ => none

/-- The first such number in several values. -/
def tooLargeIn? : List Json → Option Bytes
  | [] => none
  | item :: rest => (tooLarge? item).or (tooLargeIn? rest)

/-- The first such number in the values of members. -/
def tooLargeAmong? : List (Bytes × Json) → Option Bytes
  | [] => none
  | (_, value) :: rest => (tooLarge? value).or (tooLargeAmong? rest)

end

/-- The table of a value that is one. Null is the empty table. -/
def ofValue : Json → Except Problem Table
  | .null => .ok []
  | .object members =>
    match tooLargeAmong? members with
    | some literal => .error (.tooLarge literal)
    | none => .ok (tableOf members)
  | value => .error (.wrongType (Json.typeWord value))

/-- What is wrong with a text that ends early: a blank after it may be a fault where something else has to
follow. -/
def endProblem (text : Bytes) : Problem :=
  match Json.scan (text ++ [0x20]) with
  | .fault fault => .badByte fault
  | _ => .truncated

/-- Read a configuration. -/
def read (text : Bytes) : Except Problem Table :=
  match Json.scan text with
  | .blank | .truncated => .error (endProblem text)
  | .fault fault => .error (.badByte fault)
  | .value value rest =>
    match rest.dropWhile Json.isSpace with
    | [] => ofValue value
    | found :: _ => .error (.surplus found)

end JsonFile

end Settings

end FunctionChain
