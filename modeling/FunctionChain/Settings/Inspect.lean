import FunctionChain.Settings.Value
import FunctionChain.Text.Quoted

/-!
# Values in messages

A message about a value that stands where it cannot be shows the value in full, with the types of its
lists and tables.
-/

namespace FunctionChain

namespace Settings

namespace Value

/-- The type of lists. -/
def listType : Bytes := bytes "[]interface \x7b\x7d"

/-- The type of tables whose names are values. -/
def mappingType : Bytes := bytes "map[interface \x7b\x7d]interface \x7b\x7d"

/-- The type of tables. -/
def tableType : Bytes := bytes "map[string]interface \x7b\x7d"

/-- Parts in braces with commas between them. -/
def braced (parts : List Bytes) : Bytes := bytes "\x7b" ++ Bytes.joined (bytes ", ") parts ++ bytes "\x7d"

/-- A number in hexadecimal digits, without zeros before it. -/
def hexText (n : Nat) : Bytes :=
  bytes "0x" ++ (match (Hex.padded n 16).dropWhile (· == byte '0') with
    | [] => bytes "0"
    | digits => digits)

/-- The rank of a value's type among names of one table. -/
def rank : Value → Nat
  | .null => 0
  | .truth _ => 1
  | .number _ => 2
  | .integer .. => 3
  | .text _ => 4
  | .word _ => 5
  | .moment _ => 6
  | .list _ | .table _ | .mapping _ => 7

/-- Whether a text stands before another one in order of bytes, or is the same. -/
def textLe : Bytes → Bytes → Bool
  | [], _ => true
  | _ :: _, [] => false
  | a :: as, b :: bs => a < b || (a == b && textLe as bs)

/-- Whether a number is at most another one. What is not a number stands before all. -/
def numberLe : Double → Double → Bool
  | .notANumber, _ => true
  | _, .notANumber => false
  | .infinite isNegative, other =>
    isNegative || (match other with
      | .infinite otherNegative => !otherNegative
      | _ => false)
  | .finite .., .infinite isNegative => !isNegative
  | .finite aNegative a p, .finite bNegative b q =>
    let (an, ad) := Double.quotient a p
    let (bn, bd) := Double.quotient b q
    let signed (isNegative : Bool) (n : Nat) : Int := if isNegative then -(n : Int) else n
    signed aNegative (an * bd) ≤ signed bNegative (bn * ad)

/-- The order in which the names of a table are shown: by type, and then by value. -/
def nameLe (a b : Value) : Bool :=
  if a.rank != b.rank then a.rank < b.rank
  else match a, b with
    | .truth x, .truth y => !x || y
    | .number x, .number y => numberLe x y
    | .integer x _, .integer y _ => x ≤ y
    | .text x, .text y => textLe x y
    | .word x, .word y => x ≤ y
    | _, _ => true

/-- Whether two names of a table are the same. -/
def isSameName (a b : Value) : Bool :=
  match a, b with
  | .null, .null => true
  | .truth x, .truth y => x == y
  | .number .notANumber, .number _ => false
  | .number x, .number y => numberLe x y && numberLe y x
  | .integer x _, .integer y _ => x == y
  | .text x, .text y => x == y
  | .word x, .word y => x == y
  | _, _ => false

mutual

/-- A value as messages show it, with a text for a list that holds nothing. -/
def shown (emptyList : Bytes) : Value → Bytes
  | .null => bytes "interface \x7b\x7d(nil)"
  | .truth b => if b then bytes "true" else bytes "false"
  | .integer n _ => Decimal.ofInt n
  | .word n => hexText n
  | .number x => x.generalText
  | .moment time =>
    bytes "time.Time" ++ braced [bytes "wall:" ++ hexText time.nanos,
      bytes "ext:" ++ Decimal.ofInt time.seconds, bytes "loc:(*time.Location)(nil)"]
  | .text t => Quoted.quote t
  | .list items => if items.isEmpty then emptyList else listType ++ braced (shownItems emptyList items)
  | .table entries => tableType ++ braced (shownEntries emptyList entries)
  | .mapping entries =>
    mappingType ++ braced (((shownPairs emptyList entries).mergeSort
      fun a b => nameLe a.1 b.1).map (·.2))

/-- Several values. -/
def shownItems (emptyList : Bytes) : List Value → List Bytes
  | [] => []
  | item :: rest => shown emptyList item :: shownItems emptyList rest

/-- The entries of a table. -/
def shownEntries (emptyList : Bytes) : List (Bytes × Value) → List Bytes
  | [] => []
  | (name, value) :: rest =>
    (Quoted.quote name ++ bytes ":" ++ shown emptyList value) :: shownEntries emptyList rest

/-- The entries of a table whose names are values, each with its name. -/
def shownPairs (emptyList : Bytes) : List (Value × Value) → List (Value × Bytes)
  | [] => []
  | (name, value) :: rest =>
    (name, shown emptyList name ++ bytes ":" ++ shown emptyList value)
      :: shownPairs emptyList rest

end

end Value

end Settings

end FunctionChain
