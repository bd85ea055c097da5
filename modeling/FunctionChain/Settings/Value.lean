import FunctionChain.Text.Blank
import FunctionChain.Text.Double
import FunctionChain.Text.Integer
import FunctionChain.Text.LetterCase
import FunctionChain.Time.Timestamp

/-!
# Values of settings

A setting gets its value from a configuration file or from a variable of the environment, and is then
read as the kind of value that the setting has. Reading never fails: a value that does not fit counts as
nothing, zero or no.
-/

namespace FunctionChain

namespace Settings

/-- A value of a configuration. -/
inductive Value where
  | null
  | truth (b : Bool)
  /-- An integer. In some formats integers may also stand for truth values. -/
  | integer (n : Int) (countsAsTruth : Bool)
  /-- An integer that has no sign and needs all bits of a word. -/
  | word (n : Nat)
  | number (x : Double)
  | moment (time : Timestamp)
  | text (t : Bytes)
  | list (items : List Value)
  | table (entries : List (Bytes × Value))
  /-- A table whose names are values themselves. -/
  | mapping (entries : List (Value × Value))

namespace Value

/-- The text of a value, if it is simple. -/
def toText? : Value → Option Bytes
  | .null => some []
  | .truth b => some (if b then bytes "true" else bytes "false")
  | .integer n _ => some (Decimal.ofInt n)
  | .word n => some (Decimal.ofInt (Word.signed n))
  | .number x => some x.text
  | .moment time => some time.plainText
  | .text t => some t
  | .list _ | .table _ | .mapping _ => none

/-- A value read as a text. -/
def toText (value : Value) : Bytes := value.toText?.getD []

/-- A value read as a list of texts. A text is split at white space. -/
def toList : Value → List Bytes
  | .list items => items.map toText
  | .text t => Blank.words t
  | value => value.toText?.toList

/-- A value read as an integer. -/
def toInt : Value → Int
  | .truth b => if b then 1 else 0
  | .integer n _ => n
  | .word n => Word.signed n
  | .number x => x.truncated
  | .text t => (Integer.read t).toOption.getD 0
  | .null | .moment _ | .list _ | .table _ | .mapping _ => 0

/-- A value read as a truth value. -/
def toBool : Value → Bool
  | .truth b => b
  | .integer n countsAsTruth => countsAsTruth && n != 0
  | .text t => (Truth.read? t).getD false
  | .null | .word _ | .number _ | .moment _ | .list _ | .table _ | .mapping _ => false

/-- Whether a text has a letter of a unit of time in it. -/
def mentionsUnit (t : Bytes) : Bool :=
  (Utf8.pieces t).any fun piece => ((Utf8.pieces (bytes "nsuµmh")).map (·.bytes)).contains piece.bytes

/-- A value read as a duration. A number without unit counts nanoseconds. -/
def toDuration : Value → Duration
  | .integer n _ => n
  | .word n => Word.signed n
  | .number x => x.truncated
  | .text t =>
    (Duration.read (if mentionsUnit t then t else t ++ bytes "ns")).toOption.getD 0
  | .null | .truth _ | .moment _ | .list _ | .table _ | .mapping _ => 0

end Value

/-- The settings of a configuration file, by name. -/
abbrev Table := List (Bytes × Value)

/-- The value of a name in a table, in which the last one counts. -/
def Table.last? (table : Table) (isName : Bytes → Bool) : Option Value :=
  (table.reverse.find? fun (other, _) => isName other).map (·.2)

/-- The value of a setting in a table. A name is also found in other letter case, and one in other letter
case counts before the name itself. Null is no value. -/
def Table.find? (table : Table) (name : Bytes) : Option Value :=
  let found := (table.last? fun other => other != name && LetterCase.isInAnyCase other name).or
    (table.last? (· == name))
  match found with
  | some .null | none => none
  | some value => some value

end Settings

end FunctionChain
