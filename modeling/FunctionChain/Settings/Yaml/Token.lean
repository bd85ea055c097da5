import FunctionChain.Settings.Character
import FunctionChain.Settings.Yaml.Source

/-!
# Tokens of YAML

A text is cut into tokens. Some of them stand for characters of the text, others for what only the layout
says: that a sequence or a mapping begins or ends where the indentation changes, and that what follows is
the name of an entry.
-/

namespace FunctionChain

namespace Settings

namespace Yaml

/-- A place in a text: how many characters are before it, and its line and column from zero. -/
structure Mark where
  index : Nat
  line : Nat
  column : Nat
deriving Repr, DecidableEq

/-- What a token is. -/
inductive TokenBody where
  | streamStart
  | streamEnd
  | version (major minor : Nat)
  /-- A handle of tags and what it stands for. -/
  | handle (name start : Bytes)
  | documentStart
  | documentEnd
  | blockList
  | blockMap
  | blockEnd
  | flowList
  | flowListEnd
  | flowMap
  | flowMapEnd
  | item
  | comma
  | key
  | value
  | aliasOf (name : Bytes)
  | anchor (name : Bytes)
  | tag (handle suffix : Bytes)
  | scalar (text : Bytes) (isPlain : Bool)
deriving Repr, DecidableEq

/-- A token and the line on which it starts, from zero. -/
structure Token where
  line : Nat
  body : TokenBody
deriving Repr, DecidableEq

/-! ## Classes of characters

Behind the last character of a text stands the number zero, which is no character of any text. -/

/-- A blank inside a line. -/
def isBlank (c : Nat) : Bool := c == 0x20 || c == 9

/-- Whether a character ends a line. -/
def isBreak (c : Nat) : Bool := c == 10 || c == 13 || c == 0x85 || c == 0x2028 || c == 0x2029

/-- Whether a line or the text ends. -/
def isBreakOrEnd (c : Nat) : Bool := isBreak c || c == 0

/-- Whether a character ends a word. -/
def isGap (c : Nat) : Bool := isBlank c || isBreakOrEnd c

/-- Whether a character may stand in a name. -/
def isNameCharacter (c : Nat) : Bool :=
  isDigit c || (code 'a' ≤ c && c ≤ code 'z') || (code 'A' ≤ c && c ≤ code 'Z') || c == code '_'
    || c == code '-'

/-- The characters besides those of names that may stand in a tag. -/
def tagMarks : List Nat := codes ";/?:@&=+$,.!~*\'()[]%"

/-- The characters that may follow a name of an anchor without a gap. -/
def anchorEnds : List Nat := codes "?:,]\x7d%@`"

/-- The characters that start a plain scalar only in special cases or never. -/
def indicators : List Nat := codes "-?:,[]\x7b\x7d#&*!|>\'\"%@`"

/-- The characters that end a plain scalar in a flow collection. -/
def flowEnds : List Nat := codes ",?[]\x7b\x7d"

end Yaml

end Settings

end FunctionChain
