import FunctionChain.Settings.Character
import FunctionChain.Text.Letter
import FunctionChain.Text.Quoted

/-!
# Tokens of TOML

A text is cut into tokens, each with the place where it starts. Lines and columns count from one, columns
in characters. A text that cannot be cut any further ends with a token that says why.
-/

namespace FunctionChain

namespace Settings

namespace Toml

/-- A place in a text. -/
structure Place where
  line : Nat
  column : Nat
deriving Repr, DecidableEq

/-- The place as messages name it. -/
def Place.text (place : Place) : Bytes :=
  bytes "(" ++ Decimal.ofNat place.line ++ bytes ", " ++ Decimal.ofNat place.column ++ bytes ")"

/-- What a token is. -/
inductive TokenKind where
  | fault
  | finish
  | key
  | text
  | integer
  | yes
  | no
  | float
  | infinity
  | notANumber
  | equals
  | opening
  | closing
  | openingBrace
  | closingBrace
  | doubleOpening
  | doubleClosing
  | moment
  | tableName
  | tablesName
  | comma
deriving Repr, DecidableEq

/-- The word for a kind in messages. Those for the double brackets are exchanged. -/
def TokenKind.word : TokenKind → Bytes
  | .fault => bytes "Error"
  | .finish => bytes "EOF"
  | .key => bytes "Key"
  | .text => bytes "String"
  | .integer => bytes "Integer"
  | .yes => bytes "True"
  | .no => bytes "False"
  | .float => bytes "Float"
  | .infinity => bytes "Inf"
  | .notANumber => bytes "NaN"
  | .equals => bytes "="
  | .opening => bytes "["
  | .closing => bytes "]"
  | .openingBrace => bytes "\x7b"
  | .closingBrace => bytes "\x7d"
  | .doubleOpening => bytes "]]"
  | .doubleClosing => bytes "[["
  | .moment => bytes "Date"
  | .tableName => bytes "KeyGroup"
  | .tablesName => bytes "KeyGroupArray"
  | .comma => bytes ","

/-- A token: where it starts, what it is, and its text, which for some kinds is not the one that was
written. -/
structure Token where
  place : Place
  kind : TokenKind
  text : Bytes
deriving Repr, DecidableEq

/-- The token as messages show it. -/
def Token.shown (token : Token) : Bytes :=
  match token.kind with
  | .finish => bytes "EOF"
  | .fault => token.text
  | _ => Quoted.quote token.text

/-! ## Classes of characters -/

/-- A blank inside a line. -/
def isGap (c : Nat) : Bool := c == 0x20 || c == 9

/-- Whether a character may start a name or a bare value. -/
def isWordStart (c : Nat) : Bool := Letter.isLetter c || c == code '_'

/-- Whether a character may stand in a bare name. -/
def isBare (c : Nat) : Bool := isWordStart c || c == code '-' || Letter.isNumeral c

end Toml

end Settings

end FunctionChain
