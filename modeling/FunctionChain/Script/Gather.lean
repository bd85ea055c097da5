import FunctionChain.Script.Utility

/-!
# Input as arguments

The program `xargs` runs another program with the words of its input as arguments: all of them at once, some
at a time, or each line in the place of a mark.
-/

namespace FunctionChain

namespace Script

namespace Gather

/-- How arguments are gathered, and for what. -/
structure Call where
  /-- The most words for one run. -/
  size : Option Nat
  /-- The mark that stands for a line. -/
  mark : Option Bytes
  /-- Whether null bytes separate words, and nothing else does. -/
  byNull : Bool
  /-- Whether nothing is run without words. -/
  skipsEmpty : Bool
  command : List Bytes

/-- Read the arguments of the program, up to the other program. -/
def callFrom : Nat → Call → List Bytes → Call
  | 0, call, _ => call
  | fuel + 1, call, words =>
    match words with
    | [] => call
    | word :: rest =>
      let valued (letter : Char) : Option (Bytes × List Bytes) :=
        match Bytes.after? word [byte '-', byte letter] with
        | none => none
        | some [] => some (rest.headD [], rest.tail)
        | some value => some (value, rest)
      match valued 'n', valued 'I', valued 'P' with
      | some (value, rest), _, _ => callFrom fuel { call with size := Decimal.toNat? value } rest
      | none, some (value, rest), _ => callFrom fuel { call with mark := some value } rest
      | none, none, some (_, rest) => callFrom fuel call rest
      | none, none, none =>
        if word == bytes "-0" then callFrom fuel { call with byNull := true } rest
        else if word == bytes "-r" then callFrom fuel { call with skipsEmpty := true } rest
        else if word == bytes "--" then { call with command := rest }
        else if word.head? == some (byte '-') then callFrom fuel call rest
        else { call with command := words }

/-- Read the arguments of the program. -/
def call (words : List Bytes) : Call :=
  callFrom (words.length + 1) ⟨none, none, false, false, []⟩ words

/-- The words of a text, with the word at hand in reverse, if there is one, and the quote that is open. -/
def wordsFrom : Option Bytes → Option UInt8 → Bytes → Except Bytes (List Bytes)
  | word, none, [] => .ok (word.map List.reverse).toList
  | _, some mark, [] =>
    .error (bytes "unmatched " ++ (if mark == byte '\'' then bytes "single" else bytes "double")
      ++ bytes " quote; by default quotes are special to xargs unless you use the -0 option")
  | word, some mark, b :: rest =>
    if b == mark then wordsFrom word none rest else wordsFrom (some (b :: word.getD [])) (some mark) rest
  | word, none, 0x5C :: b :: rest => wordsFrom (some (b :: word.getD [])) none rest
  | word, none, b :: rest =>
    if b == byte '\'' || b == byte '"' then wordsFrom (some (word.getD [])) (some b) rest
    else if Numeral.isSpace b then do
      let more ← wordsFrom none none rest
      .ok ((word.map List.reverse).toList ++ more)
    else wordsFrom (some (b :: word.getD [])) none rest

/-- Words in groups of a size. The fuel is their number. -/
def grouped (size : Nat) : Nat → List Bytes → List (List Bytes)
  | 0, _ => []
  | fuel + 1, words =>
    if words.isEmpty then [] else words.take size :: grouped size fuel (words.drop size)

/-- The commands that are run for an input. -/
def Call.commands (call : Call) (input : Bytes) : Except Bytes (List (List Bytes)) := do
  let command := if call.command.isEmpty then [bytes "echo"] else call.command
  match call.mark with
  | some mark =>
    let lines := ((Bytes.splitOn input 10).map fun line => line.dropWhile Numeral.isSpace).filter
      (!·.isEmpty)
    return lines.map fun line => command.map fun word => word.replaceAll mark line
  | none =>
    let words ← if call.byNull then
        let parts := Bytes.splitOn input 0
        .ok (if parts.getLast? == some [] then parts.dropLast else parts)
      else wordsFrom none none input
    if words.isEmpty then return if call.skipsEmpty then [] else [command]
    return (grouped (max 1 (call.size.getD words.length)) words.length words).map (command ++ ·)

end Gather

end Script

end FunctionChain
