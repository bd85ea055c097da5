import FunctionChain.Text.Bytes

/-!
# Shell scripts

Compilers and compiled programs may be shell scripts. This file has their syntax tree: words made of
literal text and expansions, and commands made of words.
-/

namespace FunctionChain

namespace Script

mutual

/-- A part of a word. What is quoted is neither split nor taken for a pattern. -/
inductive Part where
  | literal (quoted : Bool) (text : Bytes)
  /-- The value of a parameter. -/
  | parameter (quoted : Bool) (name : Bytes) (use : Use)
  /-- The output of commands. -/
  | output (quoted : Bool) (body : List Command)
  /-- The value of an arithmetic expression. -/
  | sum (quoted : Bool) (expression : List Part)

/-- What is made of a parameter. `orEmpty` treats an empty value like a missing one. -/
inductive Use where
  /-- Something that cannot be made of a parameter. -/
  | flawed
  | value
  | length
  /-- The word in place of a missing value. -/
  | default (orEmpty : Bool) (word : List Part)
  /-- The word, given to the parameter, in place of a missing value. -/
  | assign (orEmpty : Bool) (word : List Part)
  /-- The word in place of a value that is there. -/
  | alternative (orEmpty : Bool) (word : List Part)
  /-- A complaint with the word in place of a missing value. -/
  | require (orEmpty : Bool) (word : List Part)
  /-- The value without its beginning or its end that matches. -/
  | trim (atEnd longest : Bool) (pattern : List Part)

/-- Where a command reads or writes instead. -/
inductive Redirect where
  | read (descriptor : Nat) (word : List Part)
  | write (descriptor : Nat) (append : Bool) (word : List Part)
  | duplicate (descriptor : Nat) (word : List Part)
  /-- The text that is read stands in the script itself. -/
  | here (text : List Part)

/-- A command. -/
inductive Command where
  | simple (line : Nat) (assignments : List (Bytes × List Part)) (words : List (List Part))
      (redirects : List Redirect)
  /-- Commands that pass on their output to the next. -/
  | pipe (negated : Bool) (stages : List Command)
  | both (first second : Command)
  | either (first second : Command)
  | choose (arms : List (List Command × List Command)) (otherwise : List Command)
  | loop (isUntil : Bool) (test body : List Command)
  | each (name : Bytes) (words : Option (List (List Part))) (body : List Command)
  | select (word : List Part) (arms : List (List (List Part) × List Command))
  | group (isolated : Bool) (body : List Command)
  | redirected (line : Nat) (body : Command) (redirects : List Redirect)
  | define (name : Bytes) (body : Command)
  /-- A command that the next does not wait for. -/
  | background (body : Command)

end

/-- A word. -/
abbrev Word := List Part

end Script

end FunctionChain
