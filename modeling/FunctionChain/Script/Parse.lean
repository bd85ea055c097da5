import FunctionChain.Script.Syntax
import FunctionChain.Text.Decimal

/-!
# Reading shell scripts

A reader of scripts by recursive descent over the bytes. Every reader takes the text and gives back
what it has read with the rest of the text, or nothing when the text is no script. The first argument
bounds the depth of the descent; the length of the text is always enough.
-/

namespace FunctionChain

namespace Script

/-! ## Bytes -/

def newline : UInt8 := 10
def dollar : UInt8 := byte '$'
def backslash : UInt8 := 0x5C
def doubleQuote : UInt8 := 0x22
def singleQuote : UInt8 := 0x27
def backquote : UInt8 := 0x60

/-- Whether a byte is a blank between words of one line. -/
def isGap (b : UInt8) : Bool := b == byte ' ' || b == 9

/-- Whether a byte ends a word when it is not quoted. -/
def endsWord (b : UInt8) : Bool :=
  isGap b || b == newline || b == byte ';' || b == byte '&' || b == byte '|' || b == byte '<'
    || b == byte '>' || b == byte '(' || b == byte ')'

/-- Whether a byte can start a name. -/
def startsName (b : UInt8) : Bool := Bytes.isUpper b || Bytes.isLower b || b == byte '_'

/-- Whether a byte can stand in a name. -/
def inName (b : UInt8) : Bool := startsName b || Bytes.isDigit b

/-- Whether a byte is the name of a parameter that the shell keeps itself. -/
def isSpecial (b : UInt8) : Bool :=
  b == byte '@' || b == byte '*' || b == byte '#' || b == byte '?' || b == byte '$'
    || b == byte '!' || b == byte '-' || Bytes.isDigit b

/-- Skip blanks, joined lines and a comment. -/
def skipGap : Bytes → Bytes
  | 0x5C :: 10 :: rest => skipGap rest
  | b :: rest =>
    if isGap b then skipGap rest
    else if b == byte '#' then rest.dropWhile (· != newline)
    else b :: rest
  | [] => []

/-- Skip blanks, comments and line ends. `fuel` is the length of the text. -/
def skipLinesWithin : Nat → Bytes → Bytes
  | 0, text => text
  | fuel + 1, text =>
    match skipGap text with
    | 10 :: rest => skipLinesWithin fuel rest
    | rest => rest

/-- Skip blanks, comments and line ends. -/
def skipLines (text : Bytes) : Bytes := skipLinesWithin text.length text

/-- The word at the start of the text, as far as it is plain. -/
def leadingWord (text : Bytes) : Bytes := text.takeWhile (!endsWord ·)

/-- Take a reserved word off the text. -/
def expectWord (word : Bytes) (text : Bytes) : Option Bytes :=
  let text := skipLines text
  if leadingWord text == word then some (text.drop word.length) else none

/-- Words that close a list of commands. -/
def closers : List Bytes :=
  [bytes "then", bytes "do", bytes "done", bytes "fi", bytes "else", bytes "elif", bytes "esac",
    [0x7D]]

/-! ## Words -/

/-- Where a run of parts stands: as a word of a command, between double quotes, as a text for a command to
read, in braces, or in an arithmetic expression with some open parentheses. -/
inductive Place where
  | word
  | quotes
  | text
  | braces (quoted : Bool)
  | sum (depth : Nat)

/-- Whether all that stands there counts as quoted. -/
def Place.isQuoted : Place → Bool
  | .word => false
  | .quotes | .text => true
  | .braces quoted => quoted
  | .sum _ => true

/-- Whether single and double quotes have their meaning there. -/
def Place.hasQuotes : Place → Bool
  | .word => true
  | .quotes | .text => false
  | .braces quoted => !quoted
  | .sum _ => false

/-- Whether a double quote starts quoted text there. -/
def Place.opensQuotes : Place → Bool
  | .word | .braces _ => true
  | .quotes | .text | .sum _ => false

/-- Whether a byte is nothing but itself there. -/
def Place.isPlain (place : Place) (b : UInt8) : Bool :=
  b != dollar && b != backslash && b != backquote && match place with
    | .word => b != doubleQuote && b != singleQuote && !endsWord b
    | .quotes => b != doubleQuote
    | .text => true
    | .braces quoted => b != 0x7D && b != doubleQuote && (quoted || b != singleQuote)
    | .sum _ => b != byte '(' && b != byte ')'

/-- Whether a backslash takes the meaning of the byte after it there. -/
def Place.escapes (place : Place) (b : UInt8) : Bool :=
  !place.isQuoted || b == dollar || b == backquote || b == backslash || match place with
    | .text => false
    | _ => b == doubleQuote

/-- The text of a backquoted command, and the rest. -/
def backquoted : Bytes → Bytes → Option (Bytes × Bytes)
  | _, [] => none
  | done, 0x5C :: b :: rest =>
    if b == backslash || b == backquote || b == dollar then backquoted (b :: done) rest
    else backquoted (b :: backslash :: done) rest
  | done, b :: rest => if b == backquote then some (done.reverse, rest)
    else backquoted (b :: done) rest

/-- The name of a parameter at the start of the text. -/
def parameterName (text : Bytes) : Option (Bytes × Bytes) :=
  match text with
  | [] => none
  | b :: rest =>
    if startsName b then some (text.takeWhile inName, text.dropWhile inName)
    else if Bytes.isDigit b then some (text.takeWhile Bytes.isDigit, text.dropWhile Bytes.isDigit)
    else if isSpecial b then some ([b], rest)
    else none

/-- An assignment at the start of a word: the name, and the text of the value. -/
def assignmentName (text : Bytes) : Option (Bytes × Bytes) :=
  let name := text.takeWhile inName
  match name, text.drop name.length with
  | b :: _, 0x3D :: rest => if startsName b then some (name, rest) else none
  | _, _ => none

/-- The number of lines that are left. -/
def linesLeft (text : Bytes) : Nat := text.count newline

/-! ## Texts in scripts -/

/-- What is known of a script while it is read. -/
structure Source where
  /-- The number of its lines. -/
  lines : Nat
  /-- The texts in it for commands to read, and whether each is taken as it is. -/
  texts : List (Bool × Bytes)

/-- A text that is to follow: the line that ends it, whether it is taken as it is, and whether tabulators at
the beginning of its lines are dropped. -/
structure Announced where
  ending : Bytes
  isPlain : Bool
  dropsTabs : Bool

/-- What kind of text a scan is in. -/
inductive Region where
  | plain
  | single
  | double
  | comment
  | sum

/-- A scan that takes the texts for commands out of a script. -/
structure Hoisting where
  /-- The script without them, the latest byte first. -/
  done : Bytes
  /-- The texts, the latest first. -/
  texts : List (Bool × Bytes)
  announced : List Announced

/-- The word that ends a text, without its quotes, whether it has any, and what follows it. -/
def endingWord : Bytes → Bool → Bytes → Bytes × Bool × Bytes
  | done, quoted, [] => (done.reverse, quoted, [])
  | done, quoted, b :: rest =>
    if endsWord b then (done.reverse, quoted, b :: rest)
    else if b == singleQuote || b == doubleQuote || b == backslash then endingWord done true rest
    else endingWord (b :: done) quoted rest

/-- The lines up to the one that ends a text, the number of lines with it, and what follows. `fuel` is the
length of the text. -/
def takeText (announced : Announced) : Nat → Bytes → Nat → Bytes → Bytes × Nat × Bytes
  | 0, done, count, text => (done, count, text)
  | fuel + 1, done, count, text =>
    let line := text.takeWhile (· != newline)
    let rest := text.drop (line.length + 1)
    let line := if announced.dropsTabs then line.dropWhile (· == 9) else line
    if text.isEmpty then (done, count, [])
    else if line == announced.ending then (done, count + 1, rest)
    else takeText announced fuel (done ++ line ++ [newline]) (count + 1) rest

/-- Take the announced texts, which start here. -/
def Hoisting.takeAll (hoisting : Hoisting) (text : Bytes) : Hoisting × Bytes :=
  hoisting.announced.foldl (fun (hoisting, text) announced =>
    let (taken, count, rest) := takeText announced (text.length + 1) [] 0 text
    ({ hoisting with
      done := List.replicate count newline ++ hoisting.done
      texts := (announced.isPlain, taken) :: hoisting.texts }, rest))
    ({ hoisting with announced := [] }, text)

/-- Add a byte to the script. -/
def Hoisting.push (hoisting : Hoisting) (b : UInt8) : Hoisting :=
  { hoisting with done := b :: hoisting.done }

/-- Whether a comment may start here. -/
def Hoisting.isAtWord (hoisting : Hoisting) : Bool := hoisting.done.head?.all endsWord

/-- Take the texts for commands out of a script. Each leaves its number behind the sign for input. `fuel`
is twice the length of the script and more. -/
def hoist : Nat → Region → Hoisting → Bytes → Hoisting
  | 0, _, hoisting, _ => hoisting
  | _, _, hoisting, [] => hoisting
  | fuel + 1, region, hoisting, b :: rest =>
    let go (region : Region) := hoist fuel region (hoisting.push b) rest
    match region with
    | .single => go (if b == singleQuote then .plain else .single)
    | .comment =>
      if b == newline then hoist fuel .plain hoisting (b :: rest) else go .comment
    | .double =>
      match rest with
      | c :: after =>
        if b == backslash then hoist fuel .double ((hoisting.push b).push c) after
        else go (if b == doubleQuote then .plain else .double)
      | [] => go .plain
    | .sum =>
      match rest with
      | 0x29 :: after =>
        if b == byte ')' then hoist fuel .plain ((hoisting.push b).push 0x29) after else go .sum
      | _ => go .sum
    | .plain =>
      if b == singleQuote then go .single
      else if b == doubleQuote then go .double
      else if b == byte '#' && hoisting.isAtWord then go .comment
      else if b == newline then
        let (hoisting, rest) := (hoisting.push b).takeAll rest
        hoist fuel .plain hoisting rest
      else match b, rest with
        | 0x5C, c :: after => hoist fuel .plain ((hoisting.push b).push c) after
        | 0x24, 0x28 :: 0x28 :: after =>
          hoist fuel .sum (((hoisting.push b).push 0x28).push 0x28) after
        | 0x3C, 0x3C :: after =>
          let (dropsTabs, after) := match after with
            | 0x2D :: after => (true, after)
            | _ => (false, after)
          let (ending, isPlain, after) := endingWord [] false (after.dropWhile isGap)
          if ending.isEmpty && !isPlain then
            hoist fuel .plain ((hoisting.push b).push 0x3C) (rest.drop 1)
          else
          let number := hoisting.texts.length + hoisting.announced.length
          let mark := 0x3C :: 0x01 :: Decimal.ofNat number ++ [0x01]
          hoist fuel .plain { hoisting with
            done := mark.reverse ++ hoisting.done
            announced := hoisting.announced ++ [⟨ending, isPlain, dropsTabs⟩] } after
        | _, _ => go .plain

/-! ## Commands -/

mutual

/-- The parts of a word up to its end. -/
def parts (source : Source) : Nat → Place → Bytes → Option (List Part × Bytes)
  | 0, _, _ => none
  | n + 1, place, text =>
    match text with
    | [] => match place with
      | .word | .text => some ([], [])
      | _ => none
    | b :: rest =>
      if place.isPlain b then do
        let (more, left) ← parts source n place (text.dropWhile place.isPlain)
        some (.literal place.isQuoted (text.takeWhile place.isPlain) :: more, left)
      else if b == singleQuote && place.hasQuotes then
        match rest.dropWhile (· != singleQuote) with
        | [] => none
        | _ :: after => do
          let (more, left) ← parts source n place after
          some (.literal true (rest.takeWhile (· != singleQuote)) :: more, left)
      else if b == doubleQuote && place.opensQuotes then
        match parts source n .quotes rest with
        | some (inner, _ :: after) => do
          let (more, left) ← parts source n place after
          some (.literal true [] :: inner ++ more, left)
        | _ => none
      else if b == backslash then
        match rest with
        | [] => some ([.literal true [backslash]], [])
        | c :: after => do
          let (more, left) ← parts source n place after
          if c == newline then some (more, left)
          else if place.escapes c then some (.literal true [c] :: more, left)
          else some (.literal true [backslash, c] :: more, left)
      else if b == backquote then do
        let (inner, after) ← backquoted [] rest
        let (body, _) ← commands source n inner
        let (more, left) ← parts source n place after
        some (.output place.isQuoted body :: more, left)
      else if b == dollar then do
        let (part, after) ← expansion source n place.isQuoted rest
        let (more, left) ← parts source n place after
        some (part :: more, left)
      else match place with
        | .sum depth =>
          if b == byte '(' then do
            let (more, left) ← parts source n (.sum (depth + 1)) rest
            some (.literal true [b] :: more, left)
          else match depth with
            | 0 => some ([], text)
            | depth + 1 => do
              let (more, left) ← parts source n (.sum depth) rest
              some (.literal true [b] :: more, left)
        | _ => some ([], text)

/-- The expansion after a dollar sign. -/
def expansion (source : Source) : Nat → Bool → Bytes → Option (Part × Bytes)
  | 0, _, _ => none
  | n + 1, quoted, text =>
    match text with
    | 0x28 :: 0x28 :: rest =>
      match parts source n (.sum 0) rest with
      | some (expression, 0x29 :: 0x29 :: after) => some (.sum quoted expression, after)
      | _ => none
    | 0x28 :: rest =>
      match commands source n rest with
      | some (body, after) =>
        match skipLines after with
        | 0x29 :: after => some (.output quoted body, after)
        | _ => none
      | none => none
    | 0x7B :: 0x23 :: rest =>
      match parameterName rest with
      | some (name, 0x7D :: after) => some (.parameter quoted name .length, after)
      | _ => match rest with
        | 0x7D :: after => some (.parameter quoted (bytes "#") .value, after)
        | _ => (parts source n (.braces quoted) rest).map fun (_, after) =>
          (.parameter quoted [] .flawed, after.drop 1)
    | 0x7B :: rest =>
      let flawed : Option (Part × Bytes) :=
        (parts source n (.braces quoted) rest).map fun (_, after) =>
          (.parameter quoted [] .flawed, after.drop 1)
      match parameterName rest with
      | none => flawed
      | some (name, rest) =>
        match parameterUse source n quoted rest with
        | some (use, 0x7D :: after) => some (.parameter quoted name use, after)
        | _ => flawed
    | _ =>
      match parameterName text with
      | some (name, after) => some (.parameter quoted name .value, after)
      | none => some (.literal quoted [dollar], text)

/-- What stands in braces after the name of a parameter. -/
def parameterUse (source : Source) : Nat → Bool → Bytes → Option (Use × Bytes)
  | 0, _, _ => none
  | n + 1, quoted, text =>
    let withWord (make : List Part → Use) (rest : Bytes) : Option (Use × Bytes) :=
      (parts source n (.braces quoted) rest).map fun (word, after) => (make word, after)
    let withPattern (make : List Part → Use) (rest : Bytes) : Option (Use × Bytes) :=
      (parts source n (.braces false) rest).map fun (word, after) => (make word, after)
    match text with
    | 0x3A :: 0x2D :: rest => withWord (.default true) rest
    | 0x3A :: 0x3D :: rest => withWord (.assign true) rest
    | 0x3A :: 0x2B :: rest => withWord (.alternative true) rest
    | 0x3A :: 0x3F :: rest => withWord (.require true) rest
    | 0x2D :: rest => withWord (.default false) rest
    | 0x3D :: rest => withWord (.assign false) rest
    | 0x2B :: rest => withWord (.alternative false) rest
    | 0x3F :: rest => withWord (.require false) rest
    | 0x25 :: 0x25 :: rest => withPattern (.trim true true) rest
    | 0x25 :: rest => withPattern (.trim true false) rest
    | 0x23 :: 0x23 :: rest => withPattern (.trim false true) rest
    | 0x23 :: rest => withPattern (.trim false false) rest
    | _ => some (.value, text)

/-- A redirection, if there is one at the start of the text. -/
def redirect? (source : Source) : Nat → Bytes → Option (Option (Redirect × Bytes))
  | 0, _ => none
  | n + 1, text =>
    let (descriptor, rest) := match text with
      | d :: c :: _ =>
        if Bytes.isDigit d && (c == byte '<' || c == byte '>') then
          (some (d.toNat - 48), text.drop 1)
        else (none, text)
      | _ => (none, text)
    let target (rest : Bytes) : Option (List Part × Bytes) := parts source n .word (skipGap rest)
    match rest with
    | 0x3E :: 0x3E :: rest =>
      (target rest).map fun (word, after) => some (.write (descriptor.getD 1) true word, after)
    | 0x3E :: 0x26 :: rest =>
      (target rest).map fun (word, after) => some (.duplicate (descriptor.getD 1) word, after)
    | 0x3E :: 0x7C :: rest | 0x3E :: rest =>
      (target rest).map fun (word, after) => some (.write (descriptor.getD 1) false word, after)
    | 0x3C :: 0x01 :: rest => do
      let number ← Decimal.toNat? (rest.takeWhile Bytes.isDigit)
      let (isPlain, text) ← source.texts[number]?
      let after := (rest.dropWhile Bytes.isDigit).drop 1
      if isPlain then some (some (.here [.literal true text], after))
      else (parts source n .text text).map fun (text, _) => some (.here text, after)
    | 0x3C :: 0x26 :: rest =>
      (target rest).map fun (word, after) => some (.duplicate (descriptor.getD 0) word, after)
    | 0x3C :: rest =>
      (target rest).map fun (word, after) => some (.read (descriptor.getD 0) word, after)
    | _ => some none

/-- The redirections that follow a compound command. -/
def redirects (source : Source) : Nat → Bytes → Option (List Redirect × Bytes)
  | 0, _ => none
  | n + 1, text => do
    let text := skipGap text
    match ← redirect? source n text with
    | some (redirect, after) =>
      let (more, left) ← redirects source n after
      some (redirect :: more, left)
    | none => some ([], text)

/-- The words of a `for` loop up to the end of the line. -/
def words (source : Source) : Nat → Bytes → Option (List (List Part) × Bytes)
  | 0, _ => none
  | n + 1, text =>
    let text := skipGap text
    match text with
    | [] => some ([], [])
    | b :: _ =>
      if endsWord b then some ([], text)
      else do
        let (word, after) ← parts source n .word text
        let (more, left) ← words source n after
        some (word :: more, left)

/-- The rest of a simple command. -/
def simpleRest (source : Source) : Nat → Bytes →
    Option ((List (Bytes × List Part) × List (List Part) × List Redirect) × Bytes)
  | 0, _ => none
  | n + 1, text => do
    let text := skipGap text
    match ← redirect? source n text with
    | some (redirect, after) =>
      let ((assignments, words, redirects), left) ← simpleRest source n after
      some ((assignments, words, redirect :: redirects), left)
    | none =>
      match text with
      | [] => some (([], [], []), [])
      | b :: _ =>
        if endsWord b then some (([], [], []), text)
        else match assignmentName text with
          | some (name, value) =>
            let (word, after) ← parts source n .word value
            let ((assignments, words, redirects), left) ← simpleRest source n after
            some (((name, word) :: assignments, words, redirects), left)
          | none =>
            let (word, after) ← parts source n .word text
            let ((words, redirects), left) ← argumentRest source n after
            some (([], word :: words, redirects), left)

/-- The words after a command's name. -/
def argumentRest (source : Source) : Nat → Bytes →
    Option ((List (List Part) × List Redirect) × Bytes)
  | 0, _ => none
  | n + 1, text => do
    let text := skipGap text
    match ← redirect? source n text with
    | some (redirect, after) =>
      let ((words, redirects), left) ← argumentRest source n after
      some ((words, redirect :: redirects), left)
    | none =>
      match text with
      | [] => some (([], []), [])
      | b :: _ =>
        if endsWord b then some (([], []), text)
        else
          let (word, after) ← parts source n .word text
          let ((words, redirects), left) ← argumentRest source n after
          some ((word :: words, redirects), left)

/-- The arms of an `if` after its first word. -/
def arms (source : Source) : Nat → Bytes →
    Option ((List (List Command × List Command) × List Command) × Bytes)
  | 0, _ => none
  | n + 1, text => do
    let (test, text) ← commands source n text
    let text ← expectWord (bytes "then") text
    let (body, text) ← commands source n text
    match expectWord (bytes "elif") text with
    | some text =>
      let ((more, otherwise), left) ← arms source n text
      some (((test, body) :: more, otherwise), left)
    | none =>
      match expectWord (bytes "else") text with
      | some text =>
        let (otherwise, text) ← commands source n text
        let left ← expectWord (bytes "fi") text
        some (([(test, body)], otherwise), left)
      | none =>
        let left ← expectWord (bytes "fi") text
        some (([(test, body)], []), left)

/-- The patterns of an arm of a `case`. -/
def patterns (source : Source) : Nat → Bytes → Option (List (List Part) × Bytes)
  | 0, _ => none
  | n + 1, text => do
    let (word, after) ← parts source n .word (skipGap text)
    match skipGap after with
    | 0x7C :: after =>
      let (more, left) ← patterns source n after
      some (word :: more, left)
    | 0x29 :: left => some ([word], left)
    | _ => none

/-- The arms of a `case` up to its end. -/
def caseArms (source : Source) : Nat → Bytes →
    Option (List (List (List Part) × List Command) × Bytes)
  | 0, _ => none
  | n + 1, text =>
    let text := skipLines text
    match expectWord (bytes "esac") text with
    | some left => some ([], left)
    | none => do
      let text := match text with
        | 0x28 :: rest => rest
        | _ => text
      let (patterns, text) ← patterns source n text
      let (body, text) ← commands source n text
      match skipLines text with
      | 0x3B :: 0x3B :: rest =>
        let (more, left) ← caseArms source n rest
        some ((patterns, body) :: more, left)
      | text =>
        let left ← expectWord (bytes "esac") text
        some ([(patterns, body)], left)

/-- One command. -/
def command (source : Source) : Nat → Bytes → Option (Command × Bytes)
  | 0, _ => none
  | n + 1, text =>
    let text := skipLines text
    let word := leadingWord text
    let compound (found : Option (Command × Bytes)) : Option (Command × Bytes) := do
      let (body, after) ← found
      let (redirects, left) ← redirects source n after
      some (if redirects.isEmpty then body
        else .redirected (source.lines - linesLeft text + 1) body redirects, left)
    let after := text.drop word.length
    if word == bytes "if" then compound do
      let ((arms, otherwise), left) ← arms source n after
      some (.choose arms otherwise, left)
    else if word == bytes "while" || word == bytes "until" then compound do
      let (test, text) ← commands source n after
      let text ← expectWord (bytes "do") text
      let (body, text) ← commands source n text
      let left ← expectWord (bytes "done") text
      some (.loop (word == bytes "until") test body, left)
    else if word == bytes "for" then compound do
      let text := skipGap after
      let name := text.takeWhile inName
      let text := skipLines (text.drop name.length)
      let (items, text) ← match expectWord (bytes "in") text with
        | some text => (words source n text).map fun (items, text) => (some items, text)
        | none => some (none, text)
      let text := match skipGap text with
        | 0x3B :: rest => rest
        | rest => rest
      let text ← expectWord (bytes "do") text
      let (body, text) ← commands source n text
      let left ← expectWord (bytes "done") text
      some (.each name items body, left)
    else if word == bytes "case" then compound do
      let (subject, text) ← parts source n .word (skipGap after)
      let text ← expectWord (bytes "in") text
      let (arms, left) ← caseArms source n text
      some (.select subject arms, left)
    else if word == [0x7B] then compound do
      let (body, text) ← commands source n after
      let left ← expectWord [0x7D] text
      some (.group false body, left)
    else match text with
      | 0x28 :: rest => compound do
        let (body, text) ← commands source n rest
        match skipLines text with
        | 0x29 :: left => some (.group true body, left)
        | _ => none
      | _ =>
        match skipGap (text.dropWhile inName) with
        | 0x28 :: more =>
          match skipGap more, (text.takeWhile inName).isEmpty with
          | 0x29 :: rest, false => do
            let (body, left) ← command source n rest
            some (.define (text.takeWhile inName) body, left)
          | _, _ => none
        | _ => do
          let ((assignments, words, redirects), left) ← simpleRest source n text
          if assignments.isEmpty && words.isEmpty && redirects.isEmpty then none
          else some (.simple (source.lines - linesLeft text + 1) assignments words redirects, left)

/-- Commands between bars. -/
def stages (source : Source) : Nat → Bytes → Option (List Command × Bytes)
  | 0, _ => none
  | n + 1, text => do
    let (first, after) ← command source n text
    match skipGap after with
    | 0x7C :: 0x7C :: _ => some ([first], after)
    | 0x7C :: after =>
      let (more, left) ← stages source n after
      some (first :: more, left)
    | _ => some ([first], after)

/-- Commands between bars, perhaps with their outcome turned round. -/
def pipeline (source : Source) : Nat → Bytes → Option (Command × Bytes)
  | 0, _ => none
  | n + 1, text => do
    let text := skipLines text
    let negated := leadingWord text == bytes "!"
    let (stages, left) ← stages source n (if negated then text.drop 1 else text)
    match negated, stages with
    | false, [only] => some (only, left)
    | _, _ => some (.pipe negated stages, left)

/-- What follows a pipeline on its line, with `&&` and `||`. -/
def chain (source : Source) : Nat → Command → Bytes → Option (Command × Bytes)
  | 0, _, _ => none
  | n + 1, first, text =>
    match skipGap text with
    | 0x26 :: 0x26 :: rest => do
      let (second, after) ← pipeline source n rest
      chain source n (.both first second) after
    | 0x7C :: 0x7C :: rest => do
      let (second, after) ← pipeline source n rest
      chain source n (.either first second) after
    | rest => some (first, rest)

/-- Commands up to something that closes their list. -/
def commands (source : Source) : Nat → Bytes → Option (List Command × Bytes)
  | 0, _ => none
  | n + 1, text =>
    let text := skipLines text
    match text with
    | [] => some ([], [])
    | 0x29 :: _ => some ([], text)
    | 0x3B :: _ => some ([], text)
    | _ =>
      if closers.contains (leadingWord text) then some ([], text)
      else do
        let (first, after) ← pipeline source n text
        let (first, after) ← chain source n first after
        match skipGap after with
        | 0x3B :: 0x3B :: _ => some ([first], after)
        | 0x26 :: after =>
          let (more, left) ← commands source n after
          some (.background first :: more, left)
        | 0x3B :: after | 10 :: after =>
          let (more, left) ← commands source n after
          some (first :: more, left)
        | after => some ([first], after)

end

end Script

end FunctionChain
