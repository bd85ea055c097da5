import FunctionChain.Settings.Character
import FunctionChain.Settings.Value
import FunctionChain.Text.Quoted

/-!
# Configuration as properties

Every line of the file gives a key its value: the key ends at white space, at a colon or at an equals sign.
A backslash keeps what follows it, and at the end of a line it joins the next line to the value. A key in
a dollar sign and braces stands for its value, or for a variable of the environment. The dots of a key
part the names of nested tables.
-/

namespace FunctionChain

namespace Settings

namespace PropertiesFile

/-- Why a text is no configuration. -/
inductive Problem where
  /-- A line that cannot be read. -/
  | located (line : Nat) (message : Bytes)
  /-- A key in braces that do not close. -/
  | malformed
  /-- A key that stands for itself. -/
  | circular
  | tooDeep
deriving Repr, DecidableEq

/-- The message of a problem. -/
def Problem.message : Problem → Bytes
  | .located line message => bytes "properties: Line " ++ Decimal.ofNat line ++ bytes ": " ++ message
  | .malformed => bytes "malformed expression"
  | .circular => bytes "circular reference"
  | .tooDeep => bytes "expansion too deep"

/-! ## Characters -/

/-- Whether a character ends a line. -/
def isLineEnd (c : Nat) : Bool := c == code '\n' || c == code '\r'

/-- Whether a character is white space in a line. -/
def isSpace (c : Nat) : Bool := (codes " \x0C\t").contains c

/-- Whether a character ends a key. -/
def endsKey (c : Nat) : Bool := isSpace c || isLineEnd c || c == code ':' || c == code '='

/-- Whether a character begins a comment. -/
def beginsComment (c : Nat) : Bool := c == code '#' || c == code '!'

/-- The character that an escaped one stands for. -/
def unescaped (c : Nat) : Nat :=
  ([(code 'f', 0x0C), (code 'n', 0x0A), (code 'r', 0x0D), (code 't', 0x09)].lookup c).getD c

/-- The character after a backslash, and the text behind it. -/
def escape : List Nat → Except Bytes (Nat × List Nat)
  | [] => .error (bytes "premature EOF")
  | c :: rest =>
    if c == code 'u' then
      let digits := rest.take 4
      match digits.length == 4, hexValue? digits with
      | true, some n => .ok (n, rest.drop 4)
      | _, _ => .error (bytes "invalid unicode literal")
    else .ok (unescaped c, rest)

/-! ## Keys and values -/

/-- The key at the beginning of a text, and the text behind it. The fuel is the length of the text. -/
def key : Nat → List Nat → Except Bytes (List Nat × List Nat)
  | fuel + 1, c :: rest =>
    if c == code '\\' then do
      let (escaped, rest) ← escape rest
      let (more, rest) ← key fuel rest
      return (escaped :: more, rest)
    else if endsKey c then .ok ([], c :: rest)
    else do
      let (more, rest) ← key fuel rest
      return (c :: more, rest)
  | _, text => .ok ([], text)

/-- The text after the sign between a key and its value. -/
def afterSign (text : List Nat) : List Nat :=
  match text.dropWhile isSpace with
  | c :: rest => if c == code ':' || c == code '=' then rest.dropWhile isSpace else c :: rest
  | [] => []

/-- The value at the beginning of a text, and the text behind its line. -/
def value : Nat → List Nat → Except Bytes (List Nat × List Nat)
  | fuel + 1, c :: rest =>
    if c == code '\\' then
      match rest with
      | next :: behind =>
        if isLineEnd next then value fuel (behind.dropWhile isSpace)
        else do
          let (escaped, rest) ← escape rest
          let (more, rest) ← value fuel rest
          return (escaped :: more, rest)
      | [] => .error (bytes "premature EOF")
    else if isLineEnd c then .ok ([], rest)
    else do
      let (more, rest) ← value fuel rest
      return (c :: more, rest)
  | _, text => .ok ([], text)

/-- What a percent sign in a message stands for, as far as it was read. -/
structure Directive where
  /-- What is written about it so far. -/
  notes : Bytes
  /-- Whether it names a thing by its index. Nothing is there to be named. -/
  isIndexed : Bool
  /-- Whether an index was the last part that was read. -/
  endsInIndex : Bool
  rest : List Nat

namespace Directive

/-- Read an index in brackets, if there is one. -/
def index (directive : Directive) : Directive :=
  match directive.rest with
  | 0x5B :: inner =>
    let digits := inner.takeWhile (· != 0x5D)
    let indexed := { directive with isIndexed := true, endsInIndex := false }
    if inner.length < 2 || digits.length == inner.length then { indexed with rest := inner }
    else { indexed with
      endsInIndex := !digits.isEmpty && digits.all isDigit
      rest := inner.drop (digits.length + 1) }
  | _ => { directive with endsInIndex := false }

/-- The largest width. A larger one takes all that follows with it. -/
def widthLimit : Nat := 1000000

/-- Read a width: a number, or a star for one that is not there. -/
def width (note : String) (directive : Directive) : Directive :=
  match directive.rest with
  | 0x2A :: rest =>
    { directive with notes := directive.notes ++ bytes note, endsInIndex := false, rest := rest }
  | rest =>
    let digits := rest.takeWhile isDigit
    let value := digits.foldl (fun n d => n * 10 + (d - code '0')) 0
    { directive with
      isIndexed := directive.isIndexed || (directive.endsInIndex && !digits.isEmpty)
      rest := if value > widthLimit then [] else rest.drop digits.length }

/-- Read a width behind a point, if there is one. -/
def precision (directive : Directive) : Directive :=
  match directive.rest with
  | 0x2E :: rest => width "%!(BADPREC)" (index { directive with rest := rest })
  | _ => directive

/-- Read what follows a percent sign up to its verb. -/
def ofText (text : List Nat) : Directive :=
  let start : Directive := ⟨[], false, false, text.dropWhile fun c => (codes "#0+- ").contains c⟩
  let directive := precision (width "%!(BADWIDTH)" start.index)
  if directive.endsInIndex then directive else directive.index

end Directive

/-- What a message makes of percent signs: nothing is there for them to stand for. The fuel is the length
of the text. -/
def withoutArguments : Nat → List Nat → Bytes
  | fuel + 1, c :: rest =>
    if c != code '%' then Utf8.encode c ++ withoutArguments fuel rest
    else
      let directive := Directive.ofText rest
      directive.notes ++ (match directive.rest with
        | [] => bytes "%!(NOVERB)"
        | verb :: rest =>
          (if verb == code '%' then bytes "%"
            else bytes "%!" ++ Utf8.encode verb
              ++ bytes (if directive.isIndexed then "(BADINDEX)" else "(MISSING)"))
            ++ withoutArguments fuel rest)
  | _, _ => []

/-- A value in a message, of which the beginning is shown. -/
def shown (text : List Nat) : Bytes :=
  let spelling := spelled text
  let quoted := if spelling.length > 10 then Quoted.quote (spelled (text.take 10)) ++ bytes "..."
    else Quoted.quote spelling
  let characters := (Utf8.pieces quoted).map (·.code)
  withoutArguments characters.length characters

/-- The number of a line, told by the text from a place in it on. -/
def lineOf (text rest : List Nat) : Nat :=
  1 + text.count (code '\n') - rest.count (code '\n')

/-- Name the line of a problem, which is that of the text from which on it was found. -/
def placed {α : Type} (text start : List Nat) : Except Bytes α → Except Problem α
  | .ok a => .ok a
  | .error message => .error (.located (lineOf text start) message)

/-- Set the value of a key. A key keeps its place. -/
def assign (entries : List (Bytes × Bytes)) (name content : Bytes) : List (Bytes × Bytes) :=
  if entries.any (·.1 == name) then
    entries.map fun entry => if entry.1 == name then (name, content) else entry
  else entries ++ [(name, content)]

/-- The keys and values of the lines of `rest`, which ends `text`. -/
def entriesFrom (text : List Nat) :
    Nat → List Nat → List (Bytes × Bytes) → Except Problem (List (Bytes × Bytes))
  | fuel + 1, c :: rest, entries =>
    if isLineEnd c || isSpace c then entriesFrom text fuel rest entries
    else if beginsComment c then entriesFrom text fuel (rest.dropWhile (!isLineEnd ·)) entries
    else do
      let (name, behind) ← placed text (c :: rest) (key (rest.length + 1) (c :: rest))
      if behind.isEmpty then return assign entries (spelled name) []
      let start := afterSign behind
      let (content, behind) ← placed text start (value start.length start)
      if name.isEmpty then throw (.located (lineOf text start) (shown content))
      entriesFrom text fuel behind (assign entries (spelled name) (spelled content))
  | _, _, entries => .ok entries

/-! ## Keys in values -/

/-- A text parted at the first key in braces. -/
inductive Mention where
  | none
  | unclosed
  | found (before name behind : Bytes)

/-- The first key in braces of a text. -/
def mention : Bytes → Mention
  | 0x24 :: 0x7B :: rest =>
    match Bytes.cut? rest 0x7D with
    | some (name, behind) => .found [] name behind
    | none => .unclosed
  | b :: rest =>
    match mention rest with
    | .found before name behind => .found (b :: before) name behind
    | other => other
  | [] => .none

/-- The number of keys that are replaced in one value, at most. -/
def roundLimit : Nat := 4096

/-- A text in which keys in braces are replaced until there are none. -/
def replaced (contentOf : Bytes → Except Problem Bytes) : Nat → Bytes → Except Problem Bytes
  | 0, text => .ok text
  | rounds + 1, text =>
    match mention text with
    | .none => .ok text
    | .unclosed => .error .malformed
    | .found before name behind => do
      let content ← contentOf name
      replaced contentOf rounds (before ++ content ++ behind)

/-- How many keys can stand for each other in a row. -/
def depthLimit : Nat := 64

/-- A text in which keys stand for their values. The names are those whose values it is part of. -/
def expanded (contentOf : Bytes → Bytes) : Nat → List Bytes → Bytes → Except Problem Bytes
  | 0, _, _ => .error .tooDeep
  | depth + 1, names, text =>
    replaced (fun name =>
      if names.contains name then .error .circular
      else expanded contentOf depth (name :: names) (contentOf name)) roundLimit text

/-! ## Tables -/

/-- Set the value of a name in a table. -/
def setEntry (table : Table) (name : Bytes) (entry : Value) : Table :=
  table.filter (·.1 != name) ++ [(name, entry)]

/-- Set the text of a path of names in nested tables. The last name counts in lower case. -/
def put (content : Bytes) : List Bytes → Table → Table
  | [], table => table
  | [name], table => setEntry table (LetterCase.lowered name) (.text content)
  | name :: path, table =>
    let inner := match table.lookup name with
      | some (.table entries) => entries
      | _ => []
    setEntry table name (.table (put content path inner))

/-- Read a configuration, with the variables of the environment. -/
def read (environment : List (Bytes × Bytes)) (text : Bytes) : Except Problem Table := do
  let characters := (Utf8.pieces text).map (·.code)
  let entries ← entriesFrom characters characters.length characters []
  let contentOf (name : Bytes) : Bytes := ((entries.lookup name).or (environment.lookup name)).getD []
  entries.foldlM (fun table (name, content) => do
    let content ← expanded contentOf depthLimit [name] content
    return put content (name.splitOn (byte '.')) table) []

end PropertiesFile

end Settings

end FunctionChain
