import FunctionChain.Digest.Sha256
import FunctionChain.Script.Filter
import FunctionChain.Text.Base64
import FunctionChain.Text.Utf8

/-!
# More programs on text

Programs that turn lines around, number, fold or paste them, show the bytes of a text as numbers, or tell
texts apart.
-/

namespace FunctionChain

namespace Script

namespace Stream

open FunctionChain.Script.Utility (Effect options has valueOf? quoted errorText fail misuse)
open FunctionChain.Script.Filter (allContent contentAt unlines)

/-! ## Lines -/

/-- Write lines from the last to the first. -/
def tac : Effect := fun arguments state =>
  let (text, state) := allContent (bytes "tac") (options [] arguments).2 state
  state.print (unlines (Editing.linesOf text).reverse)

/-- Write the characters of each line from the last to the first. -/
def rev : Effect := fun arguments state =>
  let (text, state) := allContent (bytes "rev") (options [] arguments).2 state
  state.print (unlines ((Editing.linesOf text).map fun (line, hasEnd) =>
    ((Utf8.pieces line).reverse.flatMap (·.bytes), hasEnd)))

/-- Lines with numbers before those that are not empty. -/
def numbered : Nat → List (Bytes × Bool) → Bytes
  | _, [] => []
  | number, (line, _) :: rest =>
    let digits := Decimal.ofNat number
    if line.isEmpty then List.replicate 7 0x20 ++ [10] ++ numbered number rest
    else List.replicate (6 - digits.length) 0x20 ++ digits ++ [9] ++ line ++ [10]
      ++ numbered (number + 1) rest

/-- Number lines. -/
def nl : Effect := fun arguments state =>
  let (text, state) := allContent (bytes "nl") (options (bytes "bnsvw") arguments).2 state
  state.print (numbered 1 (Editing.linesOf text))

/-- A line in pieces of a width. The fuel is its length. -/
def folded (width : Nat) : Nat → Bytes → Bytes
  | 0, line => line
  | fuel + 1, line =>
    if line.length ≤ width then line
    else line.take width ++ [10] ++ folded width fuel (line.drop width)

/-- Break lines that are too long. -/
def fold : Effect := fun arguments state =>
  let name := bytes "fold"
  let (found, paths) := options (bytes "w") arguments
  let asked := (valueOf? found 'w').getD (bytes "80")
  match Decimal.toNat? asked with
  | none | some 0 => misuse state name (bytes "invalid number of columns: " ++ quoted asked)
  | some width =>
    let (text, state) := allContent name paths state
    state.print (unlines ((Editing.linesOf text).map fun (line, hasEnd) =>
      (folded width line.length line, hasEnd)))

/-- Texts with marks between them, of which each is used in turn. -/
def pasted (marks : Bytes) : Nat → List Bytes → Bytes
  | _, [] => []
  | _, [only] => only
  | count, first :: rest => first ++ (marks.drop (count % marks.length)).take 1 ++ pasted marks (count + 1) rest

/-- Groups of a number of lines, of which the last may be filled up with empty ones. The fuel is the number
of lines. -/
def grouped (size : Nat) : Nat → List Bytes → List (List Bytes)
  | 0, _ => []
  | fuel + 1, lines =>
    if lines.isEmpty then []
    else
      let group := lines.take size
      (group ++ List.replicate (size - group.length) []) :: grouped size fuel (lines.drop size)

/-- Join lines of files. -/
def paste : Effect := fun arguments state =>
  let name := bytes "paste"
  let (found, paths) := options (bytes "d") arguments
  let marks := match valueOf? found 'd' with
    | some text => Filter.setBytes (text.length + 1) text
    | none => [9]
  let linesIn (text : Bytes) : List Bytes := (Editing.linesOf text).map (·.1)
  let fromInput := paths.all (· == bytes "-")
  if has found 's' then
    let (text, state) := allContent name paths state
    state.print (pasted marks 0 (linesIn text) ++ [10])
  else if fromInput then
    let (text, state) := allContent name [bytes "-"] state
    let lines := linesIn text
    state.print ((grouped (max paths.length 1) lines.length lines).flatMap fun group =>
      pasted marks 0 group ++ [10])
  else
    let (columns, state) := paths.foldl (fun (columns, state) path =>
      match contentAt state path with
      | (.ok text, state) => (columns ++ [linesIn text], state)
      | (.error reason, state) => (columns, (state.report (Filter.about name path reason)).withStatus 1))
      (([], state.withStatus 0) : List (List Bytes) × State)
    let height := columns.foldl (fun n column => max n column.length) 0
    state.print ((List.range height).flatMap fun row =>
      pasted marks 0 (columns.map (·.getD row [])) ++ [10])

/-! ## Bytes -/

/-- Write a text in another form, or back. -/
def base64 : Effect := fun arguments state =>
  let (found, paths) := options (bytes "w") arguments
  let (text, state) := allContent (bytes "base64") paths state
  if has found 'd' then
    match Base64.decode? text with
    | some plain => state.print plain
    | none => fail state (bytes "base64") (bytes "invalid input") 1
  else
    let width := ((valueOf? found 'w').bind Decimal.toNat?).getD 76
    let code := Base64.encode text
    state.print (if width == 0 then code
      else if code.isEmpty then [] else folded width code.length code ++ [10])

/-- Write the digests of files. -/
def sha256sum : Effect := fun arguments state =>
  let (_, paths) := options [] arguments
  let paths := if paths.isEmpty then [bytes "-"] else paths
  Filter.eachContent (Filter.about (bytes "sha256sum")) 1 paths (fun state path text =>
    state.print (Sha256.hexDigest text ++ bytes "  " ++ path ++ [10])) (state.withStatus 0)

/-- How bytes are shown: how many stand together, and what is written for them. -/
structure Cell where
  size : Nat
  text : Bytes → Bytes

/-- A text at the right of a field. -/
def right (width : Nat) (text : Bytes) : Bytes := List.replicate (width - text.length) 0x20 ++ text

/-- A number in a base, with zeros before it. -/
def zeroed (base width n : Nat) : Bytes :=
  let digits := Numeral.written base n
  List.replicate (width - digits.length) (byte '0') ++ digits

/-- The number of bytes in the order of the machine. -/
def machineNumber (text : Bytes) : Nat := text.reverse.foldl (fun n b => n * 256 + b.toNat) 0

/-- A byte as a character. -/
def characterText (b : UInt8) : Bytes :=
  match [((0 : UInt8), "\\0"), (7, "\\a"), (8, "\\b"), (9, "\\t"), (10, "\\n"), (11, "\\v"), (12, "\\f"),
    (13, "\\r")].lookup b with
  | some text => bytes text
  | none => if 0x20 ≤ b && b < 0x7F then [b] else zeroed 8 3 b.toNat

/-- The ways to show bytes, by name. -/
def cells : List (Bytes × Cell) :=
  [(bytes "c", ⟨1, fun text => right 4 (text.flatMap characterText)⟩),
    (bytes "x1", ⟨1, fun text => byte ' ' :: zeroed 16 2 (machineNumber text)⟩),
    (bytes "o1", ⟨1, fun text => byte ' ' :: zeroed 8 3 (machineNumber text)⟩),
    (bytes "u1", ⟨1, fun text => right 4 (Decimal.ofNat (machineNumber text))⟩),
    (bytes "x2", ⟨2, fun text => byte ' ' :: zeroed 16 4 (machineNumber text)⟩),
    (bytes "o2", ⟨2, fun text => byte ' ' :: zeroed 8 6 (machineNumber text)⟩),
    (bytes "u2", ⟨2, fun text => right 6 (Decimal.ofNat (machineNumber text))⟩),
    (bytes "x4", ⟨4, fun text => byte ' ' :: zeroed 16 8 (machineNumber text)⟩)]

/-- The bytes of a row, cell by cell. -/
def Cell.row (cell : Cell) : Nat → Bytes → Bytes
  | 0, _ => []
  | fuel + 1, text =>
    if text.isEmpty then [] else cell.text (text.take cell.size) ++ row cell fuel (text.drop cell.size)

/-- The rows of a text, from a place on. A row that is like the one before it is left out, with a star for
all such rows. -/
def rows (cell : Cell) (label : Nat → Bytes) : Nat → Nat → Option Bytes → Bool → Bytes → Bytes
  | 0, _, _, _, _ => []
  | fuel + 1, place, last, isStarred, text =>
    if text.isEmpty then (match label place with
      | [] => []
      | mark => mark ++ [10])
    else
      let row := text.take 16
      let rest := text.drop 16
      if last == some row && row.length == 16 then
        (if isStarred then [] else bytes "*\n") ++ rows cell label fuel (place + 16) last true rest
      else label place ++ cell.row 16 row ++ [10]
        ++ rows cell label fuel (place + row.length) (some row) false rest

/-- Show the bytes of files. -/
def od : Effect := fun arguments state =>
  let name := bytes "od"
  let (found, paths) := options (bytes "AtNj") arguments
  let asked := (valueOf? found 't').getD (if has found 'c' then bytes "c" else if has found 'x' then bytes "x2"
    else if has found 'b' then bytes "o1" else bytes "o2")
  let label (place : Nat) : Bytes := match valueOf? found 'A' with
    | some [0x6E] => []
    | some [0x78] => zeroed 16 6 place
    | some [0x64] => zeroed 10 7 place
    | _ => zeroed 8 7 place
  match cells.lookup asked with
  | none => misuse state name (bytes "invalid type string " ++ quoted asked)
  | some cell =>
    let (text, state) := allContent name paths state
    let text := match (valueOf? found 'N').bind Decimal.toNat? with
      | some count => text.take count
      | none => text
    state.print (rows cell label (text.length + 1) 0 none false text)

/-- Write a line again and again; as many times as anything may want to read. -/
def yes : Effect := fun arguments state =>
  let line := (if arguments.isEmpty then bytes "y" else Bytes.joined (bytes " ") arguments) ++ [10]
  (state.print (List.replicate (0x40000 / line.length + 1) line).flatten).withStatus 0

/-! ## Differences -/

/-- The number of bytes that two texts have in common at their beginning. -/
def commonLength : Bytes → Bytes → Nat
  | a :: as, b :: bs => if a == b then commonLength as bs + 1 else 0
  | _, _ => 0

/-- Tell whether two files are the same. -/
def cmp : Effect := fun arguments state =>
  let name := bytes "cmp"
  let (found, paths) := options [] arguments
  match paths with
  | first :: more =>
    let second := more.headD (bytes "-")
    match contentAt state first, contentAt state second with
    | (.error reason, _), _ => fail state name (first ++ bytes ": " ++ reason) 2
    | _, (.error reason, _) => fail state name (second ++ bytes ": " ++ reason) 2
    | (.ok a, _), (.ok b, _) =>
      let same := commonLength a b
      let line := (a.take same).count 10 + 1
      if same == a.length && same == b.length then state.withStatus 0
      else if has found 's' then state.withStatus 1
      else if same == a.length || same == b.length then
        let short := if same == a.length then first else second
        let place := if same == 0 then bytes " which is empty"
          else bytes " after byte " ++ Decimal.ofNat same ++ bytes ", "
            ++ (if (a.take same).getLast? == some 10 then bytes "line " ++ Decimal.ofNat (line - 1)
              else bytes "in line " ++ Decimal.ofNat line)
        fail state name (bytes "EOF on " ++ short ++ place) 1
      else (state.print (first ++ bytes " " ++ second ++ bytes " differ: char " ++ Decimal.ofNat (same + 1)
        ++ bytes ", line " ++ Decimal.ofNat line ++ [10])).withStatus 1
  | [] => misuse state name (bytes "missing operand after 'cmp'")

/-! ## Files -/

/-- Remove a file. -/
def unlink : Effect := fun arguments state =>
  let name := bytes "unlink"
  match (options [] arguments).2 with
  | [path] =>
    if state.tree.isDirectory path then
      fail state name (bytes "cannot unlink " ++ quoted path ++ bytes ": Is a directory") 1
    else if !state.tree.hasName path then
      fail state name (bytes "cannot unlink " ++ quoted path ++ bytes ": No such file or directory") 1
    else (state.attempt (Files.removeAll path)).2.withStatus 0
  | [] => misuse state name (bytes "missing operand")
  | _ :: extra :: _ => misuse state name (bytes "extra operand " ++ quoted extra)

/-- Make files of a size. -/
def truncate : Effect := fun arguments state =>
  let name := bytes "truncate"
  let (found, paths) := options (bytes "s") arguments
  match valueOf? found 's' with
  | none => misuse state name (bytes "you must specify either '--size' or '--reference'")
  | some asked =>
    match Decimal.toNat? asked with
    | none => misuse state name (bytes "Invalid number: " ++ quoted asked)
    | some size => Utility.eachPath name (bytes "missing file operand") paths (fun state path =>
      let (mode, content) := match state.tree.stat path with
        | .ok (.file mode content) => (mode, content)
        | _ => (Utility.fileMode state, [])
      let content := content.take size ++ List.replicate (size - content.length) 0
      match state.attempt (Files.writeFile path content mode) with
      | (.ok _, state) => state
      | (.error error, state) =>
        fail state name (bytes "cannot open " ++ quoted path ++ bytes " for writing: " ++ errorText error) 1)
      state

/-- Copy files and set their rights. -/
def install : Effect := fun arguments state =>
  let name := bytes "install"
  let (found, paths) := options (bytes "mgot") arguments
  let mode := ((valueOf? found 'm').bind fun text =>
    (Utility.modeChange? 0 text).map fun change => change 0).getD 0o755
  if has found 'd' then
    Utility.eachPath name (bytes "missing file operand") paths (fun state path =>
      (state.attempt (Files.makeDirectories path mode)).2) state
  else Utility.transfer name (fun state source target =>
    let target := Utility.targetPath state source target
    match state.tree.stat source with
    | .ok (.file _ content) =>
      match state.attempt (do Files.discard target; Files.writeFile target content mode) with
      | (.ok _, state) => state
      | (.error error, state) =>
        fail state name (bytes "cannot create regular file " ++ quoted target ++ bytes ": "
          ++ errorText error) 1
    | .ok (.directory _) => fail state name (bytes "omitting directory " ++ quoted source) 1
    | .error reason =>
      fail state name (bytes "cannot stat " ++ quoted source ++ bytes ": " ++ Utility.reasonText reason) 1)
    paths state

/-- The value of a setting among words. -/
def setting? (words : List Bytes) (name : String) : Option Bytes :=
  words.findSome? fun word => Bytes.after? word (bytes name ++ bytes "=")

/-- The bytes of a size, which may end in the letter of a unit. -/
def size? (text : Bytes) : Option Nat :=
  match text.getLast?.bind fun b => [(byte 'k', 1024), (byte 'K', 1024), (byte 'M', 1048576)].lookup b with
  | some unit => (Decimal.toNat? text.dropLast).map (· * unit)
  | none => Decimal.toNat? text

/-- Copy blocks of a file. -/
def dd : Effect := fun words state =>
  let name := bytes "dd"
  let block := ((setting? words "bs").bind size?).getD 512
  let count := (setting? words "count").bind Decimal.toNat?
  let source := (setting? words "if").getD (bytes "-")
  let (content, state) : Except Bytes Bytes × State :=
    if source == Filter.endlessPath then (.ok (List.replicate (block * count.getD 0) 0), state)
    else contentAt state source
  match content with
  | .error reason => fail state name (bytes "failed to open " ++ quoted source ++ bytes ": " ++ reason) 1
  | .ok content =>
    let content := content.drop (block * (((setting? words "skip").bind Decimal.toNat?).getD 0))
    let content := match count with
      | some count => content.take (block * count)
      | none => content
    let written : Except Error Bool × State := match setting? words "of" with
      | some path =>
        let (result, state) := state.attempt (Files.writeFile path content (Utility.fileMode state))
        (result.map fun _ => true, state)
      | none => (.ok true, state.print content)
    match written with
    | (.error error, state) =>
      let path := (setting? words "of").getD []
      fail state name (bytes "failed to open " ++ quoted path ++ bytes ": " ++ errorText error) 1
    | (.ok _, state) =>
      if setting? words "status" == some (bytes "none") then state.withStatus 0
      else
        let blocks := Decimal.ofNat (content.length / block) ++ bytes "+"
          ++ (if content.length % block == 0 then bytes "0" else bytes "1") ++ bytes " records "
        ((state.report (blocks ++ bytes "in")).report (blocks ++ bytes "out")).withStatus 0

/-- The kind of a file. -/
def kindText : Files.Node → Bytes
  | .directory _ => bytes "directory"
  | .file _ content => if content.isEmpty then bytes "regular empty file" else bytes "regular file"

/-- What is known about a file, in a form. -/
def describe (path : Bytes) (node : Files.Node) : Bytes → Bytes
  | 0x25 :: letter :: rest =>
    let (mode, size) := match node with
      | .file mode content => (mode, content.length)
      | .directory mode => (mode, 4096)
    (if letter == byte 'a' then Numeral.written 8 mode
      else if letter == byte 's' then Decimal.ofNat size
      else if letter == byte 'n' then path
      else if letter == byte 'F' then kindText node
      else if letter == byte '%' then bytes "%"
      else bytes "?") ++ describe path node rest
  | b :: rest => b :: describe path node rest
  | [] => []

/-- Write what is known about files. -/
def stat : Effect := fun arguments state =>
  let name := bytes "stat"
  let (found, paths) := options (bytes "c") arguments
  let form := (valueOf? found 'c').getD (bytes "%n")
  Utility.eachPath name (bytes "missing operand") paths (fun state path =>
    match state.tree.stat path with
    | .ok node => state.print (describe path node form ++ [10])
    | .error reason =>
      fail state name (bytes "cannot statx " ++ quoted path ++ bytes ": " ++ Utility.reasonText reason) 1)
    state

/-! ## The system -/

/-- Write the name of the system. -/
def uname : Effect := fun _ state => (state.print (bytes "Linux\n")).withStatus 0

/-- The programs of this module. -/
def table : List (Bytes × Effect) :=
  [(bytes "tac", tac), (bytes "rev", rev), (bytes "nl", nl), (bytes "fold", fold), (bytes "paste", paste),
    (bytes "base64", base64), (bytes "sha256sum", sha256sum), (bytes "od", od), (bytes "yes", yes),
    (bytes "cmp", cmp), (bytes "unlink", unlink), (bytes "truncate", truncate), (bytes "install", install),
    (bytes "dd", dd), (bytes "stat", stat), (bytes "uname", uname),
    (bytes "whoami", fun _ state => (state.print (bytes "root\n")).withStatus 0)]

end Stream

end Script

end FunctionChain
