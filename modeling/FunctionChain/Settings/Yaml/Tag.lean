import FunctionChain.Settings.Yaml.Lexer

/-!
# Directives, anchors and tags

A directive is a line before a document: the version of the format, or a handle that abbreviates the start
of tags. An anchor names a value, an alias stands for the value of that name, and a tag says what a value
is. In a tag bytes may be written by their numbers after percent signs.
-/

namespace FunctionChain

namespace Settings

namespace Yaml

namespace Scan

/-! ## Tags -/

/-- The number of bytes of a character by its first one; none for a byte that starts no character. -/
def octetCount (lead : Nat) : Nat := (sizeOf? lead.toUInt8).getD 0

/-- Read a byte that is written by its number. -/
def octet : Scan Nat := do
  need 3
  let text := (← get).rest.take 3
  match text.headD 0 == code '%' && text.length == 3, hexValue? (text.drop 1) with
  | true, some n =>
    advance 3
    return n
  | _, _ => fail .noEscapedOctet

/-- Read the bytes of a character behind its first one. -/
def trailOctets : Nat → Bytes → Scan Bytes
  | 0, done => return done
  | count + 1, done => do
    let n ← octet
    if n / 64 != 2 then fail .badTrailOctet
    trailOctets count (done ++ [n.toUInt8])

/-- Read a character that is written by the numbers of its bytes. -/
def octets : Scan Bytes := do
  let n ← octet
  match octetCount n with
  | 0 => fail .badLeadOctet
  | count + 1 => trailOctets count [n.toUInt8]

/-- Whether a character may stand in a tag. -/
def isTagCharacter (c : Nat) : Bool := isNameCharacter c || tagMarks.contains c

/-- Read the characters of a tag. `done` are those before. -/
def tagText : Nat → Bytes → Scan Bytes
  | 0, done => return done
  | fuel + 1, done => do
    let plain ← takeWhile fun c => isTagCharacter c && c != code '%'
    let done := done ++ spelled plain
    if (← here) == code '%' then tagText fuel (done ++ (← octets)) else return done

/-- Read the characters of a tag after those of `start`. There has to be one. -/
def tagRest (start : Bytes) : Scan Bytes := do
  let before := (← get).mark.index
  let text ← tagText ((← get).size + 1) (start.drop 1)
  if start.isEmpty && (← get).mark.index == before then fail .noTag
  return text

/-- Read a handle: an exclamation mark, maybe with a name and another one. -/
def handle (isDirective : Bool) : Scan Bytes := do
  need 1
  if (← here) != code '!' then fail .noTagMark
  advance 1
  let name ← takeWhile isNameCharacter
  if (← here) == code '!' then
    advance 1
    return spelled (code '!' :: name ++ [code '!'])
  else
    if isDirective && !name.isEmpty then fail .noTagMark
    return spelled (code '!' :: name)

/-- Whether a text is a handle with a second exclamation mark. -/
def isFullHandle (text : Bytes) : Bool := text.length > 1 && text.getLast? == some (byte '!')

/-- Read the handle and the suffix of a tag. -/
def tagParts : Scan (Bytes × Bytes) := do
  need 2
  if (← look 1) == code '<' then
    advance 2
    let suffix ← tagRest []
    if (← here) != code '>' then fail .noTagEnd
    advance 1
    return ([], suffix)
  else
    let start ← handle false
    if isFullHandle start then return (start, ← tagRest [])
    else
      let suffix ← tagRest start
      return if suffix.isEmpty then ([], bytes "!") else (bytes "!", suffix)

/-- Read a tag. -/
def tag : Scan Token := do
  let line := (← get).mark.line
  let (handle, suffix) ← tagParts
  need 1
  if !isGap (← here) then fail .noBlankOrBreak
  return ⟨line, .tag handle suffix⟩

/-! ## Anchors -/

/-- Read the name of an anchor or of an alias after its mark. -/
def anchorName : Scan Bytes := do
  advance 1
  let name ← takeWhile isNameCharacter
  let next ← here
  if name.isEmpty || !(isGap next || anchorEnds.contains next) then fail .noName
  return spelled name

/-- Read an anchor. -/
def anchor : Scan Token := do
  let line := (← get).mark.line
  return ⟨line, .anchor (← anchorName)⟩

/-- Read an alias. -/
def aliasToken : Scan Token := do
  let line := (← get).mark.line
  return ⟨line, .aliasOf (← anchorName)⟩

/-! ## Directives -/

/-- The greatest number of digits in a part of a version. -/
def versionDigits : Nat := 2

/-- Read a part of a version. -/
def versionPart : Scan Nat := do
  need 1
  let digits := (← get).rest.takeWhile isDigit
  if digits.length > versionDigits then
    advance versionDigits
    need 1
    fail .longVersion
  advance digits.length
  need 1
  if digits.isEmpty then fail .noVersion
  return (Decimal.toNat? (spelled digits)).getD 0

/-- Read a version. -/
def version : Scan TokenBody := do
  skipWhile isBlank
  let major ← versionPart
  if (← here) != code '.' then fail .noVersionPoint
  advance 1
  return .version major (← versionPart)

/-- Read a handle and what it stands for. -/
def handleMeaning : Scan TokenBody := do
  skipWhile isBlank
  let name ← handle true
  need 1
  if !isBlank (← here) then fail .noBlank
  skipWhile isBlank
  let start ← tagRest []
  need 1
  if !isGap (← here) then fail .noBlankOrBreak
  return .handle name start

/-- Read a directive. -/
def directive : Scan Token := do
  let line := (← get).mark.line
  advance 1
  let name ← takeWhile isNameCharacter
  if name.isEmpty then fail .noDirectiveName
  if !isGap (← here) then fail .badDirectiveName
  let body ←
    if name == codes "YAML" then version
    else if name == codes "TAG" then handleMeaning
    else fail .unknownDirective
  finishLine
  return ⟨line, body⟩

end Scan

end Yaml

end Settings

end FunctionChain
