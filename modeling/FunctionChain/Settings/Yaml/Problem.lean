import FunctionChain.Text.Quoted

/-!
# What can be wrong with YAML

A text can be no text at all, it can fall apart into no tokens, its tokens can make no document, and the
document can mean nothing. Only the first of these ends without a line in the message. Tokens are located
by the line on which reading stopped and everything else by the line before that; on the first line there
is no location at all.
-/

namespace FunctionChain

namespace Settings

namespace Yaml

/-- What is wrong with the characters of a text. -/
inductive CharacterFault where
  | badLead
  | incomplete
  | badTrail
  | badLength
  | noCharacter
  | control
  | halfUnit
  | strayLow
  | halfPair
  | missingLow
deriving Repr, DecidableEq

/-- The message about characters. -/
def CharacterFault.message : CharacterFault → Bytes
  | .badLead => bytes "invalid leading UTF-8 octet"
  | .incomplete => bytes "incomplete UTF-8 octet sequence"
  | .badTrail => bytes "invalid trailing UTF-8 octet"
  | .badLength => bytes "invalid length of a UTF-8 sequence"
  | .noCharacter => bytes "invalid Unicode character"
  | .control => bytes "control characters are not allowed"
  | .halfUnit => bytes "incomplete UTF-16 character"
  | .strayLow => bytes "unexpected low surrogate area"
  | .halfPair => bytes "incomplete UTF-16 surrogate pair"
  | .missingLow => bytes "expected low surrogate area"

/-- What keeps a text from falling apart into tokens. -/
inductive TokenFault where
  | noToken
  | missingColon
  | itemHere
  | keyHere
  | valueHere
  | tooDeep
  | noDirectiveName
  | badDirectiveName
  | unknownDirective
  | noCommentOrBreak
  | noVersionPoint
  | longVersion
  | noVersion
  | noBlank
  | noBlankOrBreak
  | noTagMark
  | noTag
  | noTagEnd
  | noEscapedOctet
  | badLeadOctet
  | badTrailOctet
  | noName
  | zeroIndent
  | tabInIndent
  | tabBeforeText
  | documentInQuotes
  | endInQuotes
  | unknownEscape
  | noHexDigit
  | badEscapeCode
deriving Repr, DecidableEq

/-- The message about tokens. -/
def TokenFault.message : TokenFault → Bytes
  | .noToken => bytes "found character that cannot start any token"
  | .missingColon => bytes "could not find expected ':'"
  | .itemHere => bytes "block sequence entries are not allowed in this context"
  | .keyHere => bytes "mapping keys are not allowed in this context"
  | .valueHere => bytes "mapping values are not allowed in this context"
  | .tooDeep => bytes "exceeded max depth of 10000"
  | .noDirectiveName => bytes "could not find expected directive name"
  | .badDirectiveName => bytes "found unexpected non-alphabetical character"
  | .unknownDirective => bytes "found unknown directive name"
  | .noCommentOrBreak => bytes "did not find expected comment or line break"
  | .noVersionPoint => bytes "did not find expected digit or '.' character"
  | .longVersion => bytes "found extremely long version number"
  | .noVersion => bytes "did not find expected version number"
  | .noBlank => bytes "did not find expected whitespace"
  | .noBlankOrBreak => bytes "did not find expected whitespace or line break"
  | .noTagMark => bytes "did not find expected '!'"
  | .noTag => bytes "did not find expected tag URI"
  | .noTagEnd => bytes "did not find the expected '>'"
  | .noEscapedOctet => bytes "did not find URI escaped octet"
  | .badLeadOctet => bytes "found an incorrect leading UTF-8 octet"
  | .badTrailOctet => bytes "found an incorrect trailing UTF-8 octet"
  | .noName => bytes "did not find expected alphabetic or numeric character"
  | .zeroIndent => bytes "found an indentation indicator equal to 0"
  | .tabInIndent => bytes "found a tab character where an indentation space is expected"
  | .tabBeforeText => bytes "found a tab character that violates indentation"
  | .documentInQuotes => bytes "found unexpected document indicator"
  | .endInQuotes => bytes "found unexpected end of stream"
  | .unknownEscape => bytes "found unknown escape character"
  | .noHexDigit => bytes "did not find expected hexdecimal number"
  | .badEscapeCode => bytes "found invalid Unicode character escape code"

/-- What keeps tokens from making a document. -/
inductive ShapeFault where
  | noDocumentStart
  | noContent
  | noItem
  | noKey
  | noListEnd
  | noMapEnd
  | unknownHandle
  | twoVersions
  | otherVersion
  | twoHandles
deriving Repr, DecidableEq

/-- The message about the shape of a document. -/
def ShapeFault.message : ShapeFault → Bytes
  | .noDocumentStart => bytes "did not find expected <document start>"
  | .noContent => bytes "did not find expected node content"
  | .noItem => bytes "did not find expected '-' indicator"
  | .noKey => bytes "did not find expected key"
  | .noListEnd => bytes "did not find expected ',' or ']'"
  | .noMapEnd => bytes "did not find expected ',' or '\x7d'"
  | .unknownHandle => bytes "found undefined tag handle"
  | .twoVersions => bytes "found duplicate %YAML directive"
  | .otherVersion => bytes "found incompatible YAML document"
  | .twoHandles => bytes "found duplicate %TAG directive"

/-- A value of another type than is wanted where it stands. -/
structure Mismatch where
  /-- The line of the value, from zero. -/
  line : Nat
  /-- What the value is. -/
  found : Bytes
  wanted : Bytes
deriving Repr, DecidableEq

/-- The message about a value of another type. -/
def Mismatch.message (mismatch : Mismatch) : Bytes :=
  bytes "line " ++ Decimal.ofNat (mismatch.line + 1) ++ bytes ": cannot unmarshal " ++ mismatch.found
    ++ bytes " into " ++ mismatch.wanted

/-- Why a text is no configuration. -/
inductive Problem where
  | characters (fault : CharacterFault)
  /-- The line, from zero, is the one on which reading stopped. -/
  | token (fault : TokenFault) (line : Nat)
  /-- The line, from zero, is the one of the token that does not fit. -/
  | shape (fault : ShapeFault) (line : Nat)
  | unknownAnchor (name : Bytes)
  | containsItself (name : Bytes)
  | tooManyAliases
  | badBinary
  /-- A text that is not of the type that its tag says. -/
  | notOfType (found text wanted : Bytes)
  /-- Something other than a table is to be merged. -/
  | mergesNoTable
  /-- The name of an entry is a list or a table. -/
  | badName (shown : Bytes)
  | mismatches (mismatches : List Mismatch)
deriving Repr, DecidableEq

/-- A line in a message, unless it is none. -/
def linePart (line : Nat) : Bytes :=
  if line == 0 then [] else bytes "line " ++ Decimal.ofNat line ++ bytes ": "

/-- The message of a problem. -/
def Problem.message (problem : Problem) : Bytes :=
  bytes "yaml: " ++ (match problem with
    | .characters fault => fault.message
    | .token fault line => linePart (if line == 0 then 0 else line + 1) ++ fault.message
    | .shape fault line => linePart line ++ fault.message
    | .unknownAnchor name => bytes "unknown anchor '" ++ name ++ bytes "' referenced"
    | .containsItself name => bytes "anchor '" ++ name ++ bytes "' value contains itself"
    | .tooManyAliases => bytes "document contains excessive aliasing"
    | .badBinary => bytes "!!binary value contains invalid base64 data"
    | .notOfType found text wanted =>
      bytes "cannot decode " ++ found ++ bytes " `" ++ text ++ bytes "` as a " ++ wanted
    | .mergesNoTable => bytes "map merge requires map or sequence of maps as the value"
    | .badName shown => bytes "invalid map key: " ++ shown
    | .mismatches list =>
      bytes "unmarshal errors:\n  "
        ++ Bytes.joined (bytes "\n  ") (list.map Mismatch.message))

end Yaml

end Settings

end FunctionChain
