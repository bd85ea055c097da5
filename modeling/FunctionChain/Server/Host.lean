import FunctionChain.Text.Decimal

/-!
# Hosts

A host is given by four numbers, by eight groups of hexadecimal digits, or by a name. In the groups, two
colons stand for as many groups of zero as are missing, the last two groups may be written as four
numbers, and a zone may follow. Groups that hold nothing but four numbers are the same host as these.
-/

namespace FunctionChain

namespace Server

/-- A host to listen on. -/
inductive Host where
  /-- All addresses of the machine. -/
  | any
  /-- Four numbers. -/
  | short (numbers : List Nat)
  /-- Eight groups, and a zone or nothing. -/
  | long (groups : List Nat) (zone : Bytes)
  | named (name : Bytes)
deriving Repr, DecidableEq

namespace Host

/-! ## Reading -/

/-- A number of an address in digits, without zeros before it. -/
def octet? (digits : Bytes) : Option Nat := do
  let n ← Decimal.toNat? digits
  if n ≤ 255 && Decimal.ofNat n == digits then some n else none

/-- Four numbers with points between them. -/
def octets? (text : Bytes) : Option (List Nat) := do
  let numbers ← (Bytes.splitOn text (byte '.')).mapM octet?
  if numbers.length == 4 then some numbers else none

/-- A group of one to four hexadecimal digits. -/
def group? (digits : Bytes) : Option Nat :=
  if digits.isEmpty || digits.length > 4 then none
  else digits.foldl (fun n? d => n?.bind fun n => (Hex.value? d).map (n * 16 + ·)) (some 0)

/-- Two groups from four numbers. -/
def pairs : List Nat → List Nat
  | [a, b, c, d] => [a * 256 + b, c * 256 + d]
  | _ => []

/-- The groups of fields, of which the last may be four numbers where that is allowed. -/
def groupsOf? (endsHere : Bool) : List Bytes → Option (List Nat)
  | [] => some []
  | [last] =>
    match group? last with
    | some group => some [group]
    | none => if endsHere then (octets? last).map pairs else none
  | field :: rest => do
    let group ← group? field
    let groups ← groupsOf? endsHere rest
    some (group :: groups)

/-- The groups of a text with colons between them. Nothing has no groups. -/
def fields? (endsHere : Bool) (text : Bytes) : Option (List Nat) :=
  if text.isEmpty then some [] else groupsOf? endsHere (Bytes.splitOn text (byte ':'))

/-- What stands before and behind the first two colons in a row. -/
def cutGap? : Bytes → Bytes → Option (Bytes × Bytes)
  | done, a :: b :: rest =>
    if a == byte ':' && b == byte ':' then some (done.reverse, rest)
    else cutGap? (a :: done) (b :: rest)
  | _, _ => none

/-- The eight groups of a text. -/
def groups? (text : Bytes) : Option (List Nat) :=
  match cutGap? [] text with
  | none => do
    let groups ← fields? true text
    if groups.length == 8 then some groups else none
  | some (before, behind) => do
    let first ← fields? false before
    let last ← fields? true behind
    let missing := 8 - (first.length + last.length)
    if missing == 0 then none else some (first ++ List.replicate missing 0 ++ last)

/-- The host of eight groups: four numbers, if the groups hold nothing else. -/
def ofGroups (groups : List Nat) (zone : Bytes) : Host :=
  match groups with
  | [0, 0, 0, 0, 0, 0xFFFF, a, b] => .short [a / 256, a % 256, b / 256, b % 256]
  | _ => .long groups zone

/-- The host of a text with colons in it. -/
def ofColons? (text : Bytes) : Option Host :=
  match Bytes.cut? text (byte '%') with
  | none => (groups? text).map (ofGroups · [])
  | some (_, []) => none
  | some (address, zone) => (groups? address).map (ofGroups · zone)

/-- The host that a text stands for. -/
def read (text : Bytes) : Host :=
  if text.isEmpty then .any
  else
    let found : Option Host := match text.find? (fun b => b == byte '.' || b == byte ':' || b == byte '%') with
      | none => none
      | some mark =>
        if mark == byte '.' then (octets? text).map Host.short
        else if mark == byte ':' then ofColons? text
        else none
    found.getD (.named text)

/-! ## Writing -/

/-- The length of the run of zeros at the start of groups. -/
def zeros (groups : List Nat) : Nat := (groups.takeWhile (· == 0)).length

/-- The first of the longest runs of zeros in groups: where it starts, and its length. -/
def longestZeros (groups : List Nat) : Nat × Nat :=
  (List.range groups.length).foldl (fun best start =>
    let length := zeros (groups.drop start)
    if length > best.2 then (start, length) else best) (0, 0)

/-- A group without zeros before it. -/
def groupText (group : Nat) : Bytes :=
  match (Hex.padded group 4).dropWhile (· == byte '0') with
  | [] => bytes "0"
  | digits => digits

/-- Groups with colons between them. -/
def fieldsText (groups : List Nat) : Bytes := Bytes.joined (bytes ":") (groups.map groupText)

/-- The text of eight groups. Two or more groups of zero are left out once. -/
def groupsText (groups : List Nat) : Bytes :=
  match longestZeros groups with
  | (start, length) =>
    if length < 2 then fieldsText groups
    else fieldsText (groups.take start) ++ bytes "::" ++ fieldsText (groups.drop (start + length))

/-- The host as part of an address. -/
def text : Host → Bytes
  | .any => []
  | .short numbers => Bytes.joined (bytes ".") (numbers.map Decimal.ofNat)
  | .long groups zone =>
    bytes "[" ++ groupsText groups ++ (if zone.isEmpty then [] else byte '%' :: zone) ++ bytes "]"
  | .named name => name

/-! ## The machine itself -/

/-- The address of the name of this machine, in any letter case and with or without a point at its
end. -/
def resolved : Host → Option Host
  | .named name =>
    if Bytes.lower name == bytes "localhost" || Bytes.lower name == bytes "localhost." then
      some (.short [127, 0, 0, 1])
    else none
  | host => some host

/-- Whether a host stands for all addresses of this machine. -/
def isAny : Host → Bool
  | .any => true
  | .short numbers => numbers.all (· == 0)
  | .long groups _ => groups.all (· == 0)
  | .named _ => false

/-- Whether an address is one of this machine. -/
def isOwn : Host → Bool
  | .short numbers => numbers.head? == some 127 || isAny (.short numbers)
  | .long groups zone => groups == [0, 0, 0, 0, 0, 0, 0, 1] || isAny (.long groups zone)
  | host => isAny host

end Host

end Server

end FunctionChain
