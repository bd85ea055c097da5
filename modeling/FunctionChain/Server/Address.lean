import FunctionChain.Server.Host

/-!
# Addresses to listen on

An address is a host and the number or name of a service with a colon between them; a host that has
colons itself stands in brackets. Nothing at all, and a missing host, stand for all addresses of the
machine, and a missing service for any that is free. Only addresses of the machine itself can be listened
on.
-/

namespace FunctionChain

namespace Server

/-- Why an address cannot be listened on. -/
inductive AddressProblem where
  /-- The address, or a part of it, is malformed. -/
  | malformed (part reason : Bytes)
  | unknownService (name : Bytes)
  | unknownHost (name : Bytes)
  /-- The service is reserved for the system. -/
  | reserved (address : Bytes)
  /-- The address is not one of this machine. -/
  | foreign (address : Bytes)
deriving Repr, DecidableEq

/-- The message about an address that cannot be listened on. -/
def AddressProblem.message : AddressProblem → Bytes
  | .malformed part reason => bytes "listen tcp: address " ++ part ++ bytes ": " ++ reason
  | .unknownService name => bytes "listen tcp: lookup tcp/" ++ name ++ bytes ": unknown port"
  | .unknownHost name => bytes "listen tcp: lookup " ++ name ++ bytes ": no such host"
  | .reserved address => bytes "listen tcp " ++ address ++ bytes ": bind: permission denied"
  | .foreign address =>
    bytes "listen tcp " ++ address ++ bytes ": bind: cannot assign requested address"

namespace Address

/-- Opens a host in brackets. -/
def opening : UInt8 := 0x5B

/-- Closes a host in brackets. -/
def closing : UInt8 := 0x5D

/-- Stands between host and service. -/
def colon : UInt8 := byte ':'

/-- No service is given. -/
def missingService : Bytes := bytes "missing port in address"

/-- A host has colons and no brackets. -/
def tooManyColons : Bytes := bytes "too many colons in address"

/-- Host and service of an address that starts with a bracket. -/
def splitBracketed (address inner : Bytes) : Except AddressProblem (Bytes × Bytes) :=
  match Bytes.cut? inner closing with
  | none => .error (.malformed address (bytes "missing ']' in address"))
  | some (host, rest) =>
    match rest with
    | [] => .error (.malformed address missingService)
    | b :: service =>
      if b != colon then .error (.malformed address missingService)
      else if service.contains colon then .error (.malformed address tooManyColons)
      else if host.contains opening || service.contains opening then
        .error (.malformed address (bytes "unexpected '[' in address"))
      else if service.contains closing then
        .error (.malformed address (bytes "unexpected ']' in address"))
      else .ok (host, service)

/-- Host and service of an address. -/
def split (address : Bytes) : Except AddressProblem (Bytes × Bytes) :=
  if !address.contains colon then .error (.malformed address missingService)
  else if address.head? == some opening then splitBracketed address (address.drop 1)
  else
    match Bytes.cut? address colon with
    | none => .error (.malformed address missingService)
    | some (host, service) =>
      if service.contains colon then .error (.malformed address tooManyColons)
      else if address.contains opening then
        .error (.malformed address (bytes "unexpected '[' in address"))
      else if address.contains closing then
        .error (.malformed address (bytes "unexpected ']' in address"))
      else .ok (host, service)

/-- The services that have names. -/
def namedServices : List (Bytes × Nat) :=
  [(bytes "ftp", 21), (bytes "ftps", 990), (bytes "gopher", 70),
    (bytes "http", 80), (bytes "https", 443), (bytes "imap2", 143), (bytes "imap3", 220),
    (bytes "imaps", 993), (bytes "pop3", 110), (bytes "pop3s", 995), (bytes "smtp", 25),
    (bytes "submissions", 465), (bytes "ssh", 22), (bytes "telnet", 23)]

/-- The greatest service. -/
def greatestService : Nat := 65535

/-- The first service that is not reserved for the system. -/
def firstFreeService : Nat := 1024

/-- The number of words of 32 bits, in which services are counted. -/
def countLimit : Nat := Nat.pow 2 32

/-- The count from which on no further digit is taken in. -/
def countCutoff : Nat := Nat.pow 2 30

/-- Read the digits of a service, with `n` for those before. The count is one of 32 bits: a multiple of
ten that does not fit is cut down, and only where a digit cannot be added any more, reading stops with
the greatest count. There is no number if something else than a digit is met before. -/
def countFrom : Nat → Bytes → Option Nat
  | n, [] => some n
  | n, b :: rest =>
    if !Bytes.isDigit b then none
    else if n ≥ countCutoff then some (countLimit - 1)
    else
      let next := n * 10 % countLimit + (b.toNat - 48)
      if next ≥ countLimit then some (countLimit - 1) else countFrom next rest

/-- The number of a service. A sign before its digits is allowed, and no digits are zero. -/
def serviceNumber (service : Bytes) : Except AddressProblem Nat :=
  let isNegative := service.head? == some (byte '-')
  let digits := if isNegative || service.head? == some (byte '+') then service.drop 1 else service
  match countFrom 0 digits with
  | some n =>
    if n == 0 || !isNegative && n ≤ greatestService then .ok n
    else .error (.malformed service (bytes "invalid port"))
  | none =>
    match namedServices.lookup (Bytes.lower service) with
    | some n => .ok n
    | none => .error (.unknownService service)

/-- The address of a host and a service. -/
def shown (host : Host) (service : Nat) : Bytes := host.text ++ colon :: Decimal.ofNat service

/-- The address that is listened on. All addresses are shown as two colons. -/
def listening (host : Host) (service : Nat) : Bytes :=
  if host.isAny then bytes "[::]:" ++ Decimal.ofNat service else shown host service

/-- The address that is listened on for the text of one. -/
def resolve (address : Bytes) : Except AddressProblem Bytes := do
  let (name, service) ← if address.isEmpty then .ok ([], []) else split address
  let service ← serviceNumber service
  match (Host.read name).resolved with
  | none => .error (.unknownHost name)
  | some host =>
    if 0 < service && service < firstFreeService then .error (.reserved (shown host service))
    else if !host.isOwn then .error (.foreign (shown host service))
    else .ok (listening host service)

end Address

end Server

end FunctionChain
