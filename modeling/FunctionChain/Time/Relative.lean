import FunctionChain.Time.Timestamp

/-!
# Times in relation to now

How long ago a time was, or how far ahead it is, in round words. Months have thirty days here, and
years twelve such months.
-/

namespace FunctionChain

namespace Relative

def day : Nat := 24 * Duration.hour
def week : Nat := 7 * day
def month : Nat := 30 * day
def year : Nat := 12 * month

/-- One step of the scale: below `limit`, so many units of `unit`, or words without a number. -/
structure Step where
  limit : Nat
  unit : Option Nat
  words : Bytes

/-- The scale, from short to long. -/
def scale : List Step :=
  [⟨Duration.second, none, bytes "now"⟩,
    ⟨2 * Duration.second, none, bytes "1 second "⟩,
    ⟨Duration.minute, some Duration.second, bytes " seconds "⟩,
    ⟨2 * Duration.minute, none, bytes "1 minute "⟩,
    ⟨Duration.hour, some Duration.minute, bytes " minutes "⟩,
    ⟨2 * Duration.hour, none, bytes "1 hour "⟩,
    ⟨day, some Duration.hour, bytes " hours "⟩,
    ⟨2 * day, none, bytes "1 day "⟩,
    ⟨week, some day, bytes " days "⟩,
    ⟨2 * week, none, bytes "1 week "⟩,
    ⟨month, some week, bytes " weeks "⟩,
    ⟨2 * month, none, bytes "1 month "⟩,
    ⟨year, some month, bytes " months "⟩,
    ⟨18 * month, none, bytes "1 year "⟩,
    ⟨2 * year, none, bytes "2 years "⟩,
    ⟨37 * year, some year, bytes " years "⟩]

/-- A time in relation to now. -/
def describe (now time : Timestamp) : Bytes :=
  let isAhead := now.isBefore time
  let distance := (if isAhead then time.since now else now.since time).natAbs
  let side := if isAhead then bytes "from now" else bytes "ago"
  match scale.find? (distance < ·.limit) with
  | none => bytes "a long while " ++ side
  | some step =>
    match step.unit with
    | some unit => Decimal.ofNat (distance / unit) ++ step.words ++ side
    | none => if distance < Duration.second then step.words else step.words ++ side

end Relative

end FunctionChain
