import FunctionChain.Text.Decimal

/-!
# Signals

The signals that programs send to each other, with their numbers, what they do to a program that has made
no provision for them, and how the end of a program by a signal is reported.
-/

namespace FunctionChain

namespace Script

/-- What a signal does to a program that has made no provision for it. -/
inductive Signal.Effect where
  | ends
  | nothing
  /-- The program stands still. -/
  | stops
deriving Repr, DecidableEq

/-- A signal. -/
structure Signal where
  number : Nat
  name : Bytes
  effect : Signal.Effect
  /-- The report of a program that it has ended. -/
  report : Bytes
deriving Repr, DecidableEq

namespace Signal

/-- The signals, by number. -/
def all : List Signal :=
  let ending (number : Nat) (name report : String) : Signal :=
    ⟨number, bytes name, .ends, bytes report⟩
  let other (number : Nat) (name : String) (effect : Effect) : Signal :=
    ⟨number, bytes name, effect, []⟩
  [ending 1 "HUP" "Hangup", ending 2 "INT" "", ending 3 "QUIT" "Quit",
    ending 4 "ILL" "Illegal instruction", ending 5 "TRAP" "Trace/breakpoint trap",
    ending 6 "ABRT" "Aborted", ending 7 "BUS" "Bus error", ending 8 "FPE" "Floating point exception",
    ending 9 "KILL" "Killed", ending 10 "USR1" "User defined signal 1",
    ending 11 "SEGV" "Segmentation fault", ending 12 "USR2" "User defined signal 2",
    ending 13 "PIPE" "", ending 14 "ALRM" "Alarm clock", ending 15 "TERM" "Terminated",
    ending 16 "STKFLT" "Stack fault", other 17 "CHLD" .nothing, other 18 "CONT" .nothing,
    other 19 "STOP" .stops, other 20 "TSTP" .stops, other 21 "TTIN" .stops, other 22 "TTOU" .stops,
    other 23 "URG" .nothing, ending 24 "XCPU" "CPU time limit exceeded",
    ending 25 "XFSZ" "File size limit exceeded", ending 26 "VTALRM" "Virtual timer expired",
    ending 27 "PROF" "Profiling timer expired", other 28 "WINCH" .nothing,
    ending 29 "IO" "I/O possible", ending 30 "PWR" "Power failure", ending 31 "SYS" "Bad system call"]

/-- The signal of a number. -/
def ofNumber? (number : Nat) : Option Signal := all.find? (·.number == number)

/-- The signal of a number or a name, in either case of letters. -/
def named? (text : Bytes) : Option Signal :=
  match Decimal.toNat? text with
  | some number => ofNumber? number
  | none => all.find? (·.name == Bytes.upper text)

/-- Whether no program can make provision for the signal. -/
def isCertain (signal : Signal) : Bool := signal.number == 9 || signal.number == 19

end Signal

end Script

end FunctionChain
