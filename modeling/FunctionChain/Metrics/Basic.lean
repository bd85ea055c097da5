import FunctionChain.Text.Decimal
import FunctionChain.Text.Quoted

/-!
# Metrics

Counts of what has happened, by family and labels. A family has a name, a description and a kind:
counters grow, gauges go up and down, and of a histogram only the number of its observations is kept
here. A family appears in listings once it has a sample.
-/

namespace FunctionChain

namespace Metrics

/-- What the number of a sample means. -/
inductive Kind where
  | counter
  | gauge
  | histogram
deriving Repr, DecidableEq

/-- A family of samples. -/
structure Family where
  name : Bytes
  help : Bytes
  kind : Kind
deriving Repr, DecidableEq

/-- What is counted: a family and the values of its labels, by label name. -/
structure Sample where
  family : Family
  labels : List (Bytes × Bytes)
deriving Repr, DecidableEq

/-- The name of a sample in listings. -/
def Sample.name (sample : Sample) : Bytes :=
  match sample.family.kind with
  | .histogram => sample.family.name ++ bytes "_count"
  | _ => sample.family.name

end Metrics

/-- The numbers of all samples so far. -/
structure Metrics where
  numbers : List (Metrics.Sample × Int)
deriving Repr

namespace Metrics

/-- No samples. -/
def empty : Metrics := ⟨[]⟩

/-- Add to the number of a sample. -/
def add (metrics : Metrics) (sample : Sample) (n : Int) : Metrics :=
  match metrics.numbers.lookup sample with
  | some _ =>
    ⟨metrics.numbers.map fun (other, m) => if other == sample then (other, m + n) else (other, m)⟩
  | none => ⟨metrics.numbers ++ [(sample, n)]⟩

/-- Count once. -/
def count (metrics : Metrics) (sample : Sample) : Metrics := metrics.add sample 1

/-- Count several samples. -/
def countAll (metrics : Metrics) (samples : List Sample) : Metrics := samples.foldl count metrics

/-! ## Listings -/

/-- The line of a sample in a plain listing. -/
def lineOf (sample : Sample) (n : Int) : Bytes :=
  sample.name ++ [0x7B] ++ Bytes.joined (bytes ",")
    (sample.labels.map fun (label, value) => label ++ bytes "=" ++ value)
    ++ [0x7D, byte ' '] ++ Decimal.ofInt n

/-- The lines of all samples, in order. -/
def lines (metrics : Metrics) : List Bytes :=
  Bytes.sorted (metrics.numbers.map fun (sample, n) => lineOf sample n)

/-- A label's value in the exposition format. -/
def labelText (value : Bytes) : Bytes :=
  value.flatMap fun b =>
    if b == 0x5C then bytes "\\\\" else if b == 10 then bytes "\\n"
    else if b == 0x22 then bytes "\\\"" else [b]

/-- The line of a sample in the exposition format. -/
def exposedLine (sample : Sample) (n : Int) : Bytes :=
  sample.name
    ++ (if sample.labels.isEmpty then []
      else 0x7B :: Bytes.joined (bytes ",")
        (sample.labels.map fun (label, value) =>
          label ++ bytes "=\"" ++ labelText value ++ bytes "\"") ++ [0x7D])
    ++ bytes " " ++ Decimal.ofInt n

/-- The families that have samples, by name. -/
def families (metrics : Metrics) : List Family :=
  ((metrics.numbers.map (·.1.family)).eraseDups).mergeSort fun a b => Bytes.atMost a.name b.name

/-- The order of samples in a family: by their labels' values. -/
def labelsAtMost (a b : List (Bytes × Bytes)) : Bool :=
  match a, b with
  | [], _ => true
  | _ :: _, [] => false
  | (_, v) :: a, (_, w) :: b =>
    if Bytes.before v w then true else if Bytes.before w v then false else labelsAtMost a b

/-- The counters in the exposition format, with the description of every family. -/
def exposition (metrics : Metrics) : List Bytes :=
  metrics.families.flatMap fun family =>
    (bytes "# HELP " ++ family.name ++ bytes " " ++ family.help) ::
      match family.kind with
      | .counter =>
        ((metrics.numbers.filter (·.1.family == family)).mergeSort fun a b =>
          labelsAtMost a.1.labels b.1.labels).map fun (sample, n) => exposedLine sample n
      | .gauge | .histogram => []

end Metrics

end FunctionChain
