import ClusterInfra.Metrics.Basic
import ClusterInfra.Text.Decimal
/-!
The text in which metrics are exported.

Families come in the order of their names, and the samples of a family in the order of their label
values. A counter family without samples is left out; the histogram of durations is always there.
The counts of its buckets add up: a bucket counts every duration up to its bound.
-/

namespace ClusterInfra.Metrics

/-- A line of a family. -/
structure Sample where
  name : String
  labels : List (String × String)
  value : String
  deriving DecidableEq, Repr

/-- How a character is written in the value of a label. -/
def escapeLabel (c : Char) : List Char :=
  if c = '\\' then ['\\', '\\']
  else if c = '\n' then ['\\', 'n']
  else if c = '"' then ['\\', '"']
  else [c]

/-- The text of a label. -/
def labelText (label : String × String) : String :=
  label.1 ++ "=\"" ++ String.ofList (label.2.toList.flatMap escapeLabel) ++ "\""

/-- The line of a sample; braces are written around labels only. -/
def Sample.text (sample : Sample) : String :=
  sample.name
    ++ (if sample.labels.isEmpty then ""
        else "\x7b" ++ ",".intercalate (sample.labels.map labelText) ++ "\x7d")
    ++ " " ++ sample.value ++ "\n"

/-- Samples of one name with a description. -/
structure Family where
  name : String
  help : String
  type : String
  samples : List Sample
  deriving DecidableEq, Repr

/-- The lines of a family; there are none without samples. -/
def Family.text (family : Family) : String :=
  if family.samples.isEmpty then ""
  else "# HELP " ++ family.name ++ " " ++ family.help ++ "\n"
    ++ "# TYPE " ++ family.name ++ " " ++ family.type ++ "\n"
    ++ String.join (family.samples.map Sample.text)

/-- The bounds of the buckets of durations, in seconds. -/
def bounds : List Float := [0.05, 0.1, 0.5, 1, 5, 15, 30, 60]

/-- The histogram of durations. -/
def durationFamily (metrics : Metrics) : Family :=
  let name := "awscluster_reconcile_duration_seconds"
  let bucket (le : String) (count : Nat) : Sample :=
    ⟨name ++ "_bucket", [("le", le)], toString count⟩
  let upTo (bound : Float) : Sample :=
    bucket (Text.floatText bound) (metrics.durations.countP (· ≤ bound))
  let total := metrics.durations.length
  { name
    help := "Duration of AWSCluster reconciliations"
    type := "histogram"
    samples := bounds.map upTo ++
      [bucket "+Inf" total,
       ⟨name ++ "_sum", [], Text.floatText (metrics.durations.foldl (· + ·) 0)⟩,
       ⟨name ++ "_count", [], toString total⟩] }

/-- The counter of reconciliations. -/
def resultFamily (metrics : Metrics) : Family :=
  let name := "awscluster_reconciliations_total"
  { name
    help := "AWSCluster reconciliations by result"
    type := "counter"
    samples := metrics.results.entries.map fun (result, count) =>
      ⟨name, [("result", result)], toString count⟩ }

/-- The counter of failed subsystem calls. -/
def failureFamily (metrics : Metrics) : Family :=
  let name := "awscluster_subsystem_failures_total"
  { name
    help := "Failed subsystem calls by subsystem and operation"
    type := "counter"
    samples := metrics.failures.entries.flatMap fun (operation, tally) =>
      tally.entries.map fun (subsystem, count) =>
        ⟨name, [("operation", operation), ("subsystem", subsystem)], toString count⟩ }

/-- All families, by name. -/
def families (metrics : Metrics) : List Family :=
  [metrics.durationFamily, metrics.resultFamily, metrics.failureFamily]

end ClusterInfra.Metrics

namespace ClusterInfra.Registry

/-- The text of everything that is registered. -/
def render (registry : Registry) : String :=
  String.join ((registry.registered.toList.flatMap Metrics.families).map Metrics.Family.text)

end ClusterInfra.Registry
