import ClusterInfra.Dict
import ClusterInfra.Service.Error
/-!
The metrics of the controller.

Reconciliations are counted by their result, failed subsystem calls by subsystem and operation, and
the duration of every reconciliation is kept.
-/

namespace ClusterInfra

/-- How often each of several labels was counted. -/
abbrev Tally := Dict Nat

namespace Tally

/-- The count of a label. -/
def count (tally : Tally) (label : String) : Nat := (tally.find? label).getD 0

/-- Counts a label once. -/
def bump (tally : Tally) (label : String) : Tally := tally.insert label (tally.count label + 1)

@[simp] theorem count_bump_self (tally : Tally) (label : String) :
    (tally.bump label).count label = tally.count label + 1 := by
  simp [bump, count]

theorem count_bump_of_ne (tally : Tally) {label other : String} (h : other ≠ label) :
    (tally.bump label).count other = tally.count other := by
  simp [bump, count, tally.find?_insert_of_ne h]

end Tally

/-- What has been measured. -/
structure Metrics where
  /-- Reconciliations, by result. -/
  results : Tally := {}
  /-- Failed subsystem calls, by operation and then by subsystem. -/
  failures : Dict Tally := {}
  /-- Durations of reconciliations in seconds, oldest first. -/
  durations : List Float := []

namespace Metrics

/-- Counts a reconciliation by its result. -/
def recordResult (metrics : Metrics) (result : String) : Metrics :=
  { metrics with results := metrics.results.bump result }

/-- The failed calls of an operation, by subsystem. -/
def failuresOf (metrics : Metrics) (operation : String) : Tally :=
  (metrics.failures.find? operation).getD {}

/-- How often an operation failed on a subsystem. -/
def failureCount (metrics : Metrics) (subsystem : Subsystem) (operation : String) : Nat :=
  (metrics.failuresOf operation).count subsystem.label

/-- Counts a failed subsystem call. -/
def recordFailure (metrics : Metrics) (subsystem : Subsystem) (operation : String) : Metrics :=
  { metrics with
    failures := metrics.failures.insert operation
      ((metrics.failuresOf operation).bump subsystem.label) }

/-- Records the duration of a reconciliation. -/
def observe (metrics : Metrics) (seconds : Float) : Metrics :=
  { metrics with durations := metrics.durations ++ [seconds] }

theorem failureCount_recordFailure_self (metrics : Metrics) (subsystem : Subsystem)
    (operation : String) :
    (metrics.recordFailure subsystem operation).failureCount subsystem operation
      = metrics.failureCount subsystem operation + 1 := by
  simp [recordFailure, failureCount, failuresOf]

theorem failureCount_recordFailure_of_ne (metrics : Metrics) {call other : ServiceCall}
    (h : other ≠ call) :
    (metrics.recordFailure call.subsystem call.action.label).failureCount other.subsystem
      other.action.label = metrics.failureCount other.subsystem other.action.label := by
  by_cases haction : other.action.label = call.action.label
  · have hsubsystem := (ServiceCall.label_ne h).resolve_right (not_not_intro haction)
    simp only [failureCount, failuresOf, recordFailure, haction, Dict.find?_insert_self,
      Option.getD_some, Tally.count_bump_of_ne _ hsubsystem]
  · simp only [failureCount, failuresOf, recordFailure, Dict.find?_insert_of_ne _ haction]

end Metrics

/-- What is registered to be exported. -/
structure Registry where
  registered : Option Metrics := none

/-- Registers metrics; the names of their families may be taken only once. -/
def Registry.register (registry : Registry) (metrics : Metrics) :
    Except ControllerError Registry :=
  match registry.registered with
  | none => .ok ⟨some metrics⟩
  | some _ => .error (.metrics .alreadyRegistered)

end ClusterInfra
