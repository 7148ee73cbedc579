import ClusterInfra.Resource.Metadata
/-!
Status conditions.

A condition has a type, one of three statuses and, where it is false, a severity that tells waiting
from broken. A list of conditions is read by the first entry of a type. `Conditions.set` keeps the
transition time while the status stays, so that repeating an observation changes nothing, and
`Conditions.summarize` condenses several types into one `Ready` condition.
-/

namespace ClusterInfra

/-! The types of conditions that the controller reports. -/
namespace ConditionType

def ready : String := "Ready"
def securityGroupsReady : String := "ClusterSecurityGroupsReady"
def bastionReady : String := "BastionHostReady"
def loadBalancerReady : String := "LoadBalancerReady"

end ConditionType

/-! The reasons that the controller gives. -/
namespace Reason

def securityGroupsFailed : String := "SecurityGroupReconciliationFailed"
def bastionFailed : String := "BastionHostFailed"
def loadBalancerFailed : String := "LoadBalancerFailed"
def waitForDnsName : String := "WaitForDNSName"
def waitForDnsNameResolve : String := "WaitForDNSNameResolve"
def deleted : String := "Deleted"
def deletionFailed : String := "DeletionFailed"
def pending : String := "Pending"

end Reason

/-- Whether a condition holds. -/
inductive ConditionStatus
  | true
  | false
  | unknown
  deriving DecidableEq, Repr, Inhabited

/-- How bad it is that a condition is false. -/
inductive Severity
  | none
  | info
  | warning
  | error
  deriving DecidableEq, Repr, Inhabited

namespace Severity

/-- The place of a severity in their order. -/
def rank : Severity → Nat
  | .none => 0
  | .info => 1
  | .warning => 2
  | .error => 3

/-- The name of a severity; no severity has the empty name. -/
def name : Severity → String
  | .none => ""
  | .info => "Info"
  | .warning => "Warning"
  | .error => "Error"

/-- All severities, mildest first. -/
def all : List Severity := [.none, .info, .warning, .error]

/-- The severity of a name. -/
def ofName? (name : String) : Option Severity := all.find? (·.name = name)

end Severity

namespace ConditionStatus

/-- The name of a status. -/
def name : ConditionStatus → String
  | .true => "True"
  | .false => "False"
  | .unknown => "Unknown"

/-- All statuses. -/
def all : List ConditionStatus := [.true, .false, .unknown]

/-- The status of a name. -/
def ofName? (name : String) : Option ConditionStatus := all.find? (·.name = name)

end ConditionStatus

/-- A condition of a resource. -/
structure Condition where
  type : String
  status : ConditionStatus
  severity : Severity := .none
  lastTransitionTime : Option Instant := none
  reason : Option String := none
  message : Option String := none
  deriving DecidableEq

instance : Codec ConditionStatus where
  encode status := .str status.name
  decode? document := document.alternative?.bind ConditionStatus.ofName?

instance : Codec Severity where
  encode severity := .str severity.name
  decode? document := document.alternative?.bind Severity.ofName?

open Record in
instance : Codec Condition where
  encode condition := .obj <|
    memberIfSome "lastTransitionTime" condition.lastTransitionTime
    ++ memberIfSome "message" condition.message
    ++ memberIfSome "reason" condition.reason
    ++ memberUnless (condition.severity = .none) "severity" condition.severity
    ++ member "status" condition.status
    ++ member "type" condition.type
  decode? document := do
    let fields ← fields?
      ["type", "status", "severity", "lastTransitionTime", "reason", "message"] 2 document
    return {
      type := ← required fields "type"
      status := ← required fields "status"
      severity := ← defaulted fields "severity" .none
      lastTransitionTime := ← optional fields "lastTransitionTime"
      reason := ← optional fields "reason"
      message := ← optional fields "message" }

namespace Condition

/-- A text, or nothing if it is empty. -/
def textOrNone (text : String) : Option String :=
  if text.isEmpty then none else some text

/-- The condition that a type holds. -/
def holds (type : String) : Condition := { type, status := .true }

/-- The condition that a type does not hold. -/
def fails (type reason : String) (severity : Severity) (message : String) : Condition :=
  { type, status := .false, severity, reason := some reason, message := textOrNone message }

/-- The condition that a type is not known. -/
def unknown (type reason message : String) : Condition :=
  { type, status := .unknown, reason := some reason, message := textOrNone message }

/-- Whether a condition holds. -/
def isTrue (condition : Condition) : Bool := condition.status = .true

/-- An entry brought up to date by a new observation of its type. With the same status only
severity, reason and message are taken over; another status replaces the entry and sets the time. -/
def observe (condition new : Condition) (now : Instant) : Condition :=
  if condition.status = new.status then
    { condition with severity := new.severity, reason := new.reason, message := new.message }
  else { new with lastTransitionTime := some now }

end Condition

/-- The conditions of a resource. -/
abbrev Conditions := List Condition

namespace Conditions

/-- The condition of a type: the first entry of it. -/
def get? (conditions : Conditions) (type : String) : Option Condition :=
  conditions.find? (·.type = type)

/-- Records a condition: in the first entry of its type, or else at the end, where it gets the
current time unless it brings its own. -/
def set (new : Condition) (now : Instant) : Conditions → Conditions
  | [] => [{ new with lastTransitionTime := some (new.lastTransitionTime.getD now) }]
  | condition :: rest =>
    if condition.type = new.type then condition.observe new now :: rest
    else condition :: set new now rest

/-- Records that a type holds. -/
def markTrue (conditions : Conditions) (type : String) (now : Instant) : Conditions :=
  conditions.set (.holds type) now

/-- Records that a type does not hold. -/
def markFalse (conditions : Conditions) (type reason : String) (severity : Severity)
    (message : String) (now : Instant) : Conditions :=
  conditions.set (.fails type reason severity message) now

/-- Takes every entry of a type out. -/
def delete (conditions : Conditions) (type : String) : Conditions :=
  conditions.filter (·.type ≠ type)

/-- What a walk over the types of a summary has found so far: the worst condition that is false,
and the first type that is missing or unknown. -/
structure Findings where
  worst : Option Condition := none
  pending : Option String := none

/-- Takes a type into the findings; only a greater severity outdoes the worst so far. -/
def Findings.add (conditions : Conditions) (findings : Findings) (type : String) : Findings :=
  match conditions.get? type with
  | none => { findings with pending := findings.pending.or (some type) }
  | some condition =>
    match condition.status with
    | .true => findings
    | .unknown => { findings with pending := findings.pending.or (some type) }
    | .false =>
      match findings.worst with
      | none => { findings with worst := some condition }
      | some worst =>
        if worst.severity.rank < condition.severity.rank then
          { findings with worst := some condition }
        else findings

/-- The `Ready` condition that findings amount to. -/
def Findings.summary (findings : Findings) : Condition :=
  match findings.worst, findings.pending with
  | some worst, _ =>
    .fails ConditionType.ready (worst.reason.getD "") worst.severity (worst.message.getD "")
  | none, some type =>
    .unknown ConditionType.ready Reason.pending (type ++ " has not been reported yet")
  | none, none => .holds ConditionType.ready

/-- Condenses the conditions of some types into a `Ready` condition: false like the worst of them
that is false, the earliest such type winning ties; else unknown if one is missing or unknown. -/
def summarize (conditions : Conditions) (types : List String) : Condition :=
  (types.foldl (Findings.add conditions) {}).summary

end Conditions

end ClusterInfra
