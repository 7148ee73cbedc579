import ClusterInfra.Store.Memory
/-!
The scope of one reconciliation.

A scope holds the object being reconciled, its owner, and the object as it was last persisted.
Changes are staged on the object; `Scope.persist` writes what differs from the persisted state, and
`Scope.conclude` brings the `Ready` summary up to date before the last write.
-/

namespace ClusterInfra

/-- The object of a reconciliation with its owner and its last persisted state. -/
structure Scope where
  cluster : Cluster
  object : AwsCluster
  saved : AwsCluster
  deriving DecidableEq, Inhabited

/-- Whether a text is missing or empty. -/
def isBlankName (name : Option String) : Bool := (name.getD "").isEmpty

namespace Scope

/-- Builds a scope; an object without name, namespace or region cannot be reconciled. -/
def of (cluster : Cluster) (object : AwsCluster) : Except ControllerError Scope :=
  let name := object.metadata.name.getD ""
  if isBlankName object.metadata.name then
    .error (.invalidScope "AWSCluster has no name")
  else if isBlankName object.metadata.ns then
    .error (.invalidScope ("AWSCluster " ++ name ++ " has no namespace"))
  else if object.spec.region.isEmpty then
    .error (.invalidScope ("AWSCluster " ++ name ++ " has no region"))
  else .ok { cluster, object, saved := object }

/-- The key of the object. -/
def key (scope : Scope) : ObjectKey := scope.object.key

/-- The context in which services are built for the object. -/
def context (scope : Scope) : ServiceContext :=
  ⟨scope.object.spec.region, scope.key.ns, scope.key.name⟩

/-- Changes the object. -/
def modifyObject (scope : Scope) (change : AwsCluster → AwsCluster) : Scope :=
  { scope with object := change scope.object }

/-- Changes the status of the object; where there is none, the default one. -/
def modifyStatus (scope : Scope) (change : AwsClusterStatus → AwsClusterStatus) : Scope :=
  scope.modifyObject (·.modifyStatus change)

/-- Changes the finalizers of the object. -/
def setFinalizers (scope : Scope) (finalizers : Option (List String)) : Scope :=
  scope.modifyObject fun object =>
    { object with metadata := { object.metadata with finalizers } }

/-- Adds the finalizer at the end unless it is there; tells whether it was added. -/
def addFinalizer (scope : Scope) : Bool × Scope :=
  if scope.object.hasFinalizer then (false, scope)
  else (true, scope.setFinalizers
    (some (scope.object.metadata.finalizers.getD [] ++ [clusterFinalizer])))

/-- Removes every occurrence of the finalizer; tells whether there was one. -/
def removeFinalizer (scope : Scope) : Bool × Scope :=
  match scope.object.metadata.finalizers with
  | none => (false, scope)
  | some finalizers =>
    let kept := finalizers.filter (· ≠ clusterFinalizer)
    (kept.length ≠ finalizers.length, scope.setFinalizers (some kept))

/-- Changes the conditions of the object. -/
def modifyConditions (scope : Scope) (change : Conditions → Conditions) : Scope :=
  scope.modifyStatus fun status => { status with conditions := change status.conditions }

/-- Records that a type holds. -/
def markTrue (scope : Scope) (type : String) (now : Instant) : Scope :=
  scope.modifyConditions (·.markTrue type now)

/-- Records that a type does not hold. -/
def markFalse (scope : Scope) (type reason : String) (severity : Severity) (message : String)
    (now : Instant) : Scope :=
  scope.modifyConditions (·.markFalse type reason severity message now)

/-- Takes a condition out; without a status there is none. -/
def deleteCondition (scope : Scope) (type : String) : Scope :=
  match scope.object.status with
  | none => scope
  | some _ => scope.modifyConditions (·.delete type)

/-- Sets the endpoint of the control plane. -/
def setControlPlaneEndpoint (scope : Scope) (endpoint : Endpoint) : Scope :=
  scope.modifyObject fun object =>
    { object with spec := { object.spec with controlPlaneEndpoint := endpoint } }

/-- Publishes a failure domain. -/
def setFailureDomain (scope : Scope) (zone : String) (domain : FailureDomain) : Scope :=
  scope.modifyStatus fun status =>
    { status with failureDomains := status.failureDomains.insert zone domain }

/-- Sets the ready flag. -/
def setReady (scope : Scope) (ready : Bool) : Scope :=
  scope.modifyStatus fun status => { status with ready }

/-- Whether something has not been persisted: status, finalizers or spec. -/
def hasChanges (scope : Scope) : Bool :=
  scope.saved.status ≠ scope.object.status
    || scope.saved.metadata.finalizers ≠ scope.object.metadata.finalizers
    || scope.saved.spec ≠ scope.object.spec

/-- The scope after its object was persisted as the given version. -/
def rebased (scope : Scope) (version : Option String) : Scope :=
  let object := scope.object.withVersion version
  { scope with object, saved := object }

/-- The types that the `Ready` condition summarizes; the bastion counts only where it is wanted. -/
def summarizedTypes (bastionEnabled : Bool) : List String :=
  if bastionEnabled then
    [ConditionType.securityGroupsReady, ConditionType.bastionReady, ConditionType.loadBalancerReady]
  else [ConditionType.securityGroupsReady, ConditionType.loadBalancerReady]

/-- Brings the `Ready` condition up to date. -/
def conclude (scope : Scope) (now : Instant) : Scope :=
  let ready := scope.object.conditions.summarize
    (summarizedTypes scope.object.spec.bastion.enabled)
  scope.modifyConditions (·.set ready now)

end Scope

end ClusterInfra
