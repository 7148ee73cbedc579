import ClusterInfra.Reconcile.Attempt
/-!
The normal pass: creating and updating the infrastructure of a live cluster.

The finalizer is stored before anything is created. Then the subsystems are reconciled in the order
in which they depend on each other, and the first failure ends the pass. Once the load balancer is
there, its DNS name decides between waiting and publishing: endpoint, failure domains and the ready
flag.
-/

namespace ClusterInfra

/-- The reason that the condition of a subsystem gives when its reconciliation failed. -/
def Subsystem.failureReason : Subsystem → String
  | .network => ""
  | .securityGroups => Reason.securityGroupsFailed
  | .bastion => Reason.bastionFailed
  | .loadBalancer => Reason.loadBalancerFailed

namespace Scope

/-- Records that a subsystem was reconciled. The condition of a bastion that is not wanted goes;
that of the load balancer has to wait for its DNS name. -/
def reconciled (scope : Scope) (subsystem : Subsystem) (now : Instant) : Scope :=
  match subsystem with
  | .network | .loadBalancer => scope
  | .securityGroups => scope.markTrue ConditionType.securityGroupsReady now
  | .bastion =>
    if scope.object.spec.bastion.enabled then scope.markTrue ConditionType.bastionReady now
    else scope.deleteCondition ConditionType.bastionReady

/-- Records what the load balancer is waiting for. -/
def waiting (scope : Scope) (reason message : String) (now : Instant) : Scope :=
  scope.report .loadBalancer reason .info message now

/-- Sets the endpoint of the control plane, unless it is set already. -/
def ensureEndpoint (scope : Scope) (host : String) : Scope :=
  if scope.object.spec.controlPlaneEndpoint.isZero then
    scope.setControlPlaneEndpoint { host, port := scope.object.apiServerPort }
  else scope

/-- Publishes the zone of every private subnet as a failure domain of the control plane. -/
def publishZones (scope : Scope) : Scope :=
  scope.object.privateSubnets.foldl
    (fun scope subnet => scope.setFailureDomain subnet.availabilityZone { controlPlane := true })
    scope

/-- Declares the infrastructure ready behind a host that resolves. -/
def publish (scope : Scope) (host : String) (now : Instant) : Scope :=
  (((scope.markTrue ConditionType.loadBalancerReady now).ensureEndpoint host).publishZones).setReady
    true

end Scope

namespace Attempt

variable {σ : Type}

/-- Makes sure that the finalizer is stored. -/
def ensureFinalizer (a : Attempt σ) : Except ControllerError Unit × Attempt σ :=
  match a.scope.addFinalizer with
  | (false, _) => (.ok (), a)
  | (true, scope) => { a with scope }.persist

/-- Reconciles one subsystem and reports on it. -/
def reconcileSubsystem (cloud : Cloud σ) (context : ServiceContext) (subsystem : Subsystem)
    (a : Attempt σ) : Except ControllerError Unit × Attempt σ :=
  let call : ServiceCall := ⟨.reconcile, subsystem⟩
  match a.call cloud context call with
  | (.ok (), a) => (.ok (), a.update fun now scope => scope.reconciled subsystem now)
  | (.error e, a) =>
    (.error (e.toControllerError call),
      (a.countFailure call).update fun now scope =>
        scope.report subsystem subsystem.failureReason .warning e.message now)

/-- Reconciles subsystems in order, up to the first failure. -/
def reconcileInOrder (cloud : Cloud σ) (context : ServiceContext) :
    List Subsystem → Attempt σ → Except ControllerError Unit × Attempt σ
  | [], a => (.ok (), a)
  | subsystem :: rest, a =>
    match a.reconcileSubsystem cloud context subsystem with
    | (.error e, a) => (.error e, a)
    | (.ok (), a) => reconcileInOrder cloud context rest a

/-- Waits for the DNS name of the load balancer, or publishes it once it resolves. -/
def awaitDnsName (cloud : Cloud σ) (dnsRequeue : Nat) (a : Attempt σ) :
    Except ControllerError Outcome × Attempt σ :=
  match a.scope.object.dnsName? with
  | none =>
    (.ok (.requeueAfter dnsRequeue),
      a.update fun now scope => scope.waiting Reason.waitForDnsName "" now)
  | some host =>
    match a.lookUp cloud host with
    | (none, a) => (.error (.cancelled .loadBalancer), a)
    | (some false, a) =>
      (.ok (.requeueAfter dnsRequeue),
        a.update fun now scope =>
          scope.waiting Reason.waitForDnsNameResolve (host ++ " does not resolve yet") now)
    | (some true, a) => (.ok .noRequeue, a.update fun now scope => scope.publish host now)

/-- The normal pass. -/
def runNormal (cloud : Cloud σ) (dnsRequeue : Nat) (a : Attempt σ) :
    Except ControllerError Outcome × Attempt σ :=
  match a.ensureFinalizer with
  | (.error e, a) => (.error e, a)
  | (.ok (), a) =>
    match a.reconcileInOrder cloud a.scope.context Subsystem.creationOrder with
    | (.error e, a) => (.error e, a)
    | (.ok (), a) => a.awaitDnsName cloud dnsRequeue

end Attempt

end ClusterInfra
