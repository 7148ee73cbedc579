import ClusterInfra.Reconcile.World
import ClusterInfra.Scope
/-!
One reconciliation under way.

An attempt is the world together with the scope of the object and whether the invocation has been
cancelled. Service calls and look-ups are not started once it is, and one that is interrupted counts
as cancelled.
-/

namespace ClusterInfra

/-- What a successful reconciliation asks for. -/
inductive Outcome
  | noRequeue
  | requeueAfter (seconds : Nat)
  deriving DecidableEq, Repr

/-- The label under which a successful reconciliation is counted. -/
def Outcome.label : Outcome → String
  | .noRequeue => "success"
  | .requeueAfter _ => "requeue"

/-- The delay that an outcome asks for. -/
def Outcome.delay? : Outcome → Option Nat
  | .noRequeue => none
  | .requeueAfter seconds => some seconds

/-- A reconciliation under way. -/
structure Attempt (σ : Type) where
  world : World σ
  scope : Scope
  cancelled : Bool

namespace Attempt

variable {σ : Type}

/-- Writes an event into the journal. -/
def log (a : Attempt σ) (event : Event) : Attempt σ :=
  { a with world := a.world.log event }

/-- Counts a call that failed or was cancelled. -/
def countFailure (a : Attempt σ) (call : ServiceCall) : Attempt σ :=
  { a with world := a.world.countFailure call }

/-- The stored copy of the object that the scope was loaded from. -/
def held (a : Attempt σ) : Option AwsCluster := a.world.store.awsClusters.get? a.scope.saved.key

/-- Changes the scope at the current time. -/
def update (a : Attempt σ) (change : Instant → Scope → Scope) : Attempt σ :=
  let (now, clock) := a.world.clock.read
  { a with world := { a.world with clock }, scope := change now a.scope }

/-- Persists what the scope has staged, if anything, and goes on from the persisted state. -/
def persist (a : Attempt σ) : Except ControllerError Unit × Attempt σ :=
  if a.scope.hasChanges then
    match a.world.persist a.scope.saved a.scope.object with
    | (.error e, world) => (.error e, { a with world })
    | (.ok version, world) => (.ok (), { a with world, scope := a.scope.rebased version })
  else (.ok (), a)

/-- Takes in what a call did. -/
def absorb (a : Attempt σ) (reply : Reply) (cloud : σ) : Attempt σ :=
  { world := { a.world with
      cloud, store := reply.stored.foldl Store.insertAwsCluster a.world.store }
    scope := { a.scope with object := reply.object }
    cancelled := a.cancelled || reply.cancelled || reply.ending = .interrupted }

/-- Builds a service in a context and calls it, unless the invocation has been cancelled. -/
def call (cloud : Cloud σ) (context : ServiceContext) (call : ServiceCall) (a : Attempt σ) :
    Except StepError Unit × Attempt σ :=
  let a := a.log (.built context)
  if a.cancelled then (.error .cancelled, a)
  else
    let (reply, state) := cloud.call call context a.scope.object a.world.cloud
    let a := ((a.log (.called call a.held)).absorb reply state).log (.returned call reply.ending)
    match reply.ending with
    | .done => (.ok (), a)
    | .failed error => (.error (.failed error), a)
    | .interrupted => (.error .cancelled, a)

/-- Looks a host up, unless the invocation has been cancelled; nothing if it is. -/
def lookUp (cloud : Cloud σ) (host : String) (a : Attempt σ) : Option Bool × Attempt σ :=
  if a.cancelled then (none, a)
  else
    let (answer, state) := cloud.lookUp host a.world.cloud
    let a := { a with world := { a.world with cloud := state } }.log (.lookedUp host a.held)
    match answer with
    | .answered resolves => (some resolves, a)
    | .interrupted => (none, { a with cancelled := true })

end Attempt

/-- The condition that reports on a subsystem; the network has none. -/
def Subsystem.condition? : Subsystem → Option String
  | .network => none
  | .securityGroups => some ConditionType.securityGroupsReady
  | .bastion => some ConditionType.bastionReady
  | .loadBalancer => some ConditionType.loadBalancerReady

/-- Records in the condition of a subsystem, if it has one, that it is not ready. -/
def Scope.report (scope : Scope) (subsystem : Subsystem) (reason : String) (severity : Severity)
    (message : String) (now : Instant) : Scope :=
  match subsystem.condition? with
  | none => scope
  | some type => scope.markFalse type reason severity message now

end ClusterInfra
