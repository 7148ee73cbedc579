import ClusterInfra.Backoff
import ClusterInfra.Reconcile.Dispatch
import ClusterInfra.Reconcile.Mapping
/-!
The controller: reconciliations one after the other, with a delay per object after failures.

Every object has a sequence of delays of its own, which begins with its first failure and ends with
its next success.
-/

namespace ClusterInfra

/-- The state that outlives a reconciliation. -/
structure Controller (σ : Type) where
  world : World σ
  backoffs : Table String Pace := .empty

namespace Controller

variable {σ : Type}

/-- The delays after failures: from 5 to 300 seconds. -/
def freshBackoff : Pace where
  backoff := .between 5 300
  previous_le := by decide
  current_le := by decide
  short := by decide

/-- The delay before the next attempt on an object whose reconciliation failed. -/
def nextBackoff (controller : Controller σ) (key : String) : UInt64 × Controller σ :=
  let (delay, backoff) := ((controller.backoffs.get? key).getD freshBackoff).next
  (delay, { controller with backoffs := controller.backoffs.insert key backoff })

/-- Forgets the failures of an object. -/
def resetBackoff (controller : Controller σ) (key : String) : Controller σ :=
  { controller with backoffs := controller.backoffs.erase key }

/-- Reconciles an object. -/
def reconcile (cloud : Cloud σ) (dnsRequeue : Nat) (key : ObjectKey) (cancelled : Bool)
    (controller : Controller σ) : Except ControllerError Outcome × Controller σ :=
  let (result, world) := controller.world.reconcile cloud dnsRequeue key cancelled
  (result, { controller with world })

/-- Changes the metrics. -/
def record (controller : Controller σ) (change : Metrics → Metrics) : Controller σ :=
  { controller with
    world := { controller.world with metrics := change controller.world.metrics } }

/-- Reconciles an object that is due, and measures how long that takes. A success ends the delays
after failures; a failure is followed by the next of them. Returns the result, and the delay in
seconds after which the object is due again. -/
def invoke (cloud : Cloud σ) (dnsRequeue : Nat) (key : ObjectKey) (cancelled : Bool)
    (seconds : Float) (controller : Controller σ) :
    Except ControllerError Outcome × Option Nat × Controller σ :=
  match controller.reconcile cloud dnsRequeue key cancelled with
  | (.ok outcome, controller) =>
    (.ok outcome, outcome.delay?,
      ((controller.record (·.recordResult outcome.label)).resetBackoff key.text).record
        (·.observe seconds))
  | (.error e, controller) =>
    let (delay, controller) :=
      ((controller.record (·.recordResult "error")).record (·.observe seconds)).nextBackoff key.text
    (.error e, some delay.toNat, controller)

end Controller

end ClusterInfra
