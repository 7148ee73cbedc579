import ClusterInfra.Reconcile.Deletion
import ClusterInfra.Reconcile.Normal
/-!
Reconciling an `AWSCluster`.

An invocation fetches the object and its owner, decides once in which mode the object is, and runs
one pass or none. After a pass the scope is closed: its conditions are persisted even if the pass
failed, and the error of the pass counts more than the one of persisting.
-/

namespace ClusterInfra

/-- The mode of an object, decided once per invocation. -/
inductive Mode
  /-- No `Cluster` owns the object yet. -/
  | unowned
  /-- The object or its owner is paused. -/
  | paused
  /-- Deletion has been requested. -/
  | deleting
  /-- The object is live. -/
  | active
  deriving DecidableEq, Repr

namespace Mode

/-- The name of a mode. -/
def name : Mode → String
  | .unowned => "Unowned"
  | .paused => "Paused"
  | .deleting => "Deleting"
  | .active => "Active"

/-- The mode of an object with its owner. A paused object is left alone even when it is being
deleted. -/
def observe (object : AwsCluster) : Option Cluster → Mode
  | none => .unowned
  | some owner =>
    if owner.isPaused || object.metadata.isPaused then .paused
    else if object.metadata.isDeleting then .deleting
    else .active

end Mode

namespace Attempt

variable {σ : Type}

/-- Brings the `Ready` condition up to date and persists what is still pending. -/
def close (a : Attempt σ) : Except ControllerError Unit × Attempt σ :=
  (a.update fun now scope => scope.conclude now).persist

/-- Closes the attempt after its pass. A pass that succeeded has succeeded only if this does. -/
def finish : Except ControllerError Outcome × Attempt σ → Except ControllerError Outcome × Attempt σ
  | (result, a) =>
    match result, a.close with
    | .ok outcome, (.ok (), a) => (.ok outcome, a)
    | .ok _, (.error e, a) => (.error e, a)
    | .error e, (_, a) => (.error e, a)

/-- Runs the pass for a mode and closes the attempt. -/
def run (cloud : Cloud σ) (dnsRequeue : Nat) (deleting : Bool) (a : Attempt σ) :
    Except ControllerError Outcome × Attempt σ :=
  finish (if deleting then a.runDelete cloud else a.runNormal cloud dnsRequeue)

end Attempt

namespace World

variable {σ : Type}

/-- Fetches the `Cluster` that owns an object, from the namespace of the object; nothing if no
owner is named. -/
def resolveOwner (world : World σ) (object : AwsCluster) :
    Except ControllerError (Option Cluster) × World σ :=
  match object.metadata.ownerCluster? with
  | none => (.ok none, world)
  | some name =>
    let key : ObjectKey := ⟨object.metadata.ns.getD "", name⟩
    match world.getCluster key with
    | (.error e, world) => (.error e, world)
    | (.ok (some cluster), world) => (.ok (some cluster), world)
    | (.ok none, world) => (.error (.ownerNotFound key.text), world)

/-- Runs a pass on an object that is live or being deleted. -/
def attempt (cloud : Cloud σ) (dnsRequeue : Nat) (cancelled : Bool) (mode : Mode)
    (cluster : Cluster) (object : AwsCluster) (world : World σ) :
    Except ControllerError Outcome × World σ :=
  match Scope.of cluster object with
  | .error e => (.error e, world)
  | .ok scope =>
    let (result, a) := Attempt.run cloud dnsRequeue (mode = .deleting) { world, scope, cancelled }
    (result, a.world)

/-- Reconciles the object at a key. An object that is missing, managed by something else, without
an owner or paused is left alone. -/
def reconcile (cloud : Cloud σ) (dnsRequeue : Nat) (key : ObjectKey) (cancelled : Bool)
    (world : World σ) : Except ControllerError Outcome × World σ :=
  match world.getAwsCluster key with
  | (.error e, world) => (.error e, world)
  | (.ok none, world) => (.ok .noRequeue, world)
  | (.ok (some object), world) =>
    if object.metadata.isExternallyManaged then (.ok .noRequeue, world)
    else
      match world.resolveOwner object with
      | (.error e, world) => (.error e, world)
      | (.ok owner, world) =>
        match Mode.observe object owner, owner with
        | .active, some cluster => world.attempt cloud dnsRequeue cancelled .active cluster object
        | .deleting, some cluster =>
          world.attempt cloud dnsRequeue cancelled .deleting cluster object
        | _, _ => (.ok .noRequeue, world)

end World

end ClusterInfra
