import ClusterInfra.Proofs.Reconcile.Entry
import ClusterInfra.Proofs.Reconcile.Passes
import ClusterInfra.Proofs.Reconcile.Steps
/-!
Watching an invocation from outside.

The reconciler calls services and looks hosts up, but it never looks at the state of what it calls.
So a cloud may be replaced by one that answers alike from a larger state, and every invocation goes
the same way with both. A monitored cloud is one of them: it notes when the invocation has been
cancelled, what was still started afterwards, and the object as the last call left it.
-/

namespace ClusterInfra

variable {σ τ : Type}

/-! ### A larger state -/

/-- A cloud answers like another one, whose state is shown in its own. -/
structure Cloud.Extends (cloud : Cloud τ) (base : Cloud σ) (f : τ → σ) : Prop where
  call : ∀ call context object state, base.call call context object (f state)
    = (cloud.call call context object state).map id f
  lookUp : ∀ host state, base.lookUp host (f state) = (cloud.lookUp host state).map id f

/-- The world with what is shown of the state of its cloud. -/
def World.mapCloud (f : τ → σ) (world : World τ) : World σ := { world with cloud := f world.cloud }

/-- The attempt in that world. -/
def Attempt.mapCloud (f : τ → σ) (a : Attempt τ) : Attempt σ :=
  { a with world := a.world.mapCloud f }

namespace World

variable (f : τ → σ) (world : World τ)

theorem access_mapCloud {α : Type} (call : StoreCall)
    (run : Store → Except ControllerError α × Store) :
    (world.mapCloud f).access call run = (world.access call run).map id (mapCloud f) := by
  simp only [access, mapCloud]
  rcases StoreFault.strike call world.faults with ⟨_ | message, faults⟩ <;> rfl

theorem resolveOwner_mapCloud (object : AwsCluster) :
    (world.mapCloud f).resolveOwner object = (world.resolveOwner object).map id (mapCloud f) := by
  simp only [resolveOwner]
  cases object.metadata.ownerCluster? with
  | none => rfl
  | some name =>
    simp only [getCluster, access_mapCloud]
    rcases world.access .getCluster _ with ⟨e | _ | cluster, world⟩ <;> rfl

end World

namespace Attempt

variable (f : τ → σ) (a : Attempt τ)

@[simp] theorem scope_mapCloud : (a.mapCloud f).scope = a.scope := rfl

theorem persist_mapCloud : (a.mapCloud f).persist = a.persist.map id (mapCloud f) := by
  have hpersist := World.access_mapCloud f a.world .patch (·.persist a.scope.saved a.scope.object)
  cases hchanges : a.scope.hasChanges with
  | false => simp only [persist, mapCloud, hchanges]; rfl
  | true =>
    simp only [persist, World.persist, mapCloud, hchanges, hpersist, if_true]
    rcases a.world.access .patch _ with ⟨e | version, world⟩ <;> rfl

theorem close_mapCloud : (a.mapCloud f).close = a.close.map id (mapCloud f) :=
  persist_mapCloud f (a.update fun now scope => scope.conclude now)

theorem ensureFinalizer_mapCloud :
    (a.mapCloud f).ensureFinalizer = a.ensureFinalizer.map id (mapCloud f) := by
  rcases hadd : a.scope.addFinalizer with ⟨_ | _, scope⟩ <;>
    simp only [ensureFinalizer, scope_mapCloud, hadd]
  · rfl
  · exact persist_mapCloud f { a with scope }

theorem finish_mapCloud (out : Except ControllerError Outcome × Attempt τ) :
    finish (out.map id (mapCloud f)) = (finish out).map id (mapCloud f) := by
  rcases out with ⟨result, a⟩
  simp only [finish, Prod.map, id, close_mapCloud]
  rcases a.close with ⟨_ | _, b⟩ <;> cases result <;> rfl

section Calls

variable {f} {cloud : Cloud τ} {base : Cloud σ} (h : cloud.Extends base f)
include h

theorem call_mapCloud (context : ServiceContext) (call : ServiceCall) :
    (a.mapCloud f).call base context call = (a.call cloud context call).map id (mapCloud f) := by
  rcases a with ⟨world, scope, _ | _⟩
  · have hcall := h.call call context scope.object world.cloud
    rw [call_eq, call_eq]
    simp only [made, mapCloud, World.mapCloud, hcall]
    rfl
  · rfl

theorem lookUp_mapCloud (host : String) :
    (a.mapCloud f).lookUp base host = (a.lookUp cloud host).map id (mapCloud f) := by
  rcases a with ⟨world, scope, _ | _⟩
  · have hlookUp := h.lookUp host world.cloud
    rcases hanswer : cloud.lookUp host world.cloud with ⟨_ | _, state⟩ <;>
      rw [hanswer] at hlookUp <;>
      simp only [Attempt.lookUp, mapCloud, World.mapCloud, hlookUp, hanswer] <;> rfl
  · rfl

theorem carryOut_mapCloud (context : ServiceContext) (call : ServiceCall) :
    (a.mapCloud f).carryOut base context call
      = (a.carryOut cloud context call).map id (mapCloud f) := by
  rw [carryOut, call_mapCloud a h, carryOut]
  rcases a.call cloud context call with ⟨_ | _, b⟩ <;> rfl

theorem reconcileInOrder_mapCloud (context : ServiceContext) :
    ∀ (subsystems : List Subsystem) (a : Attempt τ),
      (a.mapCloud f).reconcileInOrder base context subsystems
        = (a.reconcileInOrder cloud context subsystems).map id (mapCloud f)
  | [], _ => rfl
  | subsystem :: rest, a => by
    rw [reconcileInOrder, reconcileInOrder, reconcileSubsystem_eq, reconcileSubsystem_eq,
      carryOut_mapCloud a h]
    rcases a.carryOut cloud context ⟨.reconcile, subsystem⟩ with ⟨_ | _, b⟩
    · rfl
    · exact reconcileInOrder_mapCloud context rest b

theorem deleteInOrder_mapCloud (context : ServiceContext) :
    ∀ (subsystems : List Subsystem) (a : Attempt τ),
      (a.mapCloud f).deleteInOrder base context subsystems
        = (a.deleteInOrder cloud context subsystems).map id (mapCloud f)
  | [], _ => rfl
  | subsystem :: rest, a => by
    simp only [deleteInOrder, deleteSubsystem_eq, carryOut_mapCloud a h, Prod.map,
      deleteInOrder_mapCloud context rest]
    rfl

theorem awaitDnsName_mapCloud (dnsRequeue : Nat) :
    (a.mapCloud f).awaitDnsName base dnsRequeue
      = (a.awaitDnsName cloud dnsRequeue).map id (mapCloud f) := by
  cases hname : a.scope.object.dnsName? with
  | none =>
    simp only [awaitDnsName, scope_mapCloud, hname]
    rfl
  | some host =>
    simp only [awaitDnsName, scope_mapCloud, hname, lookUp_mapCloud a h]
    rcases a.lookUp cloud host with ⟨_ | _ | _, b⟩ <;> rfl

theorem runNormal_mapCloud (dnsRequeue : Nat) :
    (a.mapCloud f).runNormal base dnsRequeue
      = (a.runNormal cloud dnsRequeue).map id (mapCloud f) := by
  rw [runNormal, runNormal, ensureFinalizer_mapCloud]
  rcases a.ensureFinalizer with ⟨_ | _, b⟩
  · rfl
  · simp only [Prod.map, id, scope_mapCloud, reconcileInOrder_mapCloud h]
    rcases b.reconcileInOrder cloud b.scope.context Subsystem.creationOrder with ⟨_ | _, c⟩
    · rfl
    · exact awaitDnsName_mapCloud c h dnsRequeue

theorem runDelete_mapCloud :
    (a.mapCloud f).runDelete base = (a.runDelete cloud).map id (mapCloud f) := by
  rw [runDelete, runDelete, scope_mapCloud, deleteInOrder_mapCloud h]
  rcases a.deleteInOrder cloud a.scope.context Subsystem.deletionOrder with ⟨_ | _, b⟩ <;> rfl

theorem run_mapCloud (dnsRequeue : Nat) (deleting : Bool) :
    run base dnsRequeue deleting (a.mapCloud f)
      = (run cloud dnsRequeue deleting a).map id (mapCloud f) := by
  rw [run, run, runNormal_mapCloud a h, runDelete_mapCloud a h, ← finish_mapCloud]
  cases deleting <;> rfl

end Calls

end Attempt

namespace World

theorem enter_mapCloud (f : τ → σ) (key : ObjectKey) (world : World τ) :
    (world.mapCloud f).enter key = (world.enter key).map id (mapCloud f) := by
  simp only [enter, getAwsCluster, access_mapCloud]
  rcases world.access .getAwsCluster _ with ⟨e | _ | object, world⟩
  · rfl
  · rfl
  · simp only [Prod.map, id]
    split
    · rfl
    · rw [resolveOwner_mapCloud]
      rcases world.resolveOwner object with ⟨e | owner, world⟩ <;> rfl

/-- An invocation goes the same way if services and resolver have a larger state. -/
theorem reconcile_mapCloud {cloud : Cloud τ} {base : Cloud σ} {f : τ → σ}
    (h : cloud.Extends base f) (dnsRequeue : Nat) (key : ObjectKey) (cancelled : Bool)
    (world : World τ) : (world.mapCloud f).reconcile base dnsRequeue key cancelled
      = (world.reconcile cloud dnsRequeue key cancelled).map id (mapCloud f) := by
  rw [reconcile_eq, reconcile_eq, enter_mapCloud]
  rcases world.enter key with ⟨e | _ | ⟨mode, scope⟩, world⟩
  · rfl
  · rfl
  · have hrun := Attempt.run_mapCloud { world, scope, cancelled } h dnsRequeue (mode = .deleting)
    have hresult := congrArg Prod.fst hrun
    have hworld := congrArg (·.2.world) hrun
    exact Prod.ext hresult hworld

end World

/-! ### Monitoring -/

/-- What a monitor notes of an invocation, beside the state of the cloud. -/
structure Monitor (σ : Type) where
  state : σ
  /-- Whether the invocation has been cancelled by now. -/
  cancelled : Bool
  /-- How many calls and look-ups were started after that. -/
  late : Nat := 0
  /-- The object as the last call left it. -/
  left : Option AwsCluster := none

/-- The cloud with a monitor. -/
def Cloud.monitored (cloud : Cloud σ) : Cloud (Monitor σ) where
  call call context object monitor :=
    let (reply, state) := cloud.call call context object monitor.state
    (reply, {
      state
      cancelled := monitor.cancelled || reply.cancelled || reply.ending = .interrupted
      late := monitor.late + monitor.cancelled.toNat
      left := some reply.object })
  lookUp host monitor :=
    let (answer, state) := cloud.lookUp host monitor.state
    (answer, { monitor with
      state
      cancelled := monitor.cancelled || answer = .interrupted
      late := monitor.late + monitor.cancelled.toNat })

theorem Cloud.monitored_extends (cloud : Cloud σ) : cloud.monitored.Extends cloud Monitor.state :=
  ⟨fun _ _ _ _ => rfl, fun _ _ => rfl⟩

/-- The world in which an invocation is monitored, which has been cancelled before or not. -/
def World.monitored (cancelled : Bool) (world : World σ) : World (Monitor σ) :=
  world.mapCloud fun state => { state, cancelled }

/-- What a monitor has noted by the end of an invocation. -/
def World.noted (cloud : Cloud σ) (dnsRequeue : Nat) (key : ObjectKey) (cancelled : Bool)
    (world : World σ) : Monitor σ :=
  ((world.monitored cancelled).reconcile cloud.monitored dnsRequeue key cancelled).2.cloud

/-- Monitoring does not disturb an invocation. -/
theorem World.reconcile_monitored (cloud : Cloud σ) (dnsRequeue : Nat) (key : ObjectKey)
    (cancelled : Bool) (world : World σ) :
    (world.monitored cancelled).reconcile cloud.monitored dnsRequeue key cancelled
      = (world.reconcile cloud dnsRequeue key cancelled).map id
        (mapCloud fun _ => world.noted cloud dnsRequeue key cancelled) := by
  have h := reconcile_mapCloud cloud.monitored_extends dnsRequeue key cancelled
    (world.monitored cancelled)
  have hshown : (world.monitored cancelled).mapCloud Monitor.state = world := rfl
  rw [hshown] at h
  rw [h]
  rfl

namespace Attempt

/-- A monitor knows whether the invocation has been cancelled, and nothing was started after that.
-/
structure InTime (a : Attempt (Monitor σ)) : Prop where
  cancelled : a.world.cloud.cancelled = a.cancelled
  late : a.world.cloud.late = 0

/-- Every piece of a pass stops at the cancellation. -/
theorem pieces_inTime (cloud : Cloud σ) :
    Pieces cloud.monitored (fun a b => a.InTime → b.InTime) where
  refl _ := id
  trans h h' := h' ∘ h
  call context call a h := by
    rw [call_eq]
    split
    next => exact ⟨h.cancelled, h.late⟩
    next hcancelled =>
      have hmonitor : a.world.cloud.cancelled = false :=
        h.cancelled.trans (Bool.eq_false_iff.2 hcancelled)
      refine ⟨?_, ?_⟩
      · simp [made, absorb, log, World.log, Cloud.monitored, h.cancelled]
      · simp [made, absorb, log, World.log, Cloud.monitored, h.late, hmonitor]
  lookUp host a h := by
    unfold lookUp
    split
    next => exact h
    next hcancelled =>
      have hmonitor : a.world.cloud.cancelled = false :=
        h.cancelled.trans (Bool.eq_false_iff.2 hcancelled)
      rcases hanswer : cloud.lookUp host a.world.cloud.state with ⟨_ | _, state⟩
      all_goals
        simp only [Cloud.monitored, hanswer]
        refine ⟨?_, ?_⟩
        · simp [log, World.log, h.cancelled]
        · simp [log, World.log, h.late, hmonitor]
  countFailure _ _ h := ⟨h.cancelled, h.late⟩
  update _ _ h := ⟨h.cancelled, h.late⟩
  persist a h := by
    have hpersists := a.persists_of_persist
    generalize a.persist = persisted at hpersists
    rcases persisted with ⟨result, b⟩
    cases hpersists <;> exact ⟨h.cancelled, h.late⟩
  addFinalizer _ h := ⟨h.cancelled, h.late⟩

end Attempt

/-- In no invocation is a service called or a host looked up once it has been cancelled. -/
theorem World.late_noted (cloud : Cloud σ) (dnsRequeue : Nat) (key : ObjectKey) (cancelled : Bool)
    (world : World σ) : (world.noted cloud dnsRequeue key cancelled).late = 0 := by
  have hinvoked := (world.monitored cancelled).invoked_reconcile cloud.monitored dnsRequeue key
    cancelled
  rw [noted]
  generalize (world.monitored cancelled).reconcile cloud.monitored dnsRequeue key cancelled
    = invocation at hinvoked
  cases hinvoked with
  | failed => rfl
  | skipped => rfl
  | @passed mode scope faults hentry hadmits result a hrun =>
    have hintime := (Attempt.pieces_inTime cloud).run dnsRequeue (mode = .deleting)
      { world := { world.monitored cancelled with faults }, scope, cancelled }
      fun _ _ _ h => ⟨h.cancelled, h.late⟩
    rw [hrun] at hintime
    exact (hintime ⟨rfl, rfl⟩).late

end ClusterInfra
