import ClusterInfra.Proofs.Reconcile.Invocation
import ClusterInfra.Proofs.Reconcile.Steps
/-!
The exits of the passes.

A normal pass ends where the finalizer cannot be stored, at the first subsystem that cannot be
reconciled, or at the DNS name of the load balancer; a delete pass ends after all its calls.
Whichever exit a pass takes, its journal and its conditions tell the same of each call that it made.
-/

namespace ClusterInfra

variable {σ ν : Type} {cloud : Cloud σ}

/-- The calls of a normal pass, if all of them succeed. -/
def Subsystem.creations : List (ServiceCall × Except StepError Unit) :=
  creationOrder.map fun subsystem => (⟨.reconcile, subsystem⟩, .ok ())

namespace Attempt

variable {dnsRequeue : Nat} {deleting : Bool} {context : ServiceContext} {a b c d : Attempt σ}
  {out : Except ControllerError Outcome × Attempt σ}

/-! ### Calls in their order -/

/-- Reconciling in order carries the calls out, up to the first that fails. -/
theorem carriedOut_reconcileInOrder (cloud : Cloud σ) (context : ServiceContext) :
    ∀ (subsystems : List Subsystem) (a : Attempt σ),
      ((a.reconcileInOrder cloud context subsystems).1 = .ok () ∧ CarriedOut cloud context
        (subsystems.map fun subsystem => (⟨.reconcile, subsystem⟩, .ok ())) a
        (a.reconcileInOrder cloud context subsystems).2) ∨
      ∃ before failed rest e, subsystems = before ++ failed :: rest ∧
        (a.reconcileInOrder cloud context subsystems).1
          = .error (e.toControllerError ⟨.reconcile, failed⟩) ∧
        CarriedOut cloud context
          (before.map (fun subsystem => (⟨.reconcile, subsystem⟩, .ok ()))
            ++ [(⟨.reconcile, failed⟩, .error e)]) a
          (a.reconcileInOrder cloud context subsystems).2
  | [], a => .inl ⟨rfl, .nil a⟩
  | subsystem :: rest, a => by
    rw [reconcileInOrder, reconcileSubsystem_eq]
    rcases hcall : a.carryOut cloud context ⟨.reconcile, subsystem⟩ with ⟨e | _, b⟩
    · exact .inr ⟨[], subsystem, rest, e, rfl, rfl, .cons hcall (.nil b)⟩
    · rcases carriedOut_reconcileInOrder cloud context rest b with
        ⟨hok, hsteps⟩ | ⟨before, failed, others, e, rfl, herror, hsteps⟩
      · exact .inl ⟨hok, .cons hcall hsteps⟩
      · exact .inr ⟨subsystem :: before, failed, others, e, rfl, herror, .cons hcall hsteps⟩

/-- Deleting in order carries all the calls out, and collects the errors of those that failed. -/
theorem carriedOut_deleteInOrder (cloud : Cloud σ) (context : ServiceContext) :
    ∀ (subsystems : List Subsystem) (a : Attempt σ), ∃ steps,
      steps.map (·.1) = subsystems.map (⟨.delete, ·⟩) ∧
      (a.deleteInOrder cloud context subsystems).1
        = steps.filterMap (fun step => step.1.failure? step.2) ∧
      CarriedOut cloud context steps a (a.deleteInOrder cloud context subsystems).2
  | [], a => ⟨[], rfl, rfl, .nil a⟩
  | subsystem :: rest, a => by
    obtain ⟨steps, hcalls, herrors, hsteps⟩ := carriedOut_deleteInOrder cloud context rest
      (a.carryOut cloud context ⟨.delete, subsystem⟩).2
    refine ⟨(⟨.delete, subsystem⟩, (a.carryOut cloud context ⟨.delete, subsystem⟩).1) :: steps,
      ?_, ?_, ?_⟩
    · rw [List.map_cons, hcalls, List.map_cons]
    · simp only [deleteInOrder, deleteSubsystem_eq, herrors, List.filterMap_cons]
      cases ServiceCall.failure? ⟨.delete, subsystem⟩ _ <;> rfl
    · rw [deleteInOrder, deleteSubsystem_eq]
      exact .cons rfl hsteps

/-! ### The DNS name -/

/-- A look-up leaves the scope alone and makes no call. -/
theorem spec_of_lookUp {host : String} {answer : Option Bool}
    (h : a.lookUp cloud host = (answer, b)) :
    b.scope = a.scope ∧ b.world.metrics = a.world.metrics ∧
    ∃ looked, b.world.journal = a.world.journal ++ looked ∧
      Event.calls looked = [] ∧ Event.returns looked = [] := by
  rw [lookUp] at h
  split at h
  · cases h
    exact ⟨rfl, rfl, [], (List.append_nil _).symm, rfl, rfl⟩
  · rcases hanswer : cloud.lookUp host a.world.cloud with ⟨answer | _, state⟩ <;>
      simp only [hanswer] at h <;> cases h <;>
      exact ⟨rfl, rfl, [.lookedUp host a.held], rfl, rfl, rfl⟩

/-- A look-up that brings an answer is the resolver's. -/
theorem answer_of_lookUp {host : String} {resolves : Bool}
    (h : a.lookUp cloud host = (some resolves, b)) :
    cloud.lookUp host a.world.cloud = (.answered resolves, b.world.cloud) ∧
      b.world.journal = a.world.journal ++ [.lookedUp host a.held] := by
  rw [lookUp] at h
  split at h
  · cases h
  · rcases hanswer : cloud.lookUp host a.world.cloud with ⟨answer | _, state⟩ <;>
      simp only [hanswer] at h
    · cases h
      exact ⟨rfl, rfl⟩
    · cases h

/-- What comes of waiting for the DNS name of the load balancer. -/
inductive Awaits (cloud : Cloud σ) (dnsRequeue : Nat) (a : Attempt σ) :
    Except ControllerError Outcome × Attempt σ → Prop
  /-- There is no name yet. -/
  | unnamed (hname : a.scope.object.dnsName? = none) :
      Awaits cloud dnsRequeue a (.ok (.requeueAfter dnsRequeue),
        a.update fun now scope => scope.waiting Reason.waitForDnsName "" now)
  /-- The invocation was cancelled before the name was looked up, or meanwhile. -/
  | interrupted {host : String} {b : Attempt σ} (hname : a.scope.object.dnsName? = some host)
      (hlookUp : a.lookUp cloud host = (none, b)) :
      Awaits cloud dnsRequeue a (.error (.cancelled .loadBalancer), b)
  /-- The name does not resolve yet. -/
  | unresolved {host : String} {b : Attempt σ} (hname : a.scope.object.dnsName? = some host)
      (hlookUp : a.lookUp cloud host = (some false, b)) :
      Awaits cloud dnsRequeue a (.ok (.requeueAfter dnsRequeue), b.update fun now scope =>
        scope.waiting Reason.waitForDnsNameResolve (host ++ " does not resolve yet") now)
  /-- The name resolves, and the object is published behind it. -/
  | resolved {host : String} {b : Attempt σ} (hname : a.scope.object.dnsName? = some host)
      (hlookUp : a.lookUp cloud host = (some true, b)) :
      Awaits cloud dnsRequeue a (.ok .noRequeue,
        b.update fun now scope => scope.publish host now)

theorem awaits_awaitDnsName (cloud : Cloud σ) (dnsRequeue : Nat) (a : Attempt σ) :
    a.Awaits cloud dnsRequeue (a.awaitDnsName cloud dnsRequeue) := by
  rw [awaitDnsName]
  cases hname : a.scope.object.dnsName? with
  | none => exact .unnamed hname
  | some host =>
    simp only
    rcases hlookUp : a.lookUp cloud host with ⟨_ | _ | _, b⟩
    · exact .interrupted hname hlookUp
    · exact .unresolved hname hlookUp
    · exact .resolved hname hlookUp

/-! ### The exits -/

/-- How a pass comes to its end. -/
inductive Exits (cloud : Cloud σ) (dnsRequeue : Nat) (a : Attempt σ) :
    Bool → Except ControllerError Outcome × Attempt σ → Prop
  /-- The finalizer could not be stored. -/
  | unguarded (message : String) (faults : List StoreFault) (hfaults : a.world.faults ≠ []) :
      Exits cloud dnsRequeue a false (.error (.io message),
        { a with world := { a.world with faults }, scope := a.scope.addFinalizer.2 })
  /-- A subsystem could not be reconciled. -/
  | stopped {b c : Attempt σ} {before rest : List Subsystem} {failed : Subsystem} {e : StepError}
      (hsecured : a.Secured b) (horder : Subsystem.creationOrder = before ++ failed :: rest)
      (hsteps : CarriedOut cloud b.scope.context
        (before.map (fun subsystem => (⟨.reconcile, subsystem⟩, .ok ()))
          ++ [(⟨.reconcile, failed⟩, .error e)]) b c) :
      Exits cloud dnsRequeue a false (.error (e.toControllerError ⟨.reconcile, failed⟩), c)
  /-- All subsystems were reconciled. -/
  | reached {b c : Attempt σ} {out : Except ControllerError Outcome × Attempt σ}
      (hsecured : a.Secured b)
      (hsteps : CarriedOut cloud b.scope.context Subsystem.creations b c)
      (hawaits : c.Awaits cloud dnsRequeue out) :
      Exits cloud dnsRequeue a false out
  /-- All deletions were attempted; the finalizer is there still or not. -/
  | deleted {b c : Attempt σ} {steps : List (ServiceCall × Except StepError Unit)}
      (hcalls : steps.map (·.1) = Subsystem.deletionOrder.map (⟨.delete, ·⟩))
      (hsteps : CarriedOut cloud a.scope.context steps a b)
      (result : Except ControllerError Outcome) (hworld : c.world = b.world)
      (hspec : c.scope.object.spec = b.scope.object.spec)
      (hstatus : c.scope.object.status = b.scope.object.status) :
      Exits cloud dnsRequeue a true (result, c)

theorem Fresh.exits (h : a.Fresh) (cloud : Cloud σ) (dnsRequeue : Nat) (deleting : Bool) :
    a.Exits cloud dnsRequeue deleting (a.pass cloud dnsRequeue deleting) := by
  cases deleting with
  | true =>
    obtain ⟨steps, hcalls, -, hsteps⟩ :=
      carriedOut_deleteInOrder cloud a.scope.context Subsystem.deletionOrder a
    change a.Exits cloud dnsRequeue true (a.runDelete cloud)
    rcases hdelete : a.deleteInOrder cloud a.scope.context Subsystem.deletionOrder with
      ⟨_ | ⟨first, others⟩, b⟩ <;> rw [hdelete] at hsteps
    · rw [runDelete_of_nil hdelete]
      have hsame : b.scope.removeFinalizer.2.object.spec = b.scope.object.spec ∧
          b.scope.removeFinalizer.2.object.status = b.scope.object.status := by
        rw [Scope.object_removeFinalizer]
        exact ⟨rfl, rfl⟩
      exact .deleted hcalls hsteps _ rfl hsame.1 hsame.2
    · rw [runDelete_of_cons hdelete]
      exact .deleted hcalls hsteps _ rfl rfl rfl
  | false =>
    change a.Exits cloud dnsRequeue false (a.runNormal cloud dnsRequeue)
    rcases h.ensureFinalizer with ⟨message, faults, hfaults, hensure⟩ | ⟨b, hensure, hsecured⟩
    · rw [runNormal_of_error hensure]
      exact .unguarded message faults hfaults
    · rw [runNormal, hensure]
      have horder := carriedOut_reconcileInOrder cloud b.scope.context Subsystem.creationOrder b
      rcases hresult : b.reconcileInOrder cloud b.scope.context Subsystem.creationOrder with
        ⟨result, c⟩
      rw [hresult] at horder
      simp only [hresult]
      rcases horder with ⟨hok, hsteps⟩ | ⟨before, failed, rest, e, horder, herror, hsteps⟩
      · cases (hok : result = _)
        exact .reached hsecured hsteps (c.awaits_awaitDnsName cloud dnsRequeue)
      · cases (herror : result = _)
        exact .stopped hsecured horder hsteps

/-- A normal pass that succeeds has come to the DNS name. -/
theorem Exits.reached_of_ok {outcome : Outcome} (h : a.Exits cloud dnsRequeue false out)
    (hok : out.1 = .ok outcome) : ∃ b c, a.Secured b ∧
      CarriedOut cloud b.scope.context Subsystem.creations b c ∧
      c.Awaits cloud dnsRequeue out := by
  cases h with
  | unguarded message faults => cases hok
  | stopped hsecured horder hsteps => cases hok
  | reached hsecured hsteps hawaits => exact ⟨_, _, hsecured, hsteps, hawaits⟩

end Attempt

/-- The pass of an invocation that is concluded has come to one of the exits. -/
theorem World.Concluded.exits {world : World σ} {dnsRequeue : Nat} {key : ObjectKey}
    {cancelled : Bool} {mode : Mode} {a : Attempt σ}
    {out : Except ControllerError Outcome × Attempt σ}
    (h : world.Concluded cloud dnsRequeue key cancelled mode a out) :
    a.Exits cloud dnsRequeue (mode = .deleting) out := by
  have hexits := h.fresh.exits cloud dnsRequeue (mode = .deleting)
  rwa [h.pass] at hexits

end ClusterInfra
