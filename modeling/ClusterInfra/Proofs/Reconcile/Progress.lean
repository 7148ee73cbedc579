import ClusterInfra.Proofs.Store.Persist
import ClusterInfra.Reconcile.Dispatch
/-!
What the passes of a reconciliation leave alone while they work.

Between the writes of a pass nothing is stored by it: it calls services and looks hosts up, stages
changes of status and spec, and writes its journal. Each piece of a pass is shown to advance an
attempt in this sense, and a pass advances it because its pieces do.
-/

namespace ClusterInfra

/-! ### Staging changes -/

/-- Changes of status and spec have been staged in a scope, and nothing else. -/
structure Scope.Stages (before after : Scope) : Prop where
  saved : after.saved = before.saved
  cluster : after.cluster = before.cluster
  metadata : after.object.metadata = before.object.metadata

namespace Scope

theorem Stages.refl (scope : Scope) : scope.Stages scope := ⟨rfl, rfl, rfl⟩

theorem Stages.trans {a b c : Scope} (h : a.Stages b) (h' : b.Stages c) : a.Stages c :=
  ⟨h'.saved.trans h.saved, h'.cluster.trans h.cluster, h'.metadata.trans h.metadata⟩

theorem stages_modifyStatus (scope : Scope) (change : AwsClusterStatus → AwsClusterStatus) :
    scope.Stages (scope.modifyStatus change) := ⟨rfl, rfl, rfl⟩

theorem stages_modifyConditions (scope : Scope) (change : Conditions → Conditions) :
    scope.Stages (scope.modifyConditions change) := stages_modifyStatus ..

theorem stages_report (scope : Scope) (subsystem : Subsystem) (reason : String)
    (severity : Severity) (message : String) (now : Instant) :
    scope.Stages (scope.report subsystem reason severity message now) := by
  unfold report
  split
  · exact .refl scope
  · exact stages_modifyConditions ..

theorem stages_reconciled (scope : Scope) (subsystem : Subsystem) (now : Instant) :
    scope.Stages (scope.reconciled subsystem now) := by
  cases subsystem with
  | network => exact .refl scope
  | loadBalancer => exact .refl scope
  | securityGroups => exact stages_modifyConditions ..
  | bastion =>
    rw [reconciled, deleteCondition]
    split
    · exact stages_modifyConditions ..
    · split
      · exact .refl scope
      · exact stages_modifyConditions ..

theorem stages_foldl {ι : Type} {step : Scope → ι → Scope}
    (hstep : ∀ (scope : Scope) i, scope.Stages (step scope i)) :
    ∀ (items : List ι) (scope : Scope), scope.Stages (items.foldl step scope)
  | [], scope => .refl scope
  | i :: rest, scope => (hstep scope i).trans (stages_foldl hstep rest (step scope i))

theorem stages_publish (scope : Scope) (host : String) (now : Instant) :
    scope.Stages (scope.publish host now) := by
  have hendpoint : ∀ scope : Scope, scope.Stages (scope.ensureEndpoint host) := fun scope => by
    unfold ensureEndpoint
    split
    · exact ⟨rfl, rfl, rfl⟩
    · exact .refl scope
  have hzones : ∀ scope : Scope, scope.Stages scope.publishZones := fun scope =>
    stages_foldl (fun _ _ => stages_modifyStatus ..) _ scope
  have htrue := stages_modifyConditions scope (·.markTrue ConditionType.loadBalancerReady now)
  exact ((htrue.trans (hendpoint _)).trans (hzones _)).trans (stages_modifyStatus ..)

theorem stages_conclude (scope : Scope) (now : Instant) : scope.Stages (scope.conclude now) :=
  stages_modifyConditions ..

end Scope

/-! ### The services -/

/-- Nobody else writes to the store while a call is running. -/
def Cloud.Quiet {σ : Type} (cloud : Cloud σ) : Prop :=
  ∀ call context object state, (cloud.call call context object state).1.stored = []

/-- No call changes what a view shows of the metadata of the object that it is given. -/
def Cloud.Keeps {σ ν : Type} (cloud : Cloud σ) (view : Metadata → ν) : Prop :=
  ∀ call context object state,
    view (cloud.call call context object state).1.object.metadata = view object.metadata

/-! ### Calls -/

theorem Event.mem_calls {events : List Event} {call : ServiceCall} :
    call ∈ Event.calls events ↔ ∃ held, Event.called call held ∈ events := by
  rw [Event.calls, List.mem_filterMap]
  refine ⟨?_, fun ⟨held, hmem⟩ => ⟨_, hmem, rfl⟩⟩
  rintro ⟨event, hmem, hcall⟩
  cases event with
  | called other held =>
    cases hcall
    exact ⟨held, hmem⟩
  | built | returned | lookedUp => cases hcall

/-- The result that a step has by the ending of its call. -/
def Ending.result : Ending → Except StepError Unit
  | .done => .ok ()
  | .failed error => .error (.failed error)
  | .interrupted => .error .cancelled

/-- An attempt after a call that was made. -/
def Attempt.made {σ : Type} (cloud : Cloud σ) (context : ServiceContext) (call : ServiceCall)
    (a : Attempt σ) : Attempt σ :=
  let (reply, state) := cloud.call call context a.scope.object a.world.cloud
  (((a.log (.built context)).log (.called call a.held)).absorb reply state).log
    (.returned call reply.ending)

/-- A call is made exactly if the invocation has not been cancelled before. -/
theorem Attempt.call_eq {σ : Type} (cloud : Cloud σ) (context : ServiceContext) (call : ServiceCall)
    (a : Attempt σ) : a.call cloud context call =
      if a.cancelled then (.error .cancelled, a.log (.built context))
      else ((cloud.call call context a.scope.object a.world.cloud).1.ending.result,
        a.made cloud context call) := by
  have hending : ∀ (ending : Ending) (b : Attempt σ),
      (match ending with
        | .done => (.ok (), b)
        | .failed error => (.error (.failed error), b)
        | .interrupted => (.error .cancelled, b)) = (ending.result, b) := fun ending b => by
    cases ending <;> rfl
  change (if a.cancelled = true then _ else _) = _
  congr 1
  exact hending _ _

theorem Attempt.journal_made {σ : Type} (cloud : Cloud σ) (context : ServiceContext)
    (call : ServiceCall) (a : Attempt σ) :
    (a.made cloud context call).world.journal = a.world.journal ++ [.built context,
      .called call a.held,
      .returned call (cloud.call call context a.scope.object a.world.cloud).1.ending] := by
  simp [made, absorb, log, World.log]

/-! ### Working on an attempt -/

/-- Work that was done on an attempt: calls of one action were made while the store stayed as it
was, and nothing was changed of what a view shows of the metadata. -/
structure Attempt.Advances {σ ν : Type} (view : Metadata → ν) (action : Action)
    (a b : Attempt σ) : Prop where
  store : b.world.store = a.world.store
  faults : b.world.faults = a.world.faults
  saved : b.scope.saved = a.scope.saved
  view : view b.scope.object.metadata = view a.scope.object.metadata
  journal : ∃ events, b.world.journal = a.world.journal ++ events ∧
    ∀ call held, Event.called call held ∈ events → call.action = action ∧ held = a.held

namespace Attempt

variable {σ ν : Type} {view : Metadata → ν} {action : Action} {a b c : Attempt σ}
  {cloud : Cloud σ}

theorem Advances.held (h : a.Advances view action b) : b.held = a.held := by
  rw [Attempt.held, Attempt.held, h.store, h.saved]

theorem Advances.refl (a : Attempt σ) : a.Advances view action a :=
  ⟨rfl, rfl, rfl, rfl, [], (List.append_nil _).symm, fun _ _ h => nomatch h⟩

theorem Advances.trans (h : a.Advances view action b) (h' : b.Advances view action c) :
    a.Advances view action c := by
  obtain ⟨events, hevents, hcalled⟩ := h.journal
  obtain ⟨events', hevents', hcalled'⟩ := h'.journal
  refine ⟨h'.store.trans h.store, h'.faults.trans h.faults, h'.saved.trans h.saved,
    h'.view.trans h.view, events ++ events', ?_, fun call held hmem => ?_⟩
  · rw [hevents', hevents, List.append_assoc]
  · rcases List.mem_append.1 hmem with hmem | hmem
    · exact hcalled call held hmem
    · exact h.held ▸ hcalled' call held hmem

theorem advances_update {change : Instant → Scope → Scope}
    (hchange : ∀ now (scope : Scope), scope.Stages (change now scope)) (a : Attempt σ) :
    a.Advances view action (a.update change) := by
  have h := hchange a.world.clock.read.1 a.scope
  exact ⟨rfl, rfl, h.saved, congrArg view h.metadata, [], (List.append_nil _).symm,
    fun _ _ h => nomatch h⟩

theorem advances_countFailure (a : Attempt σ) (call : ServiceCall) :
    a.Advances view action (a.countFailure call) :=
  ⟨rfl, rfl, rfl, rfl, [], (List.append_nil _).symm, fun _ _ h => nomatch h⟩

theorem advances_call (hquiet : cloud.Quiet) (hkeeps : cloud.Keeps view) (context : ServiceContext)
    (call : ServiceCall) (a : Attempt σ) :
    a.Advances view call.action (a.call cloud context call).2 := by
  rw [call_eq]
  split
  · exact ⟨rfl, rfl, rfl, rfl, [.built context], rfl, fun _ _ h => by simp at h⟩
  · have hreply := hquiet call context a.scope.object a.world.cloud
    refine ⟨?_, rfl, rfl, hkeeps .., _, journal_made .., fun call held hmem => ?_⟩
    · simp [made, absorb, log, World.log, hreply]
    · simp only [List.mem_cons, List.not_mem_nil, or_false, reduceCtorEq, false_or,
        Event.called.injEq] at hmem
      exact ⟨hmem.1 ▸ rfl, hmem.2⟩

theorem advances_lookUp (cloud : Cloud σ) (host : String) (a : Attempt σ) :
    a.Advances view action (a.lookUp cloud host).2 := by
  unfold lookUp
  split
  · exact .refl a
  · simp only
    split
    all_goals exact ⟨rfl, rfl, rfl, rfl, [.lookedUp host a.held], rfl, fun _ _ h => by simp at h⟩

/-! ### The pieces of the passes -/

theorem advances_reconcileSubsystem (hquiet : cloud.Quiet) (hkeeps : cloud.Keeps view)
    (context : ServiceContext) (subsystem : Subsystem) (a : Attempt σ) :
    a.Advances view .reconcile (a.reconcileSubsystem cloud context subsystem).2 := by
  have hcall := advances_call hquiet hkeeps context ⟨.reconcile, subsystem⟩ a
  unfold reconcileSubsystem
  simp only
  split
  next heq =>
    rw [heq] at hcall
    exact hcall.trans (advances_update (fun now scope => scope.stages_reconciled subsystem now) _)
  next heq =>
    rw [heq] at hcall
    exact (hcall.trans (advances_countFailure ..)).trans
      (advances_update (fun now scope => scope.stages_report ..) _)

theorem advances_reconcileInOrder (hquiet : cloud.Quiet) (hkeeps : cloud.Keeps view)
    (context : ServiceContext) : ∀ (subsystems : List Subsystem) (a : Attempt σ),
      a.Advances view .reconcile (a.reconcileInOrder cloud context subsystems).2
  | [], a => .refl a
  | subsystem :: rest, a => by
    have hfirst := advances_reconcileSubsystem hquiet hkeeps context subsystem a
    rw [reconcileInOrder]
    split
    next heq =>
      rw [heq] at hfirst
      exact hfirst
    next heq =>
      rw [heq] at hfirst
      exact hfirst.trans (advances_reconcileInOrder hquiet hkeeps context rest _)

theorem advances_awaitDnsName (dnsRequeue : Nat) (a : Attempt σ) :
    a.Advances view .reconcile (a.awaitDnsName cloud dnsRequeue).2 := by
  unfold awaitDnsName
  split
  next => exact advances_update (fun now scope => scope.stages_report ..) a
  next host _ =>
    have hlookUp : a.Advances view .reconcile _ := advances_lookUp cloud host a
    split
    next heq =>
      rw [heq] at hlookUp
      exact hlookUp
    next heq =>
      rw [heq] at hlookUp
      exact hlookUp.trans (advances_update (fun now scope => scope.stages_report ..) _)
    next heq =>
      rw [heq] at hlookUp
      exact hlookUp.trans (advances_update (fun now scope => scope.stages_publish host now) _)

theorem advances_deleteSubsystem (hquiet : cloud.Quiet) (hkeeps : cloud.Keeps view)
    (context : ServiceContext) (subsystem : Subsystem) (a : Attempt σ) :
    a.Advances view .delete (a.deleteSubsystem cloud context subsystem).2 := by
  have hcall := advances_call hquiet hkeeps context ⟨.delete, subsystem⟩ a
  unfold deleteSubsystem
  simp only
  split
  next heq =>
    rw [heq] at hcall
    exact hcall.trans (advances_update (fun now scope => scope.stages_report ..) _)
  next heq =>
    rw [heq] at hcall
    exact (hcall.trans (advances_countFailure ..)).trans
      (advances_update (fun now scope => scope.stages_report ..) _)

theorem advances_deleteInOrder (hquiet : cloud.Quiet) (hkeeps : cloud.Keeps view)
    (context : ServiceContext) : ∀ (subsystems : List Subsystem) (a : Attempt σ),
      a.Advances view .delete (a.deleteInOrder cloud context subsystems).2
  | [], a => .refl a
  | subsystem :: rest, a =>
    (advances_deleteSubsystem hquiet hkeeps context subsystem a).trans
      (advances_deleteInOrder hquiet hkeeps context rest _)

end Attempt

end ClusterInfra
