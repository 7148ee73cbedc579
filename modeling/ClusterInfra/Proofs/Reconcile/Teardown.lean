import ClusterInfra.Proofs.Reconcile.Cancellation
/-!
A delete pass attempts everything.

Each of the four deletions is called once, whatever became of the ones before it, and what a service
answers is what the condition of its subsystem says afterwards. The pass fails with the number of
deletions that failed and with the first of them in the order of deletion, and then the finalizers
stay; only if none failed does the finalizer go.
-/

namespace ClusterInfra

variable {σ : Type} {cloud : Cloud σ}

/-! ### Results of deletions -/

/-- How a call ends that fails with an error, or that does not fail. -/
def Ending.of : Option ServiceError → Ending
  | none => .done
  | some error => .failed error

theorem Ending.of_injective : Function.Injective Ending.of := by
  rintro (_ | _) (_ | _) h <;> cases h <;> rfl

/-- What the condition of a subsystem says once its deletion failed with an error, or did not. -/
def Verdict.deletion : Option ServiceError → Verdict
  | none => { status := .false, severity := .info, reason := some Reason.deleted, message := none }
  | some error =>
    { status := .false, severity := .warning, reason := some Reason.deletionFailed
      message := some error.message }

/-- Every service error has a text. -/
theorem ServiceError.message_ne_empty (error : ServiceError) : error.message.isEmpty = false := by
  rw [Bool.eq_false_iff, ne_eq, String.isEmpty_iff]
  cases error <;> exact fun h => nomatch (String.append_eq_empty_iff.1 h).1

/-- The deletions that failed, with their errors, in the order of deletion. -/
def Subsystem.failing (failure? : Subsystem → Option ServiceError) :
    List (Subsystem × ServiceError) :=
  deletionOrder.filterMap fun subsystem => (failure? subsystem).map (subsystem, ·)

/-- What comes of the deletions if each of them fails with an error, or does not fail. -/
def Subsystem.deletions (failure? : Subsystem → Option ServiceError) (subsystems : List Subsystem) :
    List (ServiceCall × Except StepError Unit) :=
  subsystems.map fun subsystem => (⟨.delete, subsystem⟩, (Ending.of (failure? subsystem)).result)

namespace ServiceCall

theorem verdict_deletion (wanted : Bool) (subsystem : Subsystem) (failure : Option ServiceError) :
    verdict wanted ⟨.delete, subsystem⟩ (Ending.of failure).result = some (.deletion failure) := by
  cases failure with
  | none => rfl
  | some error =>
    have hmessage := error.message_ne_empty
    simp only [verdict, failureReason, Ending.of, Ending.result, StepError.message, Verdict.fails,
      Verdict.deletion, Condition.textOrNone, hmessage, Bool.false_eq_true, if_false]

/-- Deletions of which none was cancelled have failed with errors of their services, or not. -/
theorem exists_deletions : ∀ {subsystems : List Subsystem}
    {steps : List (ServiceCall × Except StepError Unit)}, subsystems.Nodup →
    steps.map (·.1) = subsystems.map (⟨.delete, ·⟩) →
    (∀ step ∈ steps, step.2 ≠ .error .cancelled) →
      ∃ failure?, steps = Subsystem.deletions failure? subsystems
  | [], steps, _, hcalls, _ => ⟨fun _ => none, List.map_eq_nil_iff.1 hcalls⟩
  | subsystem :: rest, steps, hnodup, hcalls, hnone => by
    obtain ⟨⟨call, result⟩, others, rfl, rfl, hothers⟩ := List.map_eq_cons_iff.1 hcalls
    rw [List.nodup_cons] at hnodup
    rw [List.forall_mem_cons] at hnone
    obtain ⟨failure?, rfl⟩ := exists_deletions hnodup.2 hothers hnone.2
    obtain ⟨failure, rfl⟩ : ∃ failure, (Ending.of failure).result = result := by
      rcases result with (_ | error) | _
      · exact absurd rfl hnone.1
      · exact ⟨some error, rfl⟩
      · exact ⟨none, rfl⟩
    refine ⟨Function.update failure? subsystem failure, ?_⟩
    have hrest : Subsystem.deletions (Function.update failure? subsystem failure) rest
        = Subsystem.deletions failure? rest := List.map_congr_left fun other hmem => by
      rw [Function.update_of_ne (ne_of_mem_of_not_mem hmem hnodup.1)]
    rw [← hrest, Subsystem.deletions, Subsystem.deletions, List.map_cons, Function.update_self]

end ServiceCall

namespace Attempt

variable {context : ServiceContext} {steps : List (ServiceCall × Except StepError Unit)}
  {a b : Attempt σ}

/-! ### What an uncancelled pass carries out -/

namespace CarriedOut

/-- Once cancelled, an invocation stays cancelled. -/
theorem cancelled (h : CarriedOut cloud context steps a b) (hcancelled : a.cancelled = true) :
    b.cancelled = true := by
  induction h with
  | nil a => exact hcancelled
  | @cons a b c call result rest hcall _ ih =>
    have hresult := (carryOut_of_cancelled hcancelled cloud context call).1
    have hstill := cancelled_of_carryOut hresult
    rw [hcall] at hstill
    exact ih hstill

/-- While the invocation is not cancelled, no call is. -/
theorem ne_cancelled (h : CarriedOut cloud context steps a b) (huncancelled : b.cancelled = false) :
    ∀ step ∈ steps, step.2 ≠ .error .cancelled := by
  induction h with
  | nil a => exact fun _ hmem => nomatch hmem
  | @cons a b c call result rest hcall hrest ih =>
    rw [List.forall_mem_cons]
    refine ⟨fun hresult => ?_, ih huncancelled⟩
    have hcancelled := cancelled_of_carryOut ((congrArg Prod.fst hcall).trans hresult)
    rw [hcall] at hcancelled
    exact Bool.false_ne_true (huncancelled.symm.trans (hrest.cancelled hcancelled))

end CarriedOut

/-- The deletions of a pass that is not cancelled: each of them fails with an error of its service
or does not fail, and the journal and the conditions tell which. -/
theorem told_deleteInOrder (hconditions : ∀ call, cloud.Spares (·.conditions) call)
    (context : ServiceContext) (a : Attempt σ)
    (h : (a.deleteInOrder cloud context Subsystem.deletionOrder).2.cancelled = false) :
    ∃ (failure? : Subsystem → Option ServiceError) (events : List Event),
      (a.deleteInOrder cloud context Subsystem.deletionOrder).1
        = (Subsystem.failing failure?).map (fun failed => .serviceDeletion failed.1 failed.2) ∧
      (a.deleteInOrder cloud context Subsystem.deletionOrder).2.world.journal
        = a.world.journal ++ events ∧
      Event.calls events = Subsystem.deletionOrder.map (⟨.delete, ·⟩) ∧
      Event.returns events = Subsystem.deletionOrder.map
        (fun subsystem => (⟨.delete, subsystem⟩, .of (failure? subsystem))) ∧
      ∀ subsystem type, subsystem.condition? = some type →
        (a.deleteInOrder cloud context Subsystem.deletionOrder).2.scope.object.verdict? type
          = some (.deletion (failure? subsystem)) := by
  obtain ⟨steps, hcalls, herrors, hsteps⟩ :=
    carriedOut_deleteInOrder cloud context Subsystem.deletionOrder a
  obtain ⟨failure?, rfl⟩ := ServiceCall.exists_deletions (by decide) hcalls (hsteps.ne_cancelled h)
  obtain ⟨events, hevents, htells, hreturned⟩ := hsteps.journal (hsteps.ne_cancelled h)
  have hreturns : Event.returns events = Subsystem.deletionOrder.map
      (fun subsystem => (⟨.delete, subsystem⟩, .of (failure? subsystem))) := by
    refine List.map_injective_iff.2 (Function.injective_id.prodMap Ending.result_injective) ?_
    rw [hreturned, Subsystem.deletions, List.map_map]
    rfl
  refine ⟨failure?, events, ?_, hevents, ?_, hreturns, fun subsystem type htype => ?_⟩
  · rw [herrors, Subsystem.deletions, Subsystem.failing, List.filterMap_map, List.map_filterMap]
    refine List.filterMap_congr fun subsystem _ => ?_
    rw [Function.comp_apply]
    cases failure? subsystem <;> rfl
  · rw [htells.calls, hreturns, List.map_map]
    rfl
  · have hmem : subsystem ∈ Subsystem.deletionOrder := by cases subsystem <;> decide
    have hnodup : ((Subsystem.deletions failure? Subsystem.deletionOrder).map
        (·.1.subsystem)).Nodup := by
      rw [ServiceCall.subsystems_eq hcalls]
      decide
    obtain ⟨wanted, hverdict, -⟩ := hsteps.exists_verdict? (fun step _ => hconditions step.1) hnodup
      (List.mem_map_of_mem hmem) htype (fun heq => nomatch congrArg (·.1.action) heq)
    rw [hverdict, ServiceCall.verdict_deletion]

/-- A delete pass that is not cancelled, with services that write neither finalizers nor conditions,
calls every deletion once, in order. Each of them fails with an error or does not fail, the
condition of its subsystem says which, and so does the result: without a failure the finalizer is
gone; otherwise all failures are counted, the first one is named, and the finalizers are as they
were. -/
theorem delete_pass_attempts_everything (hconditions : ∀ call, cloud.Spares (·.conditions) call)
    (hfinalizers : cloud.Keeps (·.finalizers)) (a : Attempt σ)
    (huncancelled : (a.runDelete cloud).2.cancelled = false) :
    ∃ (failure? : Subsystem → Option ServiceError) (events : List Event),
      (a.runDelete cloud).2.world.journal = a.world.journal ++ events ∧
      Event.calls events = Subsystem.deletionOrder.map (⟨.delete, ·⟩) ∧
      Event.returns events = Subsystem.deletionOrder.map
        (fun subsystem => (⟨.delete, subsystem⟩, .of (failure? subsystem))) ∧
      (∀ subsystem type, subsystem.condition? = some type →
        (a.runDelete cloud).2.scope.object.verdict? type
          = some (.deletion (failure? subsystem))) ∧
      (Subsystem.failing failure? = [] →
        (a.runDelete cloud).1 = .ok .noRequeue ∧
        (a.runDelete cloud).2.scope.object.hasFinalizer = false) ∧
      (∀ first error others, Subsystem.failing failure? = (first, error) :: others →
        (a.runDelete cloud).1 = .error (.deleteIncomplete (Subsystem.failing failure?).length
          (.serviceDeletion first error)) ∧
        (a.runDelete cloud).2.scope.object.metadata.finalizers
          = a.scope.object.metadata.finalizers) := by
  obtain ⟨steps, -, -, hsteps⟩ :=
    carriedOut_deleteInOrder cloud a.scope.context Subsystem.deletionOrder a
  have htold := told_deleteInOrder hconditions a.scope.context a
  rcases hdelete : a.deleteInOrder cloud a.scope.context Subsystem.deletionOrder with
    ⟨_ | ⟨first, others⟩, b⟩ <;> rw [hdelete] at htold hsteps
  · rw [runDelete_of_nil hdelete] at huncancelled ⊢
    obtain ⟨failure?, events, herrors, hjournal, hcalls, hreturns, hverdicts⟩ := htold huncancelled
    have hnone : Subsystem.failing failure? = [] := List.map_eq_nil_iff.1 herrors.symm
    refine ⟨failure?, events, hjournal, hcalls, hreturns, fun subsystem type htype => ?_,
      fun _ => ⟨rfl, b.scope.hasFinalizer_removeFinalizer⟩, fun first error others hfailing => ?_⟩
    · have hconditions :
          b.scope.removeFinalizer.2.object.conditions = b.scope.object.conditions := by
        rw [Scope.object_removeFinalizer]
        rfl
      rw [AwsCluster.verdict?, hconditions]
      exact hverdicts subsystem type htype
    · rw [hnone] at hfailing
      cases hfailing
  · rw [runDelete_of_cons hdelete] at huncancelled ⊢
    obtain ⟨failure?, events, herrors, hjournal, hcalls, hreturns, hverdicts⟩ := htold huncancelled
    obtain ⟨⟨subsystem, error⟩, failed, hfailing, rfl, rfl⟩ := List.map_eq_cons_iff.1 herrors.symm
    refine ⟨failure?, events, hjournal, hcalls, hreturns, hverdicts, fun hnone => ?_,
      fun first' error' others' hfirst => ?_⟩
    · rw [hfailing] at hnone
      cases hnone
    · rw [hfailing] at hfirst
      cases hfirst
      rw [hfailing, List.length_cons, List.length_map]
      exact ⟨rfl, hsteps.metadata hfinalizers⟩

end Attempt

/-! ### A deletion of which two steps fail -/

/-- Services of which some calls fail and the others do nothing, and a resolver that knows every
name. -/
def Cloud.refusing (refusal? : ServiceCall → Option ServiceError) : Cloud Unit where
  call call _ object _ := ({ object, ending := .of (refusal? call) }, ())
  lookUp _ _ := (.answered true, ())

namespace Sample

/-- Services that refuse to delete the load balancer and the network. -/
def clinging : Cloud Unit := .refusing fun call =>
  match call with
  | ⟨.delete, .loadBalancer⟩ => some (.api "in use")
  | ⟨.delete, .network⟩ => some (.http "timeout")
  | _ => none

/-- An attempt on the stored copy of an object. -/
def attempting (object : AwsCluster) : Attempt Unit where
  world := holding object
  scope := ⟨owner, object, object⟩
  cancelled := false

/-- The object before its deletion is attempted. -/
def departing : Attempt Unit := attempting (deleted (some [clusterFinalizer]))

end Sample

namespace Attempt

theorem sample_delete_pass_attempts_everything :
    (∀ call, Sample.clinging.Spares (·.conditions) call) ∧ Sample.clinging.Keeps (·.finalizers) ∧
    (Sample.departing.runDelete Sample.clinging).2.cancelled = false ∧
    (Sample.departing.runDelete Sample.clinging).1
      = .error (.deleteIncomplete 2 (.serviceDeletion .loadBalancer (.api "in use"))) ∧
    (Sample.departing.runDelete Sample.clinging).2.scope.object.verdict?
      ConditionType.loadBalancerReady = some (.deletion (some (.api "in use"))) := by
  have hconditions : ∀ call, Sample.clinging.Spares (·.conditions) call := fun _ _ _ _ => rfl
  have hfinalizers : Sample.clinging.Keeps (·.finalizers) := fun _ _ _ _ => rfl
  have huncancelled : (Sample.departing.runDelete Sample.clinging).2.cancelled = false := by
    decide +kernel
  obtain ⟨failure?, events, hjournal, -, hreturns, hverdicts, -, hfailed⟩ :=
    delete_pass_attempts_everything hconditions hfinalizers Sample.departing huncancelled
  have hreturned : Event.returns (Sample.departing.runDelete Sample.clinging).2.world.journal
      = [(⟨.delete, .bastion⟩, .of none), (⟨.delete, .loadBalancer⟩, .of (some (.api "in use"))),
        (⟨.delete, .securityGroups⟩, .of none),
        (⟨.delete, .network⟩, .of (some (.http "timeout")))] := by
    decide +kernel
  have hstart : Sample.departing.world.journal = [] := rfl
  rw [hjournal, hstart, List.nil_append, hreturns] at hreturned
  simp only [Subsystem.deletionOrder, List.map_cons, List.map_nil, List.cons.injEq, Prod.mk.injEq,
    true_and, and_true, Ending.of_injective.eq_iff] at hreturned
  obtain ⟨hbastion, hloadBalancer, hsecurityGroups, hnetwork⟩ := hreturned
  have hfailing : Subsystem.failing failure?
      = [(.loadBalancer, .api "in use"), (.network, .http "timeout")] := by
    simp [Subsystem.failing, Subsystem.deletionOrder, hbastion, hloadBalancer, hsecurityGroups,
      hnetwork]
  have hresult := (hfailed _ _ _ hfailing).1
  have hverdict := hverdicts .loadBalancer _ rfl
  rw [hfailing] at hresult
  rw [hloadBalancer] at hverdict
  exact ⟨hconditions, hfinalizers, huncancelled, hresult, hverdict⟩

end Attempt

end ClusterInfra
