import ClusterInfra.Proofs.Reconcile.Reports
import ClusterInfra.Proofs.Resource.Summaries
/-!
The `Ready` condition sums the others up.

An invocation that is concluded stores its conditions with their summary, whatever services,
resolver and earlier passes left of them. So `Ready` says what the conditions beside it amount to:
it holds after a normal pass that asks for nothing more, and not after one that waits or in which a
call failed.
-/

namespace ClusterInfra

variable {σ : Type} {cloud : Cloud σ}

theorem AwsCluster.summary_congr {a b : AwsCluster} (hspec : b.spec = a.spec)
    (hstatus : b.status = a.status) : b.summary = a.summary := by
  simp only [summary, conditions, hspec, hstatus]

/-- Services of which the one for the load balancer changes the object when that is reconciled. -/
def Cloud.interfering (change : AwsCluster → AwsCluster) : Cloud Unit :=
  .changing fun call => if call = ⟨.reconcile, .loadBalancer⟩ then change else id

/-- The conditions of an object hold, but there is none of a bastion that is not wanted. -/
structure AwsCluster.Settled (object : AwsCluster) : Prop where
  securityGroups : object.verdict? ConditionType.securityGroupsReady = some .holds
  bastion : object.verdict? ConditionType.bastionReady
    = if object.spec.bastion.enabled then some .holds else none
  loadBalancer : object.verdict? ConditionType.loadBalancerReady = some .holds
  ready : object.verdict? ConditionType.ready = some .holds

namespace World

variable {dnsRequeue : Nat} {key : ObjectKey} {cancelled : Bool} {mode : Mode} {world : World σ}
  {a : Attempt σ} {out : Except ControllerError Outcome × Attempt σ} {stored : AwsCluster}

/-- The summary is stored beside the conditions that it sums up. -/
theorem Concluded.ready (h : world.Concluded cloud dnsRequeue key cancelled mode a out)
    (hstored : (world.reconcile cloud dnsRequeue key cancelled).2.store.awsClusters.get? key
      = some stored) :
    stored.verdict? ConditionType.ready = some stored.summary.verdict := by
  obtain ⟨hspec, hstatus⟩ := h.shown hstored
  have hsummary : stored.summary = out.2.concluded.scope.object.summary :=
    AwsCluster.summary_congr hspec hstatus
  rw [AwsCluster.verdict?_congr hstatus, hsummary]
  have hunchanged : out.2.concluded.scope.object.summary = out.2.scope.object.summary :=
    Mark.summary_apply out.2.world.clock.read.1 out.2.scope.object
  rw [hunchanged]
  exact Mark.verdict?_summary_apply out.2.world.clock.read.1 out.2.scope.object

/-- A summarized type is not the summary, so it is stored as the pass left it. -/
theorem ne_ready_of_mem_summarizedTypes {bastionEnabled : Bool} {type : String}
    (h : type ∈ Scope.summarizedTypes bastionEnabled) : type ≠ ConditionType.ready := by
  rintro rfl
  revert h
  cases bastionEnabled <;> decide

/-- If a summarized type does not hold, `Ready` does not, and it is as severe at least. -/
theorem Concluded.not_ready (h : world.Concluded cloud dnsRequeue key cancelled mode a out)
    (hstored : (world.reconcile cloud dnsRequeue key cancelled).2.store.awsClusters.get? key
      = some stored) {type reason message : String} {severity : Severity}
    (htype : type ∈ Scope.summarizedTypes stored.spec.bastion.enabled)
    (hfails : out.2.scope.object.verdict? type = some (.fails reason severity message)) :
    ∃ verdict, stored.verdict? ConditionType.ready = some verdict ∧ verdict.status = .false ∧
      severity.rank ≤ verdict.severity.rank := by
  rw [← h.verdict? hstored (ne_ready_of_mem_summarizedTypes htype)] at hfails
  exact ⟨_, h.ready hstored, Conditions.summarize_of_false htype hfails rfl⟩

/-- After a normal pass that asks for nothing more, the conditions hold as long as services write
none. -/
theorem Concluded.settled (h : world.Concluded cloud dnsRequeue key cancelled .active a out)
    (himpartial : cloud.Impartial) (hok : out.1 = .ok .noRequeue)
    (hstored : (world.reconcile cloud dnsRequeue key cancelled).2.store.awsClusters.get? key
      = some stored) : stored.Settled := by
  obtain ⟨b, c, hsecured, hsteps, hawaits⟩ := h.exits.reached_of_ok hok
  have hworked := (hsteps.worked_awaits hawaits).of_secured hsecured
  obtain ⟨hgroups, hbastion⟩ := hworked.created himpartial
  have hawaited := hawaits.awaited
  rw [hok] at hawaited
  have hbalanced := hawaited.eq_holds
  rw [← h.verdict? hstored (by decide)] at hgroups hbastion hbalanced
  rw [← (h.shown hstored).1] at hbastion
  refine ⟨hgroups, hbastion, hbalanced, ?_⟩
  rw [h.ready hstored, AwsCluster.summary]
  refine congrArg some (congrArg Condition.verdict (Conditions.summarize_of_holds fun type hmem => ?_))
  cases henabled : stored.spec.bastion.enabled <;> rw [henabled] at hmem hbastion <;>
    simp only [Scope.summarizedTypes, if_true, Bool.false_eq_true, if_false, List.mem_cons,
      List.not_mem_nil, or_false] at hmem
  · rcases hmem with rfl | rfl
    · exact hgroups
    · exact hbalanced
  · rcases hmem with rfl | rfl | rfl
    · exact hgroups
    · exact hbastion
    · exact hbalanced

/-- After every invocation that is concluded, the stored `Ready` condition is the summary of the
conditions stored beside it. So it does not hold if a normal pass waits. And as long as services
write no conditions, it holds after a normal pass that asks for nothing more, and it is a warning at
least if a call failed that counts. -/
theorem ready_sums_conditions_up (hquiet : cloud.Quiet) (hworld : world.Reachable cloud dnsRequeue)
    (hconcludes : world.Concludes cloud dnsRequeue key cancelled mode)
    (hstored : (world.reconcile cloud dnsRequeue key cancelled).2.store.awsClusters.get? key
      = some stored) :
    stored.verdict? ConditionType.ready = some (stored.conditions.summarize
      (Scope.summarizedTypes stored.spec.bastion.enabled)).verdict ∧
    (∀ seconds, mode = .active →
      (world.reconcile cloud dnsRequeue key cancelled).1 = .ok (.requeueAfter seconds) →
      ∃ verdict, stored.verdict? ConditionType.ready = some verdict ∧ verdict.status = .false) ∧
    (cloud.Impartial → mode = .active →
      (world.reconcile cloud dnsRequeue key cancelled).1 = .ok .noRequeue →
      stored.verdict? ConditionType.ready = some .holds) ∧
    (cloud.Impartial → ∃ events,
      (world.reconcile cloud dnsRequeue key cancelled).2.journal = world.journal ++ events ∧
      ∀ call type, call.subsystem.condition? = some type →
        type ∈ Scope.summarizedTypes stored.spec.bastion.enabled →
        ((∃ ending, (call, ending) ∈ Event.returns events ∧ ending ≠ .done) ∨
          world.metrics.failureCount call.subsystem call.action.label
            < (world.reconcile cloud dnsRequeue key cancelled).2.metrics.failureCount
              call.subsystem call.action.label) →
        ∃ verdict, stored.verdict? ConditionType.ready = some verdict ∧ verdict.status = .false ∧
          Severity.warning.rank ≤ verdict.severity.rank) := by
  obtain ⟨a, out, hconcluded⟩ := hconcludes.concluded (hworld.keyed hquiet) hquiet
  refine ⟨hconcluded.ready hstored, ?_, ?_, ?_⟩
  · rintro seconds rfl hresult
    rw [hconcluded.reconcile] at hresult
    obtain ⟨b, c, -, -, hawaits⟩ := hconcluded.exits.reached_of_ok hresult
    have hawaited := hawaits.awaited
    rw [show out.1 = _ from hresult] at hawaited
    obtain ⟨reason, message, hfails⟩ := hawaited.exists_fails
    obtain ⟨verdict, hready, hfalse, -⟩ := hconcluded.not_ready hstored
      (by cases stored.spec.bastion.enabled <;> decide) hfails
    exact ⟨verdict, hready, hfalse⟩
  · rintro himpartial rfl hresult
    rw [hconcluded.reconcile] at hresult
    exact (hconcluded.settled himpartial hresult hstored).ready
  · intro himpartial
    obtain ⟨steps, hworked⟩ := hconcluded.exits.worked
    obtain ⟨events, looked, hjournal, htells, hcalls, hreturns⟩ := hworked.told
    refine ⟨events ++ looked, hconcluded.journal_eq hjournal, ?_⟩
    intro call type htype hmem hfailed
    have hstep : ∃ e, (call, .error e) ∈ steps := by
      rcases hfailed with ⟨ending, hreturned, hne⟩ | hcounted
      · rw [Event.returns_append, hreturns, List.append_nil] at hreturned
        exact htells.exists_error hreturned hne
      · obtain ⟨faults, hentered⟩ := hconcluded.entered
        refine hworked.exists_error ?_
        rw [hconcluded.metrics_eq] at hcounted
        rw [hentered]
        exact hcounted
    obtain ⟨e, hstep⟩ := hstep
    refine hconcluded.not_ready hstored hmem (hworked.verdict himpartial hstep htype ?_)
    intro hdeferred
    cases (Prod.mk.inj hdeferred).2

/-- What was recorded as failed of a load balancer is not summed up once it is ready. -/
theorem ready_sums_sample_conditions_up :
    (Sample.holding Sample.unbalanced).Concludes Cloud.obliging 15 Sample.key false .active ∧
    ∃ stored, ((Sample.holding Sample.unbalanced).reconcile Cloud.obliging 15 Sample.key
        false).2.store.awsClusters.get? Sample.key = some stored ∧
      stored.verdict? ConditionType.ready = some .holds := by
  obtain ⟨stored, hstored⟩ := stored_unbalanced
  obtain ⟨-, -, hready, -⟩ := ready_sums_conditions_up Cloud.quiet_obliging
    (Sample.reachable_holding Sample.unbalanced) concludes_unbalanced hstored
  exact ⟨concludes_unbalanced, stored, hstored, hready Cloud.impartial_obliging rfl result_unbalanced⟩

/-- If a service takes back what was recorded before its call, or asks for a bastion when that was
reconciled already, the object is not ready, though the pass asks for nothing more. -/
theorem not_ready_where_service_interferes :
    (((Sample.holding (Sample.named [])).reconcile (.interfering
          (·.modifyConditions (·.markFalse ConditionType.securityGroupsReady
            Reason.securityGroupsFailed .warning "drifted" Sample.newYear)))
        15 Sample.key false).1 = .ok .noRequeue ∧
      (((Sample.holding (Sample.named [])).reconcile (.interfering
          (·.modifyConditions (·.markFalse ConditionType.securityGroupsReady
            Reason.securityGroupsFailed .warning "drifted" Sample.newYear)))
        15 Sample.key false).2.store.awsClusters.get? Sample.key).bind
          (·.verdict? ConditionType.ready)
        = some (.fails Reason.securityGroupsFailed .warning "drifted")) ∧
    (((Sample.holding (Sample.named [])).reconcile (.interfering fun object =>
          { object with spec := { object.spec with bastion := { enabled := true } } })
        15 Sample.key false).1 = .ok .noRequeue ∧
      ((((Sample.holding (Sample.named [])).reconcile (.interfering fun object =>
          { object with spec := { object.spec with bastion := { enabled := true } } })
        15 Sample.key false).2.store.awsClusters.get? Sample.key).bind
          (·.verdict? ConditionType.ready)).map (·.status) = some .unknown) := by
  decide +kernel

end World

end ClusterInfra
