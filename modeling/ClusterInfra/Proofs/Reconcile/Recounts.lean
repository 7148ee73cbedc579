import ClusterInfra.Proofs.Metrics
import ClusterInfra.Proofs.Reconcile.Creation
import ClusterInfra.Proofs.Reconcile.Sequence
import Mathlib.Algebra.BigOperators.Group.List.Basic
/-!
What a pass counts.

A pass counts a failure for every call that has failed or was cancelled, and for nothing else. The
journal tells the same: a normal pass has stopped at the last step whose services were built, if
that has not come to a good end, and a delete pass has left undone what did not.
-/

namespace ClusterInfra

/-! ### Failed calls -/

namespace ServiceCall

/-- The calls of steps that have failed or were cancelled. -/
def unsuccessful (steps : List (ServiceCall × Except StepError Unit)) : List ServiceCall :=
  steps.filterMap fun
    | (call, .error _) => some call
    | (_, .ok ()) => none

variable {steps : List (ServiceCall × Except StepError Unit)} {call : ServiceCall}

theorem unsuccessful_append (steps steps' : List (ServiceCall × Except StepError Unit)) :
    unsuccessful (steps ++ steps') = unsuccessful steps ++ unsuccessful steps' :=
  List.filterMap_append

theorem mem_unsuccessful_iff :
    call ∈ unsuccessful steps ↔ ∃ e, (call, .error e) ∈ steps := by
  simp only [unsuccessful, List.mem_filterMap]
  constructor
  · rintro ⟨⟨other, e | _⟩, hmem, hsome⟩
    · cases hsome
      exact ⟨e, hmem⟩
    · cases hsome
  · rintro ⟨e, hmem⟩
    exact ⟨_, hmem, rfl⟩

theorem unsuccessful_sublist (steps : List (ServiceCall × Except StepError Unit)) :
    (unsuccessful steps).Sublist (steps.map (·.1)) := by
  induction steps with
  | nil => exact List.Sublist.slnil
  | cons step rest ih =>
    obtain ⟨call, e | _⟩ := step
    · exact ih.cons_cons call
    · exact ih.cons call

/-- Of distinct calls, those that are not unsuccessful have succeeded. -/
theorem mem_unsuccessful_iff_not_ok (hnodup : (steps.map (·.1)).Nodup)
    (hmem : call ∈ steps.map (·.1)) : call ∈ unsuccessful steps ↔ (call, .ok ()) ∉ steps := by
  rw [mem_unsuccessful_iff]
  constructor
  · rintro ⟨e, herror⟩ hok
    cases List.inj_on_of_nodup_map hnodup herror hok rfl
  · intro hok
    obtain ⟨⟨other, e | _⟩, hstep, rfl⟩ := List.mem_map.1 hmem
    · exact ⟨e, hstep⟩
    · exact absurd hstep hok

theorem length_unsuccessful (steps : List (ServiceCall × Except StepError Unit)) :
    (steps.filterMap fun step => step.1.failure? step.2).length = (unsuccessful steps).length := by
  induction steps with
  | nil => rfl
  | cons step rest ih =>
    obtain ⟨call, e | _⟩ := step
    · exact congrArg (· + 1) ih
    · exact ih

theorem unsuccessful_reconciled (subsystems : List Subsystem) :
    unsuccessful (subsystems.map fun subsystem => (⟨.reconcile, subsystem⟩, .ok ())) = [] := by
  simp [unsuccessful, List.filterMap_map]

theorem unsuccessful_stopping (before : List Subsystem) (step : Subsystem) (e : StepError) :
    unsuccessful (Subsystem.stopping before step e) = [⟨.reconcile, step⟩] := by
  rw [Subsystem.stopping, unsuccessful_append, unsuccessful_reconciled]
  rfl

/-- Deletions add up over the subsystems. -/
theorem sum_count_deletions (calls : List ServiceCall) :
    (Subsystem.deletionOrder.map fun subsystem => calls.count ⟨.delete, subsystem⟩).sum
      = calls.countP (·.action = .delete) := by
  induction calls with
  | nil => rfl
  | cons call rest ih =>
    rw [List.countP_cons, ← ih]
    rcases call with ⟨_ | _, _ | _ | _ | _⟩ <;>
      simp [Subsystem.deletionOrder, List.count_cons] <;> omega

end ServiceCall

/-- How many deletions a result says to have failed. -/
def ControllerError.failedDeletions : ControllerError → Nat
  | .deleteIncomplete failed _ => failed
  | _ => 0

/-- How many deletions an invocation says to have failed. -/
def failedDeletions : Except ControllerError Outcome → Nat
  | .ok _ => 0
  | .error e => e.failedDeletions

variable {σ : Type} {cloud : Cloud σ}

/-! ### Errors that are not about deletions -/

theorem Store.failedDeletions_persist {store : Store} {before after : AwsCluster}
    {e : ControllerError} (h : (store.persist before after).1 = .error e) :
    e.failedDeletions = 0 := by
  simp only [persist] at h
  repeat' split at h
  all_goals cases h
  all_goals rfl

theorem Attempt.failedDeletions_persist {a : Attempt σ} {e : ControllerError}
    (h : a.persist.1 = .error e) : e.failedDeletions = 0 := by
  rw [persist, World.persist] at h
  split at h
  · rcases a.world.access_eq .patch (·.persist a.scope.saved a.scope.object) with
      ⟨message, faults, -, heq⟩ | ⟨faults, -, heq⟩ <;> rw [heq] at h
    · cases h
      rfl
    · cases hpersist : (a.world.store.persist a.scope.saved a.scope.object).1 with
      | error e' =>
        rw [hpersist] at h
        cases h
        exact Store.failedDeletions_persist hpersist
      | ok version =>
        rw [hpersist] at h
        cases h
  · cases h

theorem Attempt.failedDeletions_ensureFinalizer {a : Attempt σ} {e : ControllerError}
    (h : a.ensureFinalizer.1 = .error e) : e.failedDeletions = 0 := by
  rw [ensureFinalizer] at h
  split at h
  · cases h
  · exact failedDeletions_persist h

theorem Scope.failedDeletions_of {cluster : Cluster} {object : AwsCluster} {e : ControllerError}
    (h : Scope.of cluster object = .error e) : e.failedDeletions = 0 := by
  rw [Scope.of] at h
  repeat' split at h
  all_goals cases h
  all_goals rfl

theorem World.failedDeletions_scope? {object : AwsCluster} {owner : Option Cluster}
    {e : ControllerError} (h : scope? object owner = .error e) : e.failedDeletions = 0 := by
  have hmap : ∀ {cluster : Cluster} {mode : Mode},
      (Scope.of cluster object).map (fun scope => some (mode, scope)) = .error e →
        e.failedDeletions = 0 := by
    intro cluster mode h
    cases hof : Scope.of cluster object with
    | error e' =>
      rw [hof] at h
      cases h
      exact Scope.failedDeletions_of hof
    | ok scope => rw [hof] at h; cases h
  unfold scope? at h
  split at h
  · exact hmap h
  · exact hmap h
  · cases h

theorem Store.failedDeletions_findOwner {store : Store} {object : AwsCluster} {e : ControllerError}
    (h : store.findOwner object = .error e) : e.failedDeletions = 0 := by
  rw [findOwner] at h
  repeat' split at h
  all_goals cases h
  rfl

/-- An invocation that fails before its pass has not deleted anything. -/
theorem World.failedDeletions_enter {world : World σ} {key : ObjectKey} {e : ControllerError}
    (h : (world.enter key).1 = .error e) : e.failedDeletions = 0 := by
  have hreads := world.reads_enter key
  generalize world.enter key = out at h hreads
  cases hreads with
  | fault message faults => cases h; rfl
  | found faults =>
    simp only [Store.entry] at h
    cases hobject : world.store.awsClusters.get? key with
    | none => rw [hobject] at h; cases h
    | some object =>
      rw [hobject, Option.elim_some, Store.decision] at h
      split at h
      · cases h
      · cases howner : world.store.findOwner object with
        | error e' =>
          rw [howner] at h
          cases h
          exact Store.failedDeletions_findOwner howner
        | ok owner =>
          rw [howner] at h
          exact failedDeletions_scope? h

/-! ### Passes -/

namespace Attempt

variable {dnsRequeue : Nat} {context : ServiceContext} {a b c : Attempt σ}
  {steps steps' : List (ServiceCall × Except StepError Unit)} {events events' looked : List Event}
  {result : Except ControllerError Outcome}

/-- What was done between two attempts: the journal tells these steps, the metrics count those that
have not succeeded, and nothing else is measured. -/
structure Recounts (steps : List (ServiceCall × Except StepError Unit)) (events : List Event)
    (a b : Attempt σ) : Prop where
  journal : b.world.journal = a.world.journal ++ events
  built : (Event.contexts events).length = steps.length
  done : ∀ call, (call, .done) ∈ Event.returns events ↔ (call, .ok ()) ∈ steps
  counted : ∀ call : ServiceCall,
    b.world.metrics.failureCount call.subsystem call.action.label
      = a.world.metrics.failureCount call.subsystem call.action.label
        + (ServiceCall.unsuccessful steps).count call
  results : b.world.metrics.results = a.world.metrics.results
  durations : b.world.metrics.durations = a.world.metrics.durations

/-- Where no service is built and nothing is measured, nothing is counted. -/
theorem recounts_of_still (hjournal : b.world.journal = a.world.journal ++ looked)
    (hbuilt : Event.contexts looked = []) (hreturns : Event.returns looked = [])
    (hmetrics : b.world.metrics = a.world.metrics) : Recounts [] looked a b where
  journal := hjournal
  built := by rw [hbuilt]; rfl
  done call := by rw [hreturns]; simp
  counted call := by rw [hmetrics]; rfl
  results := by rw [hmetrics]
  durations := by rw [hmetrics]

theorem Recounts.trans (h : Recounts steps events a b) (h' : Recounts steps' events' b c) :
    Recounts (steps ++ steps') (events ++ events') a c where
  journal := by rw [h'.journal, h.journal, List.append_assoc]
  built := by
    rw [Event.contexts_append, List.length_append, List.length_append, h.built, h'.built]
  done call := by
    rw [Event.returns_append, List.mem_append, List.mem_append, h.done, h'.done]
  counted call := by
    rw [h'.counted, h.counted, ServiceCall.unsuccessful_append, List.count_append, Nat.add_assoc]
  results := h'.results.trans h.results
  durations := h'.durations.trans h.durations

/-- What is counted does not depend on anything but the metrics and the journal. -/
theorem Recounts.of_eq (h : Recounts steps events a b) {c : Attempt σ}
    (hjournal : c.world.journal = b.world.journal) (hmetrics : c.world.metrics = b.world.metrics) :
    Recounts steps events a c := by
  have hstill := recounts_of_still (hjournal.trans (List.append_nil _).symm) rfl rfl hmetrics
  simpa only [List.append_nil] using h.trans hstill

/-- A call is counted if it has not succeeded. -/
theorem recounts_carryOut (cloud : Cloud σ) (context : ServiceContext) (call : ServiceCall)
    (a : Attempt σ) : ∃ events, Recounts [(call, (a.carryOut cloud context call).1)] events a
      (a.carryOut cloud context call).2 := by
  have htold : ∃ events,
      (a.carryOut cloud context call).2.world.journal = a.world.journal ++ events ∧
      (Event.contexts events).length = 1 ∧ ∀ other, (other, .done) ∈ Event.returns events ↔
        (other, .ok ()) ∈ [(call, (a.carryOut cloud context call).1)] := by
    rcases a.journal_carryOut cloud context call with
      ⟨-, hresult, hjournal⟩ | ⟨ending, hresult, hjournal⟩
    · exact ⟨_, hjournal, rfl, fun other => by simp [Event.returns, hresult]⟩
    · refine ⟨_, hjournal, rfl, fun other => ?_⟩
      rw [← hresult]
      cases ending <;> simp [Event.returns, Ending.result]
  obtain ⟨events, hjournal, hbuilt, hdone⟩ := htold
  refine ⟨events, ?_⟩
  rcases a.metrics_carryOut cloud context call with
    ⟨hresult, hmetrics⟩ | ⟨e, hresult, hmetrics⟩
  · refine ⟨hjournal, hbuilt, hdone, fun other => ?_, by rw [hmetrics], by rw [hmetrics]⟩
    rw [hmetrics, hresult]
    rfl
  · refine ⟨hjournal, hbuilt, hdone, fun other => ?_, by rw [hmetrics]; rfl, by rw [hmetrics]; rfl⟩
    have hsingle : ServiceCall.unsuccessful [(call, .error e)] = [call] := rfl
    rw [hmetrics, hresult, hsingle]
    by_cases hother : other = call
    · rw [hother, Metrics.failureCount_recordFailure_self, List.count_singleton_self]
    · rw [Metrics.failureCount_recordFailure_of_ne _ hother,
        List.count_eq_zero_of_not_mem (by simpa using hother), Nat.add_zero]

theorem CarriedOut.recounts (h : CarriedOut cloud context steps a b) :
    ∃ events, Recounts steps events a b := by
  induction h with
  | nil a => exact ⟨[], recounts_of_still (List.append_nil _).symm rfl rfl rfl⟩
  | @cons a b c call result rest hcall _ ih =>
    obtain ⟨events, hfirst⟩ := a.recounts_carryOut cloud context call
    obtain ⟨events', hrest⟩ := ih
    rw [hcall] at hfirst
    exact ⟨events ++ events', hfirst.trans hrest⟩

/-- Waiting for the DNS name counts nothing. -/
theorem recounts_awaitDnsName (cloud : Cloud σ) (dnsRequeue : Nat) (a : Attempt σ) :
    ∃ looked, Recounts [] looked a (a.awaitDnsName cloud dnsRequeue).2 := by
  have hmetrics := (a.awaits_awaitDnsName cloud dnsRequeue).told.1
  cases hname : a.scope.object.dnsName? with
  | none =>
    obtain ⟨-, hjournal⟩ := awaitDnsName_of_unnamed hname cloud dnsRequeue
    exact ⟨[], recounts_of_still (hjournal.trans (List.append_nil _).symm) rfl rfl hmetrics⟩
  | some host =>
    rcases awaitDnsName_of_named hname cloud dnsRequeue with ⟨-, -, hjournal⟩ | ⟨-, -, hjournal⟩
    · exact ⟨[], recounts_of_still (hjournal.trans (List.append_nil _).symm) rfl rfl hmetrics⟩
    · exact ⟨_, recounts_of_still hjournal rfl rfl hmetrics⟩

theorem Awaits.failedDeletions {out : Except ControllerError Outcome × Attempt σ}
    (h : a.Awaits cloud dnsRequeue out) : failedDeletions out.1 = 0 := by
  cases h <;> rfl

/-- Ensuring the finalizer counts nothing. -/
theorem recounts_ensureFinalizer (a : Attempt σ) : Recounts [] [] a a.ensureFinalizer.2 := by
  refine recounts_of_still (a.journal_ensureFinalizer.trans (List.append_nil _).symm) rfl rfl ?_
  unfold ensureFinalizer
  split
  next => rfl
  next scope _ =>
    obtain ⟨store, faults, hworld⟩ := ({ a with scope } : Attempt σ).world_persist
    rw [hworld]

/-- How a pass ends, by the steps that it has made. -/
inductive Ends : Bool → List (ServiceCall × Except StepError Unit) →
    Except ControllerError Outcome → Prop
  /-- The finalizer could not be stored. -/
  | unguarded {e : ControllerError} (he : e.failedDeletions = 0) : Ends false [] (.error e)
  /-- A step has failed or was cancelled. -/
  | stopped {before rest : List Subsystem} {step : Subsystem} (e : StepError)
      (horder : Subsystem.creationOrder = before ++ step :: rest) :
      Ends false (Subsystem.stopping before step e)
        (.error (e.toControllerError ⟨.reconcile, step⟩))
  /-- All steps have succeeded. -/
  | reached {result : Except ControllerError Outcome} (hresult : failedDeletions result = 0) :
      Ends false Subsystem.creations result
  /-- All deletions were attempted. -/
  | deleted {steps : List (ServiceCall × Except StepError Unit)}
      {result : Except ControllerError Outcome}
      (hcalls : steps.map (·.1) = Subsystem.deletionOrder.map (⟨.delete, ·⟩))
      (hresult : failedDeletions result = (ServiceCall.unsuccessful steps).length) :
      Ends true steps result

/-- The result of a normal pass, by what became of its steps. -/
theorem recounts_runNormal (cloud : Cloud σ) (dnsRequeue : Nat) (a : Attempt σ) :
    ∃ steps events, Recounts steps events a (a.runNormal cloud dnsRequeue).2 ∧
      Ends false steps (a.runNormal cloud dnsRequeue).1 := by
  have hensured := a.recounts_ensureFinalizer
  rcases hensure : a.ensureFinalizer with ⟨e | _, b⟩ <;> rw [hensure] at hensured
  · rw [runNormal_of_error hensure]
    exact ⟨[], [], hensured,
      .unguarded (failedDeletions_ensureFinalizer (congrArg Prod.fst hensure))⟩
  · rw [runNormal, hensure]
    have horder := carriedOut_reconcileInOrder cloud b.scope.context Subsystem.creationOrder b
    rcases hresult : b.reconcileInOrder cloud b.scope.context Subsystem.creationOrder with
      ⟨result, c⟩
    rw [hresult] at horder
    simp only [hresult]
    rcases horder with ⟨hok, hsteps⟩ | ⟨before, failed, rest, e, horder, herror, hsteps⟩
    · cases (hok : result = _)
      obtain ⟨events, hrecounts⟩ := hsteps.recounts
      obtain ⟨looked, hlooked⟩ := c.recounts_awaitDnsName cloud dnsRequeue
      have hall := (hensured.trans hrecounts).trans hlooked
      rw [List.append_nil] at hall
      exact ⟨_, _, hall, .reached (c.awaits_awaitDnsName cloud dnsRequeue).failedDeletions⟩
    · cases (herror : result = _)
      obtain ⟨events, hrecounts⟩ := hsteps.recounts
      exact ⟨_, _, hensured.trans hrecounts, .stopped e horder⟩

theorem recounts_runDelete (cloud : Cloud σ) (a : Attempt σ) :
    ∃ steps events, Recounts steps events a (a.runDelete cloud).2 ∧
      Ends true steps (a.runDelete cloud).1 := by
  obtain ⟨steps, hcalls, herrors, hsteps⟩ :=
    carriedOut_deleteInOrder cloud a.scope.context Subsystem.deletionOrder a
  obtain ⟨events, hrecounts⟩ := hsteps.recounts
  have hlength := congrArg List.length herrors
  rw [ServiceCall.length_unsuccessful] at hlength
  rcases hdelete : a.deleteInOrder cloud a.scope.context Subsystem.deletionOrder with
    ⟨_ | ⟨first, others⟩, b⟩ <;> rw [hdelete] at hlength hrecounts
  · rw [runDelete_of_nil hdelete]
    exact ⟨steps, events, hrecounts.of_eq rfl rfl, .deleted hcalls hlength⟩
  · rw [runDelete_of_cons hdelete]
    exact ⟨steps, events, hrecounts, .deleted hcalls hlength⟩

/-- Closing the attempt counts nothing, and its errors are not about deletions. -/
theorem Ends.finish {deleting : Bool} (h : Ends deleting steps result) (a : Attempt σ) :
    Ends deleting steps (finish (result, a)).1 := by
  have hfailed : failedDeletions (Attempt.finish (result, a)).1 = failedDeletions result := by
    cases result with
    | error e => rw [finish_error]
    | ok outcome =>
      simp only [Attempt.finish]
      rcases hclose : a.close with ⟨e | _, b⟩
      · exact failedDeletions_persist (congrArg Prod.fst hclose)
      · rfl
  cases h with
  | unguarded he => rw [finish_error]; exact .unguarded he
  | stopped e horder => rw [finish_error]; exact .stopped e horder
  | reached hresult => exact .reached (hfailed.trans hresult)
  | deleted hcalls hresult => exact .deleted hcalls (hfailed.trans hresult)

theorem recounts_run (cloud : Cloud σ) (dnsRequeue : Nat) (deleting : Bool) (a : Attempt σ) :
    ∃ steps events, Recounts steps events a (a.run cloud dnsRequeue deleting).2 ∧
      Ends deleting steps (a.run cloud dnsRequeue deleting).1 := by
  have hpass : ∃ steps events, Recounts steps events a (a.pass cloud dnsRequeue deleting).2 ∧
      Ends deleting steps (a.pass cloud dnsRequeue deleting).1 := by
    cases deleting with
    | true => exact a.recounts_runDelete cloud
    | false => exact a.recounts_runNormal cloud dnsRequeue
  obtain ⟨steps, events, hrecounts, hends⟩ := hpass
  refine ⟨steps, events, ?_, hends.finish _⟩
  obtain ⟨store, faults, clock, hworld⟩ := (a.pass cloud dnsRequeue deleting).2.world_close
  change Recounts steps events a (Attempt.finish (a.pass cloud dnsRequeue deleting)).2
  refine hrecounts.of_eq ?_ ?_ <;> rw [finish_snd, hworld]

/-! ### What the journal tells -/

/-- Every step of a pass is made once. -/
theorem Ends.nodup {deleting : Bool} (h : Ends deleting steps result) :
    (steps.map (·.1)).Nodup := by
  cases h with
  | unguarded => exact List.nodup_nil
  | @stopped before rest step e horder =>
    rw [Subsystem.calls_stopping]
    refine List.Nodup.map (fun a b heq => congrArg (·.subsystem) heq) ?_
    have hnodup : (before ++ [step] ++ rest).Nodup := by
      rw [List.append_assoc, List.singleton_append, ← horder]
      decide
    exact hnodup.of_append_left
  | reached => decide
  | deleted hcalls => rw [hcalls]; decide

end Attempt

/-- A normal pass has stopped at a step: the services up to its own were built, and its call has not
come to a good end. -/
def Event.StopsAt (events : List Event) (step : Subsystem) : Prop :=
  ∃ before rest, Subsystem.creationOrder = before ++ step :: rest ∧
    (contexts events).length = before.length + 1 ∧ (⟨.reconcile, step⟩, .done) ∉ returns events

namespace Attempt

theorem Recounts.stopsAt_iff (h : Recounts steps events a b) (hends : Ends false steps result)
    (step : Subsystem) :
    Event.StopsAt events step ↔ ⟨.reconcile, step⟩ ∈ ServiceCall.unsuccessful steps := by
  have hnodup := hends.nodup
  cases hends with
  | unguarded =>
    refine ⟨?_, fun hmem => absurd hmem List.not_mem_nil⟩
    rintro ⟨before, rest, -, hlength, -⟩
    rw [h.built] at hlength
    cases hlength
  | @stopped before rest failed e horder =>
    rw [ServiceCall.unsuccessful_stopping, List.mem_singleton]
    constructor
    · rintro ⟨before', rest', horder', hlength, -⟩
      rw [h.built, Subsystem.stopping, List.length_append, List.length_map, List.length_singleton]
        at hlength
      obtain ⟨-, htail⟩ :=
        List.append_inj (horder.symm.trans horder') (Nat.add_right_cancel hlength)
      rw [(List.cons.inj htail).1]
    · rintro heq
      obtain rfl := congrArg (·.subsystem) heq
      refine ⟨before, rest, horder, ?_, ?_⟩
      · rw [h.built, Subsystem.stopping, List.length_append, List.length_map,
          List.length_singleton]
      · rw [h.done, ← ServiceCall.mem_unsuccessful_iff_not_ok hnodup]
        · rw [ServiceCall.unsuccessful_stopping]
          exact List.mem_singleton_self _
        · rw [Subsystem.calls_stopping]
          exact List.mem_map_of_mem (List.mem_append_right _ List.mem_cons_self)
  | reached =>
    rw [Subsystem.creations, ServiceCall.unsuccessful_reconciled]
    refine ⟨?_, fun hmem => absurd hmem List.not_mem_nil⟩
    rintro ⟨before, rest, horder, -, hundone⟩
    have hstep : step ∈ Subsystem.creationOrder := by
      rw [horder]
      exact List.mem_append_right _ List.mem_cons_self
    exact absurd ((h.done _).2 (List.mem_map_of_mem hstep)) hundone

/-- The calls of a pass are those of its action. -/
theorem Ends.action {deleting : Bool} (h : Ends deleting steps result) {call : ServiceCall}
    (hmem : call ∈ ServiceCall.unsuccessful steps) :
    call.action = if deleting then .delete else .reconcile := by
  cases h with
  | unguarded => cases hmem
  | stopped e =>
    rw [ServiceCall.unsuccessful_stopping, List.mem_singleton] at hmem
    rw [hmem]
    rfl
  | reached =>
    rw [Subsystem.creations, ServiceCall.unsuccessful_reconciled] at hmem
    cases hmem
  | deleted hcalls =>
    have hcall := (ServiceCall.unsuccessful_sublist steps).subset hmem
    rw [hcalls, List.mem_map] at hcall
    obtain ⟨subsystem, -, rfl⟩ := hcall
    rfl

theorem Recounts.undone_iff (h : Recounts steps events a b) (hends : Ends true steps result)
    (subsystem : Subsystem) : (⟨.delete, subsystem⟩, .done) ∉ Event.returns events ↔
      ⟨.delete, subsystem⟩ ∈ ServiceCall.unsuccessful steps := by
  have hnodup := hends.nodup
  cases hends with
  | deleted hcalls =>
    rw [h.done, ServiceCall.mem_unsuccessful_iff_not_ok hnodup]
    rw [hcalls]
    exact List.mem_map_of_mem (by cases subsystem <;> decide)

/-- A normal pass has the error of its step that has not succeeded. -/
theorem Ends.exists_error (h : Ends false steps result) {step : Subsystem}
    (hmem : ⟨.reconcile, step⟩ ∈ ServiceCall.unsuccessful steps) :
    ∃ e : StepError, result = .error (e.toControllerError ⟨.reconcile, step⟩) := by
  cases h with
  | unguarded => cases hmem
  | stopped e =>
    rw [ServiceCall.unsuccessful_stopping, List.mem_singleton] at hmem
    exact ⟨e, by rw [hmem]⟩
  | reached =>
    rw [Subsystem.creations, ServiceCall.unsuccessful_reconciled] at hmem
    cases hmem

/-- The result of a pass tells how many deletions have failed. -/
theorem Ends.failedDeletions_eq {deleting : Bool} (h : Ends deleting steps result) :
    failedDeletions result = (ServiceCall.unsuccessful steps).countP (·.action = .delete) := by
  have haction := fun call (hmem : call ∈ ServiceCall.unsuccessful steps) => h.action hmem
  cases h with
  | unguarded he => exact he
  | stopped e => rw [ServiceCall.unsuccessful_stopping]; cases e <;> rfl
  | reached hresult => rw [Subsystem.creations, ServiceCall.unsuccessful_reconciled, hresult]; rfl
  | deleted hcalls hresult =>
    rw [hresult, eq_comm, List.countP_eq_length]
    exact fun call hmem => decide_eq_true (haction call hmem)

/-- Failed deletions add up. -/
theorem Recounts.deletionFailures (h : Recounts steps events a b) :
    b.world.metrics.deletionFailures = a.world.metrics.deletionFailures
      + (ServiceCall.unsuccessful steps).countP (·.action = .delete) := by
  have hcounted : ∀ subsystem, b.world.metrics.failureCount subsystem "delete"
      = a.world.metrics.failureCount subsystem "delete"
        + (ServiceCall.unsuccessful steps).count ⟨.delete, subsystem⟩ :=
    fun subsystem => h.counted ⟨.delete, subsystem⟩
  rw [Metrics.deletionFailures, ← ServiceCall.sum_count_deletions, Metrics.deletionFailures,
    ← List.sum_map_add]
  exact congrArg List.sum (List.map_congr_left fun subsystem _ => hcounted subsystem)

end Attempt

end ClusterInfra
