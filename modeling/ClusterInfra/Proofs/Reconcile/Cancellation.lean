import ClusterInfra.Proofs.Reconcile.Calm
import ClusterInfra.Proofs.Reconcile.Locality
import ClusterInfra.Proofs.Reconcile.Monitored
import ClusterInfra.Proofs.Reconcile.Reports
import Mathlib.Data.List.Nodup
/-!
Cancellation stops the work.

Once an invocation has been cancelled, no call and no look-up is started any more, and whatever was
still to be done makes it fail. A normal pass ends with the step that it had come to. A delete pass
counts every unfinished deletion among its failures, says so in the conditions, and leaves the
finalizer where it is.
-/

namespace ClusterInfra

variable {σ ν : Type} {cloud : Cloud σ}

/-! ### Unfinished steps -/

namespace ServiceCall

theorem finished?_eq_some {step : ServiceCall × Except StepError Unit} {call : ServiceCall}
    (h : finished? step = some call) : step.1 = call := by
  rcases step with ⟨other, (_ | error) | _⟩
  · cases h
  · exact Option.some.inj h
  · exact Option.some.inj h

theorem finished?_eq_none {step : ServiceCall × Except StepError Unit}
    (h : finished? step = none) : step.2 = .error .cancelled := by
  rcases step with ⟨other, (_ | error) | _⟩
  · rfl
  · cases h
  · cases h

/-- Every error of a step is one of its own or its cancellation. -/
theorem length_failures : ∀ steps : List (ServiceCall × Except StepError Unit),
    (steps.filterMap fun step => step.1.failure? step.2).length
      = (steps.filterMap failed?).length + (steps.filter fun step => (finished? step).isNone).length
  | [] => rfl
  | (call, .ok ()) :: rest => length_failures rest
  | (call, .error .cancelled) :: rest => congrArg (· + 1) (length_failures rest)
  | (call, .error (.failed error)) :: rest => by
    have hrest := congrArg (· + 1) (length_failures rest)
    rw [Nat.add_right_comm] at hrest
    exact hrest

end ServiceCall

namespace Event

variable {events : List Event} {steps : List (ServiceCall × Except StepError Unit)}

/-- The subsystems whose calls have not brought a result: those that were interrupted, and those
that were not started. -/
def unfinished (events : List Event) (action : Action) (subsystems : List Subsystem) :
    List Subsystem :=
  subsystems.filter (⟨action, ·⟩ ∉ finished events)

/-- If a call was due for each of the subsystems, the unfinished ones are those that were cancelled.
-/
theorem Tells.unfinished (h : Tells events steps) {action : Action} {subsystems : List Subsystem}
    (hcalls : steps.map (·.1) = subsystems.map (⟨action, ·⟩)) (hnodup : subsystems.Nodup) :
    unfinished events action subsystems
      = (steps.filter fun step => (ServiceCall.finished? step).isNone).map (·.1.subsystem) := by
  have hsteps : (steps.map (·.1)).Nodup := by
    rw [hcalls]
    exact hnodup.map fun _ _ heq => congrArg ServiceCall.subsystem heq
  rw [Event.unfinished, ← ServiceCall.subsystems_eq hcalls, List.filter_map]
  congr 1
  refine List.filter_congr fun step hstep => ?_
  rw [Function.comp_apply, ServiceCall.eq_of_mem hcalls hstep, Bool.eq_iff_iff, decide_eq_true_eq,
    Option.isNone_iff_eq_none, h.finished, List.mem_filterMap]
  constructor
  · intro hnone
    cases hstepped : ServiceCall.finished? step with
    | none => rfl
    | some call =>
      cases ServiceCall.finished?_eq_some hstepped
      exact absurd ⟨step, hstep, hstepped⟩ hnone
  · rintro hcancelled ⟨other, hother, hfinished⟩
    cases List.inj_on_of_nodup_map hsteps hother hstep (ServiceCall.finished?_eq_some hfinished)
    cases hcancelled.symm.trans hfinished

/-- If the calls before the first failure were made, and this one was cancelled, it comes first
among the unfinished ones. -/
theorem Tells.unfinished_of_stopped {before rest : List Subsystem} {step : Subsystem} {e : StepError}
    (h : Tells events (before.map (fun subsystem => (⟨.reconcile, subsystem⟩, .ok ()))
      ++ [(⟨.reconcile, step⟩, .error e)]))
    (hnodup : (before ++ step :: rest).Nodup) (hfailures : Event.failures events = []) :
    e = .cancelled ∧ Event.unfinished events .reconcile (before ++ step :: rest) = step :: rest := by
  cases e with
  | failed error =>
    rw [h.failures, List.filterMap_append] at hfailures
    exact absurd hfailures (List.append_ne_nil_of_right_ne_nil _ nofun)
  | cancelled =>
    have hfinished : Event.finished events = before.map (⟨.reconcile, ·⟩) := by
      rw [h.finished, List.filterMap_append, List.filterMap_map]
      exact (List.append_nil _).trans (congrFun List.filterMap_eq_map before)
    have hmem : ∀ subsystem, (⟨.reconcile, subsystem⟩ : ServiceCall) ∈ Event.finished events
        ↔ subsystem ∈ before := by
      intro subsystem
      rw [hfinished, List.mem_map]
      refine ⟨?_, fun hmem => ⟨subsystem, hmem, rfl⟩⟩
      rintro ⟨other, hother, heq⟩
      cases heq
      exact hother
    have hdisjoint := List.disjoint_of_nodup_append hnodup
    refine ⟨rfl, ?_⟩
    simp only [Event.unfinished, hmem, List.filter_append]
    rw [List.filter_eq_nil_iff.2, List.filter_eq_self.2, List.nil_append]
    · exact fun subsystem hmem => decide_eq_true fun hbefore => hdisjoint hbefore hmem
    · exact fun subsystem hmem hnot => of_decide_eq_true hnot hmem

end Event

namespace Attempt

variable {context : ServiceContext} {call : ServiceCall} {dnsRequeue : Nat} {key : ObjectKey}
  {steps : List (ServiceCall × Except StepError Unit)} {events : List Event} {a b c : Attempt σ}

/-! ### After the cancellation -/

/-- A call that was cancelled leaves the invocation cancelled. -/
theorem cancelled_of_carryOut (h : (a.carryOut cloud context call).1 = .error .cancelled) :
    (a.carryOut cloud context call).2.cancelled = true := by
  obtain ⟨metrics, clock, now, heq⟩ := a.exists_carryOut_eq cloud context call
  rw [heq, call_eq] at h
  rw [heq, call_eq]
  split
  next hcancelled => exact hcancelled
  next hcancelled =>
    rw [if_neg hcancelled] at h
    cases hending : (cloud.call call context a.scope.object a.world.cloud).1.ending with
    | done => rw [hending] at h; cases h
    | failed error => rw [hending] at h; cases h
    | interrupted => simp [made, absorb, log, hending]

/-- Once the invocation has been cancelled, a call is refused, and the object is not handed out. -/
theorem carryOut_of_cancelled (h : a.cancelled = true) (cloud : Cloud σ) (context : ServiceContext)
    (call : ServiceCall) :
    (a.carryOut cloud context call).1 = .error .cancelled ∧
      Marked (call.marks a.scope.object.spec.bastion.enabled (.error .cancelled)) a.scope.object
        (a.carryOut cloud context call).2.scope.object := by
  have hcall : a.call cloud context call = (.error .cancelled, a.log (.built context)) := by
    rw [call_eq, if_pos h]
  have hresult : (a.carryOut cloud context call).1 = .error .cancelled := by
    rw [fst_carryOut, hcall]
  have hmarked := a.marked_carryOut cloud context call
  rw [hresult, hcall] at hmarked
  exact ⟨hresult, hmarked⟩

/-- Once the invocation has been cancelled, calls leave the verdicts on other subsystems alone. -/
theorem CarriedOut.verdict?_of_cancelled (h : CarriedOut cloud context steps a b)
    (hcancelled : a.cancelled = true) {type : String}
    (hother : ∀ step ∈ steps, step.1.subsystem.condition? ≠ some type) :
    b.scope.object.verdict? type = a.scope.object.verdict? type := by
  induction h with
  | nil a => rfl
  | @cons a b c call result rest hcall _ ih =>
    rw [List.forall_mem_cons] at hother
    obtain ⟨hresult, hmarked⟩ := carryOut_of_cancelled hcancelled cloud context call
    have hstill := cancelled_of_carryOut hresult
    rw [hcall] at hmarked hstill
    rw [ih hstill hother.2]
    refine hmarked.verdict? fun mark hmem hplace => ?_
    obtain ⟨other, htype, heq⟩ := ServiceCall.place_of_mem_marks hmem
    cases heq.symm.trans hplace
    exact hother.1 htype

/-- With one call for each subsystem, the condition of one that was cancelled says so, whatever
services write. -/
theorem CarriedOut.verdict?_cancelled (h : CarriedOut cloud context steps a b)
    (hnodup : (steps.map (·.1.subsystem)).Nodup) (hmem : (call, .error .cancelled) ∈ steps)
    {type : String} (htype : call.subsystem.condition? = some type) :
    b.scope.object.verdict? type
      = some (.fails call.failureReason .warning StepError.cancelled.message) := by
  induction h with
  | nil a => cases hmem
  | @cons a b c first result rest hcall hrest ih =>
    rw [List.map_cons, List.nodup_cons] at hnodup
    rcases List.mem_cons.1 hmem with heq | hmem
    · cases heq
      have hstill := cancelled_of_carryOut (congrArg Prod.fst hcall)
      have hmarked := a.marked_carryOut cloud context call
      rw [hcall] at hstill hmarked
      rw [hrest.verdict?_of_cancelled hstill]
      · have hnow : (call, .error .cancelled) ≠ ServiceCall.deferred := fun heq =>
          nomatch congrArg Prod.snd heq
        exact ServiceCall.verdict?_of_marks htype hnow hmarked
      · intro step hstep hother
        have hsame := Subsystem.eq_of_condition? htype hother
        exact hnodup.1 (hsame ▸ List.mem_map_of_mem hstep)
    · exact ih hnodup.2 hmem

/-! ### What stays stored -/

/-- The stored object at a key and what an attempt takes for persisted are as they were. -/
structure Stays (key : ObjectKey) (a b : Attempt σ) : Prop where
  saved : b.scope.saved = a.scope.saved
  same : b.scope.object.key = a.scope.object.key
  stored : b.world.store.awsClusters.get? key = a.world.store.awsClusters.get? key
  faults : b.world.faults = a.world.faults

theorem stays_carryOut {fit : σ → Prop} (hspares : cloud.SparesKey fit key)
    (context : ServiceContext) (call : ServiceCall) (hfit : fit a.world.cloud) :
    fit (a.carryOut cloud context call).2.world.cloud ∧
      Stays key a (a.carryOut cloud context call).2 := by
  have hcalled : fit (a.call cloud context call).2.world.cloud ∧
      Stays key a (a.call cloud context call).2 := by
    rw [call_eq]
    split
    · exact ⟨hfit, rfl, rfl, rfl, rfl⟩
    · exact ⟨hspares.fit_call hfit .., rfl, hspares.same hfit ..,
        Store.get?_foldl_insertAwsCluster (hspares.stored hfit _ _ _) _, rfl⟩
  obtain ⟨hnext, hstays⟩ := hcalled
  obtain ⟨metrics, clock, now, heq⟩ := a.exists_carryOut_eq cloud context call
  have hstages := (a.call cloud context call).2.scope.stages_record call now
    (a.call cloud context call).1
  rw [heq]
  exact ⟨hnext, hstages.saved.trans hstays.saved,
    (congrArg Metadata.key hstages.metadata).trans hstays.same, hstays.stored, hstays.faults⟩

theorem CarriedOut.stays {fit : σ → Prop} (h : CarriedOut cloud context steps a b)
    (hspares : cloud.SparesKey fit key) (hfit : fit a.world.cloud) : Stays key a b := by
  induction h with
  | nil a => exact ⟨rfl, rfl, rfl, rfl⟩
  | @cons a b c call result rest hcall _ ih =>
    obtain ⟨hnext, hfirst⟩ := stays_carryOut hspares context call hfit
    rw [hcall] at hnext hfirst
    have hrest := ih hnext
    exact ⟨hrest.saved.trans hfirst.saved, hrest.same.trans hfirst.same,
      hrest.stored.trans hfirst.stored, hrest.faults.trans hfirst.faults⟩

theorem CarriedOut.metadata {view : Metadata → ν} (h : CarriedOut cloud context steps a b)
    (hkeeps : cloud.Keeps view) : view b.scope.object.metadata = view a.scope.object.metadata := by
  induction h with
  | nil a => rfl
  | @cons a b c call result rest hcall _ ih =>
    have hmarked := (a.marked_carryOut cloud context call).metadata
    rw [hcall] at hmarked
    rw [ih, hmarked, call_eq]
    split
    · rfl
    · exact hkeeps call context a.scope.object a.world.cloud

/-- Closing an attempt stores the verdicts as they are, apart from the summary. -/
theorem Stays.verdict? (h : Stays key a b) (hfresh : a.Fresh) (hkey : a.scope.object.key = key)
    (hcalm : a.world.faults = []) {stored : AwsCluster}
    (hstored : b.close.2.world.store.awsClusters.get? key = some stored) {type : String}
    (hne : type ≠ ConditionType.ready) : stored.verdict? type = b.scope.object.verdict? type := by
  have hsaved : b.scope.saved.key = key := by rw [h.saved, ← hfresh.object, hkey]
  have hclosable : b.concluded.Closable := by
    refine ⟨?_, (h.same.trans hkey).trans hsaved.symm⟩
    have hheld := hfresh.held
    rw [Attempt.held, ← h.saved, hsaved, ← h.stored] at hheld
    rw [← hsaved] at hheld
    exact hheld
  obtain ⟨store, hpersist, hsettled⟩ := hclosable.settles_of_calm (h.faults.trans hcalm)
  have hclose : b.close.2.world.store = store := by
    change b.concluded.persist.2.world.store = store
    rw [hpersist]
  rw [hclose, ← hsaved] at hstored
  obtain ⟨version, houtcome⟩ := Scope.outcome_of_settled (hsettled.symm.trans hstored)
  have hstatus : stored.status = b.concluded.scope.object.status := by rw [houtcome]; rfl
  rw [AwsCluster.verdict?_congr hstatus, verdict?_concluded b hne]

/-- Closing an attempt leaves the finalizer stored, unless it was taken from the object. -/
theorem Stays.holds (h : Stays key a b) (hfresh : a.Fresh)
    (hfinalizer : b.scope.object.hasFinalizer = a.scope.object.hasFinalizer)
    (hheld : a.world.store.Holds key) : b.close.2.world.store.Holds key := by
  obtain ⟨object, hobject, hholds⟩ := hheld
  have hloyal : b.concluded.Loyal := by
    intro hsaved
    change b.scope.saved.hasFinalizer = true at hsaved
    rw [h.saved, ← hfresh.object, ← hfinalizer] at hsaved
    exact hsaved
  exact holds_persist _ ⟨object, h.stored.trans hobject, hholds⟩ fun _ _ => hloyal

/-! ### The passes -/

/-- A delete pass that leaves something unfinished fails, and it counts the unfinished deletions
among those that failed. -/
theorem runDelete_of_unfinished
    (hevents : (a.runDelete cloud).2.world.journal = a.world.journal ++ events)
    (hunfinished : Event.unfinished events .delete Subsystem.deletionOrder ≠ []) :
    ∃ first steps b, a.runDelete cloud = (.error (.deleteIncomplete
        ((Event.failures events).length
          + (Event.unfinished events .delete Subsystem.deletionOrder).length) first), b) ∧
      CarriedOut cloud a.scope.context steps a b ∧
      steps.map (·.1) = Subsystem.deletionOrder.map (⟨.delete, ·⟩) ∧
      ∀ subsystem ∈ Event.unfinished events .delete Subsystem.deletionOrder,
        (⟨.delete, subsystem⟩, .error .cancelled) ∈ steps := by
  obtain ⟨steps, hcalls, herrors, hsteps⟩ :=
    carriedOut_deleteInOrder cloud a.scope.context Subsystem.deletionOrder a
  rcases hdelete : a.deleteInOrder cloud a.scope.context Subsystem.deletionOrder with ⟨errors, b⟩
  rw [hdelete] at herrors hsteps
  obtain ⟨told, htold, htells⟩ := hsteps.tells
  have hjournal : (a.runDelete cloud).2.world.journal = b.world.journal := by
    cases errors with
    | nil => rw [runDelete_of_nil hdelete]
    | cons first others => rw [runDelete_of_cons hdelete]
  cases List.append_cancel_left (htold.symm.trans (hjournal.symm.trans hevents))
  have hsplit := htells.unfinished hcalls (by decide)
  have hcount : errors.length = (Event.failures events).length
      + (Event.unfinished events .delete Subsystem.deletionOrder).length := by
    rw [hsplit, htells.failures, List.length_map, ← ServiceCall.length_failures, ← herrors]
  cases errors with
  | nil =>
    have hpositive := List.length_pos_of_ne_nil hunfinished
    rw [List.length_nil] at hcount
    omega
  | cons first others =>
    refine ⟨first, steps, b, ?_, hsteps, hcalls, fun subsystem hmem => ?_⟩
    · rw [runDelete_of_cons hdelete, ← hcount]
      rfl
    · rw [hsplit, List.mem_map] at hmem
      obtain ⟨step, hstep, rfl⟩ := hmem
      rw [List.mem_filter, Option.isNone_iff_eq_none] at hstep
      rw [ServiceCall.eq_of_mem hcalls hstep.1, ← ServiceCall.finished?_eq_none hstep.2]
      exact hstep.1

/-- A normal pass in which nothing failed ends with the first unfinished step as cancelled, or it
comes to the DNS name. -/
theorem Fresh.runNormal_of_unfailed (h : a.Fresh) (hcalm : a.world.faults = [])
    (hevents : (a.runNormal cloud dnsRequeue).2.world.journal = a.world.journal ++ events)
    (hfailures : Event.failures events = []) :
    (∃ step rest, Event.unfinished events .reconcile Subsystem.creationOrder = step :: rest ∧
      (a.runNormal cloud dnsRequeue).1 = .error (.cancelled step)) ∨
    (Event.unfinished events .reconcile Subsystem.creationOrder = [] ∧ ∃ b c, a.Secured b ∧
      CarriedOut cloud b.scope.context Subsystem.creations b c ∧
      c.Awaits cloud dnsRequeue (a.runNormal cloud dnsRequeue)) := by
  have hexits : a.Exits cloud dnsRequeue false (a.runNormal cloud dnsRequeue) :=
    h.exits cloud dnsRequeue false
  generalize a.runNormal cloud dnsRequeue = out at hexits hevents
  cases hexits with
  | unguarded message faults hfaults => exact absurd hcalm hfaults
  | @stopped b c before rest failed e hsecured horder hsteps =>
    obtain ⟨told, htold, htells⟩ := hsteps.tells
    obtain ⟨store, faults, hworld, -⟩ := hsecured.world
    rw [hworld] at htold
    cases List.append_cancel_left (htold.symm.trans hevents)
    have hnodup : (before ++ failed :: rest).Nodup := horder ▸ by decide
    obtain ⟨rfl, hunfinished⟩ := htells.unfinished_of_stopped hnodup hfailures
    rw [← horder] at hunfinished
    exact .inl ⟨failed, rest, hunfinished, rfl⟩
  | @reached b c out hsecured hsteps hawaits =>
    refine .inr ⟨?_, b, c, hsecured, hsteps, hawaits⟩
    obtain ⟨told, htold, htells⟩ := hsteps.tells
    obtain ⟨store, faults, hworld, -⟩ := hsecured.world
    obtain ⟨-, looked, hlooked, -, hreturns⟩ := hawaits.told
    rw [hworld] at htold
    rw [htold, List.append_assoc] at hlooked
    cases List.append_cancel_left (hlooked.symm.trans hevents)
    have hfinished : Event.finished (told ++ looked)
        = Subsystem.creationOrder.map (⟨.reconcile, ·⟩) := by
      rw [Event.finished_append, htells.finished, Event.finished, hreturns]
      rfl
    rw [Event.unfinished, hfinished]
    rfl

/-! ### The look-up -/

/-- The monitor knows the DNS name that the load balancer has on the object. -/
def KnowsName (a : Attempt (Monitor σ)) : Prop :=
  ∀ object, a.world.cloud.left = some object → a.scope.object.dnsName? = object.dnsName?

theorem knowsName_carryOut {a : Attempt (Monitor σ)} (h : a.KnowsName) (cloud : Cloud σ)
    (context : ServiceContext) (call : ServiceCall) :
    (a.carryOut cloud.monitored context call).2.KnowsName := by
  have hname : (a.carryOut cloud.monitored context call).2.scope.object.dnsName?
      = (a.call cloud.monitored context call).2.scope.object.dnsName? :=
    AwsCluster.blind_dnsName (a.core_carryOut cloud.monitored context call)
  obtain ⟨metrics, clock, now, heq⟩ := a.exists_carryOut_eq cloud.monitored context call
  intro object hleft
  rw [heq, call_eq] at hleft
  rw [hname, call_eq]
  split at hleft
  next hcancelled =>
    rw [if_pos hcancelled]
    exact h object hleft
  next hcancelled =>
    rw [if_neg hcancelled]
    cases hleft
    rfl

theorem CarriedOut.knowsName {a b : Attempt (Monitor σ)}
    (h : CarriedOut cloud.monitored context steps a b) (hknows : a.KnowsName) : b.KnowsName := by
  induction h with
  | nil a => exact hknows
  | @cons a b c call result rest hcall _ ih =>
    have hfirst := knowsName_carryOut hknows cloud context call
    rw [hcall] at hfirst
    exact ih hfirst

theorem cancelled_of_lookUp {host : String} {resolves : Bool}
    (h : a.lookUp cloud host = (some resolves, b)) : b.cancelled = false := by
  rw [lookUp] at h
  split at h
  · cases h
  next hcancelled =>
    rcases hanswer : cloud.lookUp host a.world.cloud with ⟨answer | _, state⟩ <;>
      simp only [hanswer] at h <;> cases h
    exact Bool.eq_false_iff.2 hcancelled

/-- An invocation that is cancelled before its look-up has brought an answer fails with that. -/
theorem Awaits.eq_of_cancelled {a : Attempt (Monitor σ)}
    {out : Except ControllerError Outcome × Attempt (Monitor σ)}
    (h : a.Awaits cloud.monitored dnsRequeue out) (hknows : a.KnowsName) (hintime : out.2.InTime)
    {object : AwsCluster} {host : String} (hleft : out.2.world.cloud.left = some object)
    (hname : object.dnsName? = some host) (hcancelled : out.2.world.cloud.cancelled = true) :
    out.1 = .error (.cancelled .loadBalancer) := by
  rw [hintime.cancelled] at hcancelled
  cases h with
  | unnamed hunnamed =>
    have hsame := hknows object hleft
    rw [hunnamed, hname] at hsame
    cases hsame
  | interrupted => rfl
  | unresolved _ hlookUp => cases (cancelled_of_lookUp hlookUp).symm.trans hcancelled
  | resolved _ hlookUp => cases (cancelled_of_lookUp hlookUp).symm.trans hcancelled

/-- A normal pass that has finished its steps fails if it is cancelled before its DNS name, of which
the monitor knows, is found to resolve or not. -/
theorem Fresh.runNormal_of_named {a : Attempt (Monitor σ)} (h : a.Fresh)
    (hcalm : a.world.faults = []) (hintime : a.InTime) (hleft : a.world.cloud.left = none)
    (hevents : (a.runNormal cloud.monitored dnsRequeue).2.world.journal
      = a.world.journal ++ events)
    (hfailures : Event.failures events = [])
    (hfinished : Event.unfinished events .reconcile Subsystem.creationOrder = [])
    {object : AwsCluster} {host : String}
    (hobject : (a.runNormal cloud.monitored dnsRequeue).2.world.cloud.left = some object)
    (hname : object.dnsName? = some host)
    (hcancelled : (a.runNormal cloud.monitored dnsRequeue).2.world.cloud.cancelled = true) :
    (a.runNormal cloud.monitored dnsRequeue).1 = .error (.cancelled .loadBalancer) := by
  rcases h.runNormal_of_unfailed hcalm hevents hfailures with
    ⟨step, rest, hunfinished, -⟩ | ⟨-, b, c, hsecured, hsteps, hawaits⟩
  · cases hunfinished.symm.trans hfinished
  · have hstart : b.KnowsName := by
      intro object hobject
      obtain ⟨store, faults, hworld, -⟩ := hsecured.world
      rw [hworld] at hobject
      cases hleft.symm.trans hobject
    have hend := (pieces_inTime cloud).runNormal dnsRequeue a hintime
    exact hawaits.eq_of_cancelled (hsteps.knowsName hstart) hend hobject hname hcancelled

end Attempt

namespace World

variable {dnsRequeue : Nat} {key : ObjectKey} {cancelled : Bool} {mode : Mode} {world : World σ}
  {scope : Scope}

/-! ### Invocations -/

theorem Enters.exists_entry (h : world.Enters key mode) (hcalm : world.faults = []) :
    ∃ scope, world.store.entry key = .ok (some (mode, scope)) := by
  obtain ⟨scope, entered, henter⟩ := h
  rw [(world.reads_enter key).eq_of_calm hcalm] at henter
  exact ⟨scope, congrArg Prod.fst henter⟩

/-- What an invocation makes of its pass: it starts from the stored object, an error of the pass is
its own, and apart from the close the pass is all that it does. -/
structure Passes (cloud : Cloud σ) (dnsRequeue : Nat) (key : ObjectKey) (cancelled : Bool)
    (world : World σ) (a : Attempt σ) (out : Except ControllerError Outcome × Attempt σ) : Prop where
  fresh : a.Fresh
  key_eq : a.scope.object.key = key
  error : ∀ {e}, out.1 = .error e → (world.reconcile cloud dnsRequeue key cancelled).1 = .error e
  closed : (world.reconcile cloud dnsRequeue key cancelled).2 = out.2.close.2.world

theorem Passes.journal_eq {a : Attempt σ} {out : Except ControllerError Outcome × Attempt σ}
    (h : world.Passes cloud dnsRequeue key cancelled a out) :
    (world.reconcile cloud dnsRequeue key cancelled).2.journal = out.2.world.journal := by
  rw [h.closed, Attempt.journal_close]

theorem Passes.cloud_eq {a : Attempt σ} {out : Except ControllerError Outcome × Attempt σ}
    (h : world.Passes cloud dnsRequeue key cancelled a out) :
    (world.reconcile cloud dnsRequeue key cancelled).2.cloud = out.2.world.cloud := by
  obtain ⟨store, faults, clock, hclose⟩ := out.2.world_close
  rw [h.closed, hclose]

/-- Without faults, an invocation makes the pass that the stored object calls for. -/
theorem passes_of_entry (hkeyed : world.store.Keyed) (hcalm : world.faults = [])
    (hentry : world.store.entry key = .ok (some (mode, scope))) (cloud : Cloud σ) (dnsRequeue : Nat)
    (cancelled : Bool) : world.Passes cloud dnsRequeue key cancelled { world, scope, cancelled }
      (Attempt.pass cloud dnsRequeue (mode = .deleting) { world, scope, cancelled }) := by
  have hadmits := admits_of_entry hentry
  have hreconcile := reconcile_of_entry hcalm cloud dnsRequeue cancelled hentry
  have hfinish : ∀ out : Except ControllerError Outcome × Attempt σ,
      (∀ {e}, out.1 = .error e → (Attempt.finish out).1 = .error e) ∧
      (Attempt.finish out).2.world = out.2.close.2.world := by
    rintro ⟨result, b⟩
    refine ⟨?_, by rw [Attempt.finish_snd]⟩
    rintro e rfl
    exact Attempt.finish_error e b
  refine ⟨hadmits.fresh hkeyed world.faults cancelled, hadmits.key_eq hkeyed, fun he => ?_, ?_⟩
  · rw [hreconcile]
    exact (hfinish _).1 he
  · rw [hreconcile]
    exact (hfinish _).2

/-- A normal pass in which nothing failed ends with the step that it had come to when it was
cancelled. -/
theorem cancelled_reconcile (hkeyed : world.store.Keyed) (hcalm : world.faults = [])
    (hentry : world.store.entry key = .ok (some (.active, scope))) {events : List Event}
    (hevents : (world.reconcile cloud dnsRequeue key cancelled).2.journal = world.journal ++ events)
    (hfailures : Event.failures events = []) :
    (∀ step rest, Event.unfinished events .reconcile Subsystem.creationOrder = step :: rest →
      (world.reconcile cloud dnsRequeue key cancelled).1 = .error (.cancelled step)) ∧
    (∀ object host, Event.unfinished events .reconcile Subsystem.creationOrder = [] →
      (world.noted cloud dnsRequeue key cancelled).left = some object →
      object.dnsName? = some host → (world.noted cloud dnsRequeue key cancelled).cancelled = true →
      (world.reconcile cloud dnsRequeue key cancelled).1 = .error (.cancelled .loadBalancer)) := by
  refine ⟨fun step rest hunfinished => ?_, fun object host hfinished hleft hname hcancelled => ?_⟩
  · have hpasses := passes_of_entry hkeyed hcalm hentry cloud dnsRequeue cancelled
    rw [hpasses.journal_eq] at hevents
    rcases hpasses.fresh.runNormal_of_unfailed hcalm hevents hfailures with
      ⟨other, others, heq, hresult⟩ | ⟨hnone, -⟩
    · cases heq.symm.trans hunfinished
      exact hpasses.error hresult
    · cases hnone.symm.trans hunfinished
  · have hmonitored := reconcile_monitored cloud dnsRequeue key cancelled world
    have hmonitoredKeyed : (world.monitored cancelled).store.Keyed := hkeyed
    have hpasses := passes_of_entry hmonitoredKeyed hcalm hentry cloud.monitored dnsRequeue cancelled
    have hjournal := hpasses.journal_eq
    rw [noted, hpasses.cloud_eq] at hleft hcancelled
    rw [hmonitored] at hjournal
    have hresult := hpasses.fresh.runNormal_of_named hcalm ⟨rfl, rfl⟩ rfl
      (hjournal.symm.trans hevents) hfailures hfinished hleft hname hcancelled
    have hfailed := hpasses.error hresult
    rw [hmonitored] at hfailed
    exact hfailed

/-- A delete pass that is cancelled fails and counts what it left unfinished. As long as nobody
else touches the stored object, the conditions say so, and the finalizer stays. -/
theorem cancelled_reconcile_deleting (hkeyed : world.store.Keyed) (hcalm : world.faults = [])
    (hentry : world.store.entry key = .ok (some (.deleting, scope))) {events : List Event}
    (hevents : (world.reconcile cloud dnsRequeue key cancelled).2.journal = world.journal ++ events)
    (hunfinished : Event.unfinished events .delete Subsystem.deletionOrder ≠ []) :
    (∃ first, (world.reconcile cloud dnsRequeue key cancelled).1
      = .error (.deleteIncomplete ((Event.failures events).length
        + (Event.unfinished events .delete Subsystem.deletionOrder).length) first)) ∧
    ∀ fit : σ → Prop, cloud.SparesKey fit key → fit world.cloud →
      (∀ stored, (world.reconcile cloud dnsRequeue key cancelled).2.store.awsClusters.get? key
          = some stored →
        ∀ subsystem ∈ Event.unfinished events .delete Subsystem.deletionOrder,
          subsystem ≠ .network → ∃ type, subsystem.condition? = some type ∧
            stored.verdict? type = some (.fails Reason.deletionFailed .warning "cancelled")) ∧
      (cloud.Keeps (·.hasFinalizer clusterFinalizer) → world.store.Holds key →
        (world.reconcile cloud dnsRequeue key cancelled).2.store.Holds key) := by
  have hpasses := passes_of_entry hkeyed hcalm hentry cloud dnsRequeue cancelled
  rw [hpasses.journal_eq] at hevents
  obtain ⟨first, steps, b, hpass, hsteps, hcalls, hcancelled⟩ :=
    Attempt.runDelete_of_unfinished hevents hunfinished
  have hout : Attempt.pass cloud dnsRequeue true { world, scope, cancelled } = _ := hpass
  refine ⟨⟨first, hpasses.error (congrArg Prod.fst hout)⟩, fun fit hspares hfit => ?_⟩
  have hstays := hsteps.stays hspares hfit
  have hclosed := hpasses.closed
  simp only [decide_true, hout] at hclosed
  rw [hclosed]
  refine ⟨fun stored hstored subsystem hmem hne => ?_, fun hkeeps hheld => ?_⟩
  · have hnodup : (steps.map (·.1.subsystem)).Nodup := by
      rw [ServiceCall.subsystems_eq hcalls]
      decide
    have hverdict : ∀ {type}, subsystem.condition? = some type → type ≠ ConditionType.ready →
        stored.verdict? type = some (.fails Reason.deletionFailed .warning "cancelled") := by
      intro type htype hready
      rw [hstays.verdict? hpasses.fresh hpasses.key_eq hcalm hstored hready]
      exact hsteps.verdict?_cancelled hnodup (hcancelled subsystem hmem) htype
    cases subsystem with
    | network => exact absurd rfl hne
    | securityGroups => exact ⟨_, rfl, hverdict rfl (by decide)⟩
    | bastion => exact ⟨_, rfl, hverdict rfl (by decide)⟩
    | loadBalancer => exact ⟨_, rfl, hverdict rfl (by decide)⟩
  · exact hstays.holds hpasses.fresh (hsteps.metadata hkeeps) hheld

/-- Whatever services and resolver do, and wherever the invocation is cancelled, it starts no call
and no look-up after that. What it left unfinished makes it fail: a normal pass with the step that
it had come to, or with the load balancer where its DNS name was due; a delete pass with the number
of its failures, each unfinished deletion among them. The conditions tell which ones these are, and
the finalizer stays stored, as long as nobody else touches them. A monitor does not disturb any of
this. -/
theorem cancellation_stops_work (cloud : Cloud σ) (dnsRequeue : Nat) (cancelled : Bool)
    (hkeyed : world.store.Keyed) (hcalm : world.faults = []) (henters : world.Enters key mode) :
    let out := world.reconcile cloud dnsRequeue key cancelled
    let noted := world.noted cloud dnsRequeue key cancelled
    (world.monitored cancelled).reconcile cloud.monitored dnsRequeue key cancelled
        = (out.1, out.2.mapCloud fun _ => noted) ∧
      noted.late = 0 ∧
      ∃ events, out.2.journal = world.journal ++ events ∧
        (mode = .active → Event.failures events = [] →
          (∀ step rest, Event.unfinished events .reconcile Subsystem.creationOrder = step :: rest →
            out.1 = .error (.cancelled step)) ∧
          (∀ object host, Event.unfinished events .reconcile Subsystem.creationOrder = [] →
            noted.left = some object → object.dnsName? = some host → noted.cancelled = true →
            out.1 = .error (.cancelled .loadBalancer))) ∧
        (mode = .deleting → Event.unfinished events .delete Subsystem.deletionOrder ≠ [] →
          (∃ first, out.1 = .error (.deleteIncomplete ((Event.failures events).length
            + (Event.unfinished events .delete Subsystem.deletionOrder).length) first)) ∧
          ∀ fit : σ → Prop, cloud.SparesKey fit key → fit world.cloud →
            (∀ stored, out.2.store.awsClusters.get? key = some stored →
              ∀ subsystem ∈ Event.unfinished events .delete Subsystem.deletionOrder,
                subsystem ≠ .network → ∃ type, subsystem.condition? = some type ∧
                  stored.verdict? type
                    = some (.fails Reason.deletionFailed .warning "cancelled")) ∧
            (cloud.Keeps (·.hasFinalizer clusterFinalizer) → world.store.Holds key →
              out.2.store.Holds key)) := by
  obtain ⟨scope, hentry⟩ := henters.exists_entry hcalm
  have hpasses := passes_of_entry hkeyed hcalm hentry cloud dnsRequeue cancelled
  obtain ⟨steps, hworked⟩ := (hpasses.fresh.exits cloud dnsRequeue (mode = .deleting)).worked
  obtain ⟨events, looked, htold, -⟩ := hworked.told
  have hevents := hpasses.journal_eq.trans htold
  refine ⟨reconcile_monitored .., late_noted .., events ++ looked, hevents, ?_, ?_⟩
  · rintro rfl hfailures
    exact cancelled_reconcile hkeyed hcalm hentry hevents hfailures
  · rintro rfl hunfinished
    exact cancelled_reconcile_deleting hkeyed hcalm hentry hevents hunfinished

end World

/-! ### Some cancellations -/

namespace Sample

/-- A world in which an object is stored, with services of which one call fails and another one
hangs. -/
def disturbed (object : AwsCluster) (failing hanging : ServiceCall) : World Script where
  store := (holding object).store
  clock := { reading := fun _ => newYear }
  cloud := { failures := Table.empty.insert failing "quota", hanging := [hanging] }

theorem keyed_holding (object : AwsCluster) : (holding object).store.Keyed :=
  (reachable_holding object).keyed Cloud.quiet_obliging

/-- The deletion of the bastion fails, and the one of the load balancer hangs. -/
def leaving : World Script :=
  disturbed (deleted (some [clusterFinalizer])) ⟨.delete, .bastion⟩ ⟨.delete, .loadBalancer⟩

/-- The creation of the security groups hangs. -/
def hanging : World Script :=
  disturbed (object none) ⟨.reconcile, .loadBalancer⟩ ⟨.reconcile, .securityGroups⟩

end Sample

namespace World

/-- A deletion that is cancelled at its second step, a creation that is cancelled at its second
step, and one that is cancelled at its look-up. -/
theorem cancellation_stops_sample_work :
    (∃ first, (Sample.leaving.reconcile scriptedCloud 15 Sample.key false).1
      = .error (.deleteIncomplete 4 first)) ∧
    (Sample.leaving.reconcile scriptedCloud 15 Sample.key false).2.store.Holds Sample.key ∧
    (∃ stored, (Sample.leaving.reconcile scriptedCloud 15 Sample.key false).2.store.awsClusters.get?
        Sample.key = some stored ∧
      stored.verdict? ConditionType.securityGroupsReady
        = some (.fails Reason.deletionFailed .warning "cancelled")) ∧
    (Sample.hanging.reconcile scriptedCloud 15 Sample.key false).1
      = .error (.cancelled .securityGroups) ∧
    ((Sample.holding (Sample.named [])).reconcile Cloud.unanswering 15 Sample.key false).1
      = .error (.cancelled .loadBalancer) := by
  have hleaving : (Sample.leaving.enter Sample.key).1 = .ok (some (.deleting,
      ⟨Sample.owner, Sample.deleted (some [clusterFinalizer]),
        Sample.deleted (some [clusterFinalizer])⟩)) := by decide +kernel
  have hhanging : (Sample.hanging.enter Sample.key).1 = .ok (some (.active,
      ⟨Sample.owner, Sample.object none, Sample.object none⟩)) := by decide +kernel
  have hnamed : ((Sample.holding (Sample.named [])).enter Sample.key).1 = .ok (some (.active,
      ⟨Sample.owner, Sample.named [], Sample.named []⟩)) := by decide +kernel
  -- The deletion: one call has failed, one was interrupted, and two were not started.
  obtain ⟨-, -, left, hleft, -, hdeleting⟩ := cancellation_stops_work scriptedCloud 15 false
    (Sample.keyed_holding (Sample.deleted (some [clusterFinalizer]))) rfl (enters_of_fst hleaving)
  have hstart : Sample.leaving.journal = [] := rfl
  rw [hstart, List.nil_append] at hleft
  subst hleft
  have hunfinished : Event.unfinished (Sample.leaving.reconcile scriptedCloud 15 Sample.key
      false).2.journal .delete Subsystem.deletionOrder
        = [.loadBalancer, .securityGroups, .network] := by decide +kernel
  have hfailures : Event.failures (Sample.leaving.reconcile scriptedCloud 15 Sample.key
      false).2.journal = [⟨.delete, .bastion⟩] := by decide +kernel
  rw [hunfinished, hfailures] at hdeleting
  obtain ⟨hincomplete, hspared⟩ := hdeleting rfl (by decide)
  obtain ⟨hverdicts, hholds⟩ := hspared _ (Script.sparesKey Sample.key) rfl
  have hheld := hholds (Script.keeps_scriptedCloud _) (by decide +kernel)
  have hverdict : ∃ stored, (Sample.leaving.reconcile scriptedCloud 15 Sample.key
      false).2.store.awsClusters.get? Sample.key = some stored ∧
      stored.verdict? ConditionType.securityGroupsReady
        = some (.fails Reason.deletionFailed .warning "cancelled") := by
    obtain ⟨stored, hstored, -⟩ := hheld
    obtain ⟨type, htype, hverdict⟩ :=
      hverdicts stored hstored .securityGroups (by decide) (by decide)
    cases htype
    exact ⟨stored, hstored, hverdict⟩
  -- The creations: nothing has failed.
  obtain ⟨-, -, hung, hhung, hcreating, -⟩ := cancellation_stops_work scriptedCloud 15 false
    (Sample.keyed_holding (Sample.object none)) rfl (enters_of_fst hhanging)
  have hstart : Sample.hanging.journal = [] := rfl
  rw [hstart, List.nil_append] at hhung
  subst hhung
  have hstep := (hcreating rfl (by decide +kernel)).1 .securityGroups [.bastion, .loadBalancer]
    (by decide +kernel)
  obtain ⟨-, -, asked, hasked, hasking, -⟩ := cancellation_stops_work Cloud.unanswering 15 false
    (Sample.keyed_holding (Sample.named [])) rfl (enters_of_fst hnamed)
  have hstart : (Sample.holding (Sample.named [])).journal = [] := rfl
  rw [hstart, List.nil_append] at hasked
  subst hasked
  have hname : ((Sample.holding (Sample.named [])).noted Cloud.unanswering 15 Sample.key
      false).left.bind (·.dnsName?) = some "lb.example.com" := by decide +kernel
  obtain ⟨object, hobject, hhost⟩ := Option.bind_eq_some_iff.1 hname
  have hprobe := (hasking rfl (by decide +kernel)).2 object _ (by decide +kernel) hobject hhost
    (by decide +kernel)
  exact ⟨hincomplete, hheld, hverdict, hstep, hprobe⟩

end World

end ClusterInfra
