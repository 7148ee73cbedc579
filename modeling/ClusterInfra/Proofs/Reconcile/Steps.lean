import ClusterInfra.Proofs.Reconcile.Marks
import ClusterInfra.Proofs.Reconcile.Progress
import Mathlib.Data.Prod.Basic
/-!
The calls of a pass, one after the other.

Both passes treat a call alike: it is made unless the invocation has been cancelled, a failure is
counted, and the result is recorded in the condition of the subsystem. What the record says is a
function of the result, and later calls leave it alone, as long as services do not write conditions.
-/

namespace ClusterInfra

variable {σ ν : Type} {cloud : Cloud σ}

/-! ### Services that leave something alone -/

/-- A call leaves alone what a view shows of the object that it is given. -/
def Cloud.Spares (cloud : Cloud σ) (view : AwsCluster → ν) (call : ServiceCall) : Prop :=
  ∀ context object state, view (cloud.call call context object state).1.object = view object

/-- No call writes conditions or decides whether a bastion is wanted. -/
structure Cloud.Impartial (cloud : Cloud σ) : Prop where
  conditions : ∀ call, cloud.Spares (·.conditions) call
  bastion : ∀ call, cloud.Spares (·.spec.bastion.enabled) call

/-- An object apart from what services are there to write: the network in the spec, and the network
and the bastion in the status. -/
def AwsCluster.reserved (object : AwsCluster) : Metadata × AwsClusterSpec × AwsClusterStatus :=
  (object.metadata, { object.spec with network := {} },
    { object.statusOrDefault with network := {}, bastion := none })

/-- No call writes anything else. -/
def Cloud.Confined (cloud : Cloud σ) : Prop := ∀ call, cloud.Spares AwsCluster.reserved call

theorem AwsCluster.conditions_eq (object : AwsCluster) :
    object.conditions = object.statusOrDefault.conditions := by
  cases h : object.status <;> simp [conditions, statusOrDefault, h]

theorem Cloud.Confined.impartial (h : cloud.Confined) : cloud.Impartial where
  conditions call context object state := by
    have hconditions := congrArg (·.2.2.conditions) (h call context object state)
    simp only [AwsCluster.conditions_eq]
    exact hconditions
  bastion call context object state := congrArg (·.2.1.bastion.enabled) (h call context object state)

theorem Cloud.Confined.keeps (h : cloud.Confined) (view : Metadata → ν) : cloud.Keeps view :=
  fun call context object state => congrArg (view ·.1) (h call context object state)

/-- An object apart from its metadata and its conditions. -/
def AwsCluster.core (object : AwsCluster) : AwsClusterSpec × AwsClusterStatus :=
  (object.spec, { object.statusOrDefault with conditions := [] })

/-- A view that shows neither metadata nor conditions. -/
def AwsCluster.Blind (view : AwsCluster → ν) : Prop :=
  ∀ ⦃a b : AwsCluster⦄, b.core = a.core → view b = view a

theorem AwsCluster.core_congr {a b : AwsCluster} (hspec : b.spec = a.spec)
    (hstatus : b.status = a.status) : b.core = a.core := by
  simp only [core, statusOrDefault, hspec, hstatus]

theorem AwsCluster.blind_bastion : Blind (·.spec.bastion.enabled) := fun _ _ h =>
  congrArg (·.1.bastion.enabled) h

theorem AwsCluster.blind_dnsName : Blind (·.dnsName?) := fun a b h => by
  have hnetwork : b.statusOrDefault.network = a.statusOrDefault.network :=
    congrArg (·.2.network) h
  simp only [dnsName?_eq, hnetwork]

theorem Mark.core_apply {mark : Mark} {type : String} (h : mark.place = .condition type)
    (now : Instant) (object : AwsCluster) : (mark.apply now object).core = object.core := by
  obtain ⟨hspec, hstatus⟩ := Mark.apply_of_condition h now object
  rw [AwsCluster.core, AwsCluster.core, hspec, hstatus]

/-- What is left in conditions leaves the core alone. -/
theorem Marked.core {marks : List Mark} {a b : AwsCluster} (h : Marked marks a b)
    (hplace : ∀ mark ∈ marks, ∃ type, mark.place = .condition type) : b.core = a.core := by
  induction h with
  | nil object => rfl
  | cons mark now _ ih =>
    rw [List.forall_mem_cons] at hplace
    obtain ⟨type, htype⟩ := hplace.1
    rw [ih hplace.2, Mark.core_apply htype]

/-! ### What a result is recorded as -/

/-- Every condition reports on one subsystem. -/
theorem Subsystem.eq_of_condition? {subsystem other : Subsystem} {type : String}
    (h : subsystem.condition? = some type) (hother : other.condition? = some type) :
    other = subsystem := by
  rw [← hother] at h
  revert h
  cases subsystem <;> cases other <;> decide

namespace ServiceCall

/-- The reason that a condition gives when a call failed. -/
def failureReason (call : ServiceCall) : String :=
  match call.action with
  | .reconcile => call.subsystem.failureReason
  | .delete => Reason.deletionFailed

/-- The marks that the result of a call leaves. -/
def marks (bastionEnabled : Bool) (call : ServiceCall) : Except StepError Unit → List Mark
  | .ok () =>
    match call.action with
    | .reconcile => call.subsystem.readyMarks bastionEnabled
    | .delete => call.subsystem.reportMarks Reason.deleted .info ""
  | .error e => call.subsystem.reportMarks call.failureReason .warning e.message

/-- The verdict on a subsystem that the result of a call calls for. -/
def verdict (bastionEnabled : Bool) (call : ServiceCall) :
    Except StepError Unit → Option Verdict
  | .error e => some (.fails call.failureReason .warning e.message)
  | .ok () =>
    match call.action, call.subsystem with
    | .delete, _ => some (.fails Reason.deleted .info "")
    | .reconcile, .bastion => if bastionEnabled then some .holds else none
    | .reconcile, _ => some .holds

/-- The error of the invocation that the result of a call calls for. -/
def failure? (call : ServiceCall) : Except StepError Unit → Option ControllerError
  | .ok () => none
  | .error e => some (e.toControllerError call)

/-- The call of a step that has brought a result. -/
def finished? : ServiceCall × Except StepError Unit → Option ServiceCall
  | (_, .error .cancelled) => none
  | (call, _) => some call

/-- The call of a step that has failed of itself. -/
def failed? : ServiceCall × Except StepError Unit → Option ServiceCall
  | (call, .error (.failed _)) => some call
  | _ => none

/-- The load balancer was reconciled. What its condition says has to wait for the DNS name. -/
def deferred : ServiceCall × Except StepError Unit := (⟨.reconcile, .loadBalancer⟩, .ok ())

section Due

variable {action : Action} {steps : List (ServiceCall × Except StepError Unit)}
  {subsystems : List Subsystem}

/-- If a call for an action was due for each of some subsystems, they are the ones of the calls. -/
theorem subsystems_eq (h : steps.map (·.1) = subsystems.map (⟨action, ·⟩)) :
    steps.map (·.1.subsystem) = subsystems := by
  have hmap := congrArg (List.map (·.subsystem)) h
  rw [List.map_map, List.map_map] at hmap
  exact hmap.trans (List.map_id subsystems)

theorem eq_of_mem (h : steps.map (·.1) = subsystems.map (⟨action, ·⟩))
    {step : ServiceCall × Except StepError Unit} (hstep : step ∈ steps) :
    ⟨action, step.1.subsystem⟩ = step.1 := by
  have hmem : step.1 ∈ steps.map (·.1) := List.mem_map_of_mem hstep
  rw [h, List.mem_map] at hmem
  obtain ⟨subsystem, -, heq⟩ := hmem
  rw [← heq]

end Due

variable {call : ServiceCall} {bastionEnabled : Bool} {result : Except StepError Unit}

/-- A report of a subsystem is left in its condition. -/
theorem eq_of_mem_reportMarks {subsystem : Subsystem} {reason message : String}
    {severity : Severity} {mark : Mark}
    (h : mark ∈ subsystem.reportMarks reason severity message) :
    ∃ type, subsystem.condition? = some type ∧
      mark = .set (.fails type reason severity message) := by
  rw [Subsystem.reportMarks, List.mem_map] at h
  obtain ⟨type, htype, rfl⟩ := h
  exact ⟨type, Option.mem_toList.1 htype, rfl⟩

/-- The marks of a call are left in the condition of its subsystem. -/
theorem place_of_mem_marks {mark : Mark} (h : mark ∈ call.marks bastionEnabled result) :
    ∃ type, call.subsystem.condition? = some type ∧ mark.place = .condition type := by
  rcases call with ⟨_ | _, subsystem⟩
  · rcases result with e | _
    · obtain ⟨type, htype, rfl⟩ := eq_of_mem_reportMarks h
      exact ⟨type, htype, rfl⟩
    · cases subsystem with
      | network => cases h
      | loadBalancer => cases h
      | securityGroups => cases List.mem_singleton.1 h; exact ⟨_, rfl, rfl⟩
      | bastion =>
        cases bastionEnabled with
        | true => cases List.mem_singleton.1 h; exact ⟨_, rfl, rfl⟩
        | false => cases List.mem_singleton.1 h; exact ⟨_, rfl, rfl⟩
  · rcases result with e | _
    all_goals
      obtain ⟨type, htype, rfl⟩ := eq_of_mem_reportMarks h
      exact ⟨type, htype, rfl⟩

theorem verdict?_of_reportMarks {subsystem : Subsystem} {type reason message : String}
    {severity : Severity} {a b : AwsCluster} (htype : subsystem.condition? = some type)
    (h : Marked (subsystem.reportMarks reason severity message) a b) :
    b.verdict? type = some (.fails reason severity message) := by
  rw [Subsystem.reportMarks, htype, Option.toList_some, List.map_singleton] at h
  cases h with
  | cons mark now h =>
    cases h
    exact Mark.verdict?_set_apply (.fails type reason severity message) now a

/-- The marks of a call leave the verdict on its subsystem that its result calls for. -/
theorem verdict?_of_marks {type : String} {a b : AwsCluster}
    (htype : call.subsystem.condition? = some type) (hnow : (call, result) ≠ deferred)
    (h : Marked (call.marks bastionEnabled result) a b) :
    b.verdict? type = call.verdict bastionEnabled result := by
  rcases call with ⟨_ | _, subsystem⟩
  · rcases result with e | _
    · exact verdict?_of_reportMarks htype h
    · cases subsystem with
      | network => cases htype
      | loadBalancer => exact absurd rfl hnow
      | securityGroups =>
        cases htype
        rcases h with _ | ⟨mark, now, h⟩
        cases h
        exact Mark.verdict?_set_apply (.holds _) now a
      | bastion =>
        cases htype
        cases bastionEnabled with
        | true =>
          rcases h with _ | ⟨mark, now, h⟩
          cases h
          exact Mark.verdict?_set_apply (.holds _) now a
        | false =>
          rcases h with _ | ⟨mark, now, h⟩
          cases h
          exact Mark.verdict?_unset_apply _ now a
  · rcases result with e | _
    all_goals exact verdict?_of_reportMarks htype h

end ServiceCall

/-- Records the result of a call. -/
def Scope.record (scope : Scope) (call : ServiceCall) (now : Instant) :
    Except StepError Unit → Scope
  | .ok () =>
    match call.action with
    | .reconcile => scope.reconciled call.subsystem now
    | .delete => scope.report call.subsystem Reason.deleted .info "" now
  | .error e => scope.report call.subsystem call.failureReason .warning e.message now

theorem Scope.marked_record (scope : Scope) (call : ServiceCall) (now : Instant)
    (result : Except StepError Unit) :
    Marked (call.marks scope.object.spec.bastion.enabled result) scope.object
      (scope.record call now result).object := by
  rcases call with ⟨_ | _, subsystem⟩
  · rcases result with e | _
    · exact scope.marked_report ..
    · exact scope.marked_reconciled subsystem now
  · rcases result with e | _
    all_goals exact scope.marked_report ..

theorem Scope.stages_record (scope : Scope) (call : ServiceCall) (now : Instant)
    (result : Except StepError Unit) : scope.Stages (scope.record call now result) := by
  rcases call with ⟨_ | _, subsystem⟩
  · rcases result with e | _
    · exact scope.stages_report ..
    · exact scope.stages_reconciled subsystem now
  · rcases result with e | _
    all_goals exact scope.stages_report ..

/-! ### What the journal tells -/

theorem Ending.result_injective : Function.Injective Ending.result := by
  rintro (_ | _ | _) (_ | _ | _) h <;> cases h <;> rfl

namespace Event

theorem calls_append (events events' : List Event) :
    calls (events ++ events') = calls events ++ calls events' := List.filterMap_append

theorem returns_append (events events' : List Event) :
    returns (events ++ events') = returns events ++ returns events' := List.filterMap_append

theorem hosts_append (events events' : List Event) :
    hosts (events ++ events') = hosts events ++ hosts events' := List.filterMap_append

theorem contexts_append (events events' : List Event) :
    contexts (events ++ events') = contexts events ++ contexts events' := List.filterMap_append

/-- The calls that have brought a result. -/
def finished (events : List Event) : List ServiceCall :=
  (returns events).filterMap fun
    | (_, .interrupted) => none
    | (call, _) => some call

/-- The calls that have failed of themselves. -/
def failures (events : List Event) : List ServiceCall :=
  (returns events).filterMap fun
    | (call, .failed _) => some call
    | _ => none

theorem finished_append (events events' : List Event) :
    finished (events ++ events') = finished events ++ finished events' := by
  rw [finished, returns_append, List.filterMap_append, finished, finished]

theorem failures_append (events events' : List Event) :
    failures (events ++ events') = failures events ++ failures events' := by
  rw [failures, returns_append, List.filterMap_append, failures, failures]

/-- Events of calls with some results: each call that was started has ended with its result, and if
all of them succeeded, each of them was started. -/
structure Tells (events : List Event) (steps : List (ServiceCall × Except StepError Unit)) :
    Prop where
  calls : Event.calls events = (returns events).map (·.1)
  hosts : Event.hosts events = []
  returned : ∀ call ending, (call, ending) ∈ returns events → (call, ending.result) ∈ steps
  done : (∀ step ∈ steps, step.2 = .ok ()) →
    returns events = steps.map fun step => (step.1, .done)
  finished : Event.finished events = steps.filterMap ServiceCall.finished?
  failures : Event.failures events = steps.filterMap ServiceCall.failed?

variable {events events' : List Event} {steps steps' : List (ServiceCall × Except StepError Unit)}

/-- A call that did not end well has a result that says so. -/
theorem Tells.exists_error (h : Tells events steps) {call : ServiceCall} {ending : Ending}
    (hreturned : (call, ending) ∈ returns events) (hne : ending ≠ .done) :
    ∃ e, (call, .error e) ∈ steps := by
  have hresult := h.returned call ending hreturned
  cases ending with
  | done => exact absurd rfl hne
  | failed error => exact ⟨_, hresult⟩
  | interrupted => exact ⟨_, hresult⟩

theorem tells_nil : Tells [] [] := ⟨rfl, rfl, fun _ _ h => (nomatch h), fun _ => rfl, rfl, rfl⟩

theorem Tells.append (h : Tells events steps) (h' : Tells events' steps') :
    Tells (events ++ events') (steps ++ steps') where
  calls := by rw [calls_append, returns_append, List.map_append, h.calls, h'.calls]
  hosts := by rw [hosts_append, h.hosts, h'.hosts, List.append_nil]
  returned := by
    intro call ending hmem
    rw [returns_append, List.mem_append] at hmem
    rw [List.mem_append]
    exact hmem.imp (h.returned call ending) (h'.returned call ending)
  done := by
    intro hok
    rw [List.forall_mem_append] at hok
    rw [returns_append, List.map_append, h.done hok.1, h'.done hok.2]
  finished := by rw [finished_append, List.filterMap_append, h.finished, h'.finished]
  failures := by rw [failures_append, List.filterMap_append, h.failures, h'.failures]

/-- A call that was not started. -/
theorem tells_refused (context : ServiceContext) (call : ServiceCall) :
    Tells [.built context] [(call, .error .cancelled)] where
  calls := rfl
  hosts := rfl
  returned _ _ h := nomatch h
  done h := nomatch h _ (List.mem_singleton_self _)
  finished := rfl
  failures := rfl

/-- A call that was started and has ended. -/
theorem tells_made (context : ServiceContext) (call : ServiceCall) (held : Option AwsCluster)
    (ending : Ending) : Tells [.built context, .called call held, .returned call ending]
      [(call, ending.result)] where
  calls := rfl
  hosts := rfl
  returned := by
    intro other ending' hmem
    cases List.mem_singleton.1 hmem
    exact List.mem_singleton_self _
  done := by
    intro hok
    have hresult := hok _ (List.mem_singleton_self _)
    cases ending with
    | done => rfl
    | failed error => cases hresult
    | interrupted => cases hresult
  finished := by cases ending <;> rfl
  failures := by cases ending <;> rfl

end Event

/-! ### Calls that were carried out -/

namespace Attempt

variable {view : AwsCluster → ν} {context : ServiceContext} {call : ServiceCall}
  {steps steps' : List (ServiceCall × Except StepError Unit)} {a b c : Attempt σ}

/-- Makes a call, counts its failure, and records its result. -/
def carryOut (cloud : Cloud σ) (context : ServiceContext) (call : ServiceCall) (a : Attempt σ) :
    Except StepError Unit × Attempt σ :=
  match a.call cloud context call with
  | (.ok (), b) => (.ok (), b.update fun now scope => scope.record call now (.ok ()))
  | (.error e, b) =>
    (.error e, (b.countFailure call).update fun now scope => scope.record call now (.error e))

theorem reconcileSubsystem_eq (cloud : Cloud σ) (context : ServiceContext) (subsystem : Subsystem)
    (a : Attempt σ) : a.reconcileSubsystem cloud context subsystem
      = ((a.carryOut cloud context ⟨.reconcile, subsystem⟩).1.mapError
          (·.toControllerError ⟨.reconcile, subsystem⟩),
        (a.carryOut cloud context ⟨.reconcile, subsystem⟩).2) := by
  rcases hcall : a.call cloud context ⟨.reconcile, subsystem⟩ with ⟨e | _, b⟩ <;>
    simp only [reconcileSubsystem, carryOut, hcall] <;> rfl

theorem deleteSubsystem_eq (cloud : Cloud σ) (context : ServiceContext) (subsystem : Subsystem)
    (a : Attempt σ) : a.deleteSubsystem cloud context subsystem
      = (ServiceCall.failure? ⟨.delete, subsystem⟩
          (a.carryOut cloud context ⟨.delete, subsystem⟩).1,
        (a.carryOut cloud context ⟨.delete, subsystem⟩).2) := by
  rcases hcall : a.call cloud context ⟨.delete, subsystem⟩ with ⟨e | _, b⟩ <;>
    simp only [deleteSubsystem, carryOut, hcall] <;> rfl

/-- What a call leaves alone is on its object afterwards, whether it was started or not. -/
theorem view_call (h : cloud.Spares view call) (context : ServiceContext) (a : Attempt σ) :
    view (a.call cloud context call).2.scope.object = view a.scope.object := by
  rw [call_eq]
  split
  · rfl
  · exact h context a.scope.object a.world.cloud

/-- After a call nothing is done but to count its failure and to record its result, so nothing
changes but the metrics, the clock and the scope. -/
theorem exists_carryOut_eq (cloud : Cloud σ) (context : ServiceContext) (call : ServiceCall)
    (a : Attempt σ) : ∃ metrics clock now, a.carryOut cloud context call
      = ((a.call cloud context call).1, { (a.call cloud context call).2 with
        world := { (a.call cloud context call).2.world with metrics, clock }
        scope := (a.call cloud context call).2.scope.record call now
          (a.call cloud context call).1 }) := by
  rcases hcall : a.call cloud context call with ⟨e | _, b⟩ <;> simp only [carryOut, hcall]
  · exact ⟨_, _, _, rfl⟩
  · exact ⟨_, _, _, rfl⟩

theorem fst_carryOut (cloud : Cloud σ) (context : ServiceContext) (call : ServiceCall)
    (a : Attempt σ) : (a.carryOut cloud context call).1 = (a.call cloud context call).1 := by
  obtain ⟨metrics, clock, now, heq⟩ := a.exists_carryOut_eq cloud context call
  rw [heq]

/-- On the object that a call left, its result is marked. -/
theorem marked_carryOut (cloud : Cloud σ) (context : ServiceContext) (call : ServiceCall)
    (a : Attempt σ) :
    Marked (call.marks (a.call cloud context call).2.scope.object.spec.bastion.enabled
        (a.carryOut cloud context call).1)
      (a.call cloud context call).2.scope.object (a.carryOut cloud context call).2.scope.object := by
  obtain ⟨metrics, clock, now, heq⟩ := a.exists_carryOut_eq cloud context call
  rw [heq]
  exact (a.call cloud context call).2.scope.marked_record call now (a.call cloud context call).1

/-- Apart from conditions, the object stays as the call left it. -/
theorem core_carryOut (cloud : Cloud σ) (context : ServiceContext) (call : ServiceCall)
    (a : Attempt σ) : (a.carryOut cloud context call).2.scope.object.core
      = (a.call cloud context call).2.scope.object.core := by
  refine (a.marked_carryOut cloud context call).core fun mark hmem => ?_
  obtain ⟨type, -, hplace⟩ := ServiceCall.place_of_mem_marks hmem
  exact ⟨type, hplace⟩

theorem view_carryOut (hview : AwsCluster.Blind view) (h : cloud.Spares view call)
    (context : ServiceContext) (a : Attempt σ) :
    view (a.carryOut cloud context call).2.scope.object = view a.scope.object := by
  rw [hview (a.core_carryOut cloud context call), view_call h]

/-- The verdict on the subsystem of a call is the one that its result calls for, on the object that
the call left. -/
theorem verdict?_carryOut (cloud : Cloud σ) (context : ServiceContext) (a : Attempt σ)
    {type : String} (htype : call.subsystem.condition? = some type)
    (hnow : (call, (a.carryOut cloud context call).1) ≠ ServiceCall.deferred) :
    (a.carryOut cloud context call).2.scope.object.verdict? type
      = call.verdict (a.call cloud context call).2.scope.object.spec.bastion.enabled
        (a.carryOut cloud context call).1 :=
  ServiceCall.verdict?_of_marks htype hnow (a.marked_carryOut cloud context call)

/-- A call leaves the conditions of others alone, and its own one if that has to wait. -/
theorem recorded_carryOut {type : String} (hspares : cloud.Spares (·.recorded type) call)
    (context : ServiceContext) (a : Attempt σ) (htype : call.subsystem.condition? = some type →
      (call, (a.carryOut cloud context call).1) = ServiceCall.deferred) :
    (a.carryOut cloud context call).2.scope.object.recorded type = a.scope.object.recorded type := by
  rw [(a.marked_carryOut cloud context call).recorded, view_call hspares context a]
  intro mark hmem hplace
  obtain ⟨other, hother, heq⟩ := ServiceCall.place_of_mem_marks hmem
  cases heq.symm.trans hplace
  obtain ⟨rfl, hresult⟩ := Prod.mk.inj (htype hother)
  rw [hresult] at hmem
  cases hmem

/-- A call is refused once the invocation has been cancelled. Otherwise it is started, and it ends
with its result. -/
theorem journal_carryOut (cloud : Cloud σ) (context : ServiceContext) (call : ServiceCall)
    (a : Attempt σ) :
    (a.cancelled = true ∧ (a.carryOut cloud context call).1 = .error .cancelled ∧
      (a.carryOut cloud context call).2.world.journal
        = a.world.journal ++ [.built context]) ∨
    ∃ ending, ending.result = (a.carryOut cloud context call).1 ∧
      (a.carryOut cloud context call).2.world.journal = a.world.journal
        ++ [.built context, .called call a.held, .returned call ending] := by
  obtain ⟨metrics, clock, now, heq⟩ := a.exists_carryOut_eq cloud context call
  rw [heq, call_eq]
  split
  next hcancelled => exact .inl ⟨hcancelled, rfl, rfl⟩
  next => exact .inr ⟨_, rfl, a.journal_made cloud context call⟩

theorem tells_carryOut (cloud : Cloud σ) (context : ServiceContext) (call : ServiceCall)
    (a : Attempt σ) : ∃ events,
      (a.carryOut cloud context call).2.world.journal = a.world.journal ++ events ∧
      Event.Tells events [(call, (a.carryOut cloud context call).1)] := by
  rcases a.journal_carryOut cloud context call with
    ⟨-, hresult, hjournal⟩ | ⟨ending, hresult, hjournal⟩
  · exact ⟨_, hjournal, hresult ▸ Event.tells_refused context call⟩
  · exact ⟨_, hjournal, hresult ▸ Event.tells_made context call a.held ending⟩

/-- A call itself counts nothing. -/
theorem metrics_call (cloud : Cloud σ) (context : ServiceContext) (call : ServiceCall)
    (a : Attempt σ) : (a.call cloud context call).2.world.metrics = a.world.metrics := by
  rw [call_eq]
  split <;> rfl

/-- A call that is carried out is counted if it has not succeeded. -/
theorem metrics_carryOut (cloud : Cloud σ) (context : ServiceContext) (call : ServiceCall)
    (a : Attempt σ) :
    ((a.carryOut cloud context call).1 = .ok () ∧
      (a.carryOut cloud context call).2.world.metrics = a.world.metrics) ∨
    ∃ e, (a.carryOut cloud context call).1 = .error e ∧
      (a.carryOut cloud context call).2.world.metrics
        = a.world.metrics.recordFailure call.subsystem call.action.label := by
  have hmetrics := a.metrics_call cloud context call
  rcases hcall : a.call cloud context call with ⟨e | _, b⟩ <;> rw [hcall] at hmetrics <;>
    rw [carryOut, hcall, ← hmetrics]
  · exact .inr ⟨e, rfl, rfl⟩
  · exact .inl ⟨rfl, rfl⟩

/-- A failure is counted for the call that failed, and for no other. -/
theorem failureCount_carryOut (cloud : Cloud σ) (context : ServiceContext) (call : ServiceCall)
    (a : Attempt σ) {other : ServiceCall}
    (h : ∀ e, (other, .error e) ≠ (call, (a.carryOut cloud context call).1)) :
    (a.carryOut cloud context call).2.world.metrics.failureCount other.subsystem other.action.label
      = a.world.metrics.failureCount other.subsystem other.action.label := by
  rcases a.metrics_carryOut cloud context call with
    ⟨-, hmetrics⟩ | ⟨e, hresult, hmetrics⟩ <;> rw [hmetrics]
  have hne : other ≠ call := fun heq => h e (by rw [heq, hresult])
  exact a.world.metrics.failureCount_recordFailure_of_ne hne

/-- Calls were carried out one after the other, with these results. -/
inductive CarriedOut (cloud : Cloud σ) (context : ServiceContext) :
    List (ServiceCall × Except StepError Unit) → Attempt σ → Attempt σ → Prop
  | nil (a : Attempt σ) : CarriedOut cloud context [] a a
  | cons {a b c : Attempt σ} {call : ServiceCall} {result : Except StepError Unit}
      {rest : List (ServiceCall × Except StepError Unit)}
      (hcall : a.carryOut cloud context call = (result, b)) (h : CarriedOut cloud context rest b c) :
      CarriedOut cloud context ((call, result) :: rest) a c

namespace CarriedOut

/-- What services and conditions leave alone stays as it is. -/
theorem view_eq (h : CarriedOut cloud context steps a b) (hview : AwsCluster.Blind view)
    (hspares : ∀ step ∈ steps, cloud.Spares view step.1) :
    view b.scope.object = view a.scope.object := by
  induction h with
  | nil a => rfl
  | @cons a b c call result rest hcall _ ih =>
    rw [List.forall_mem_cons] at hspares
    have hfirst := view_carryOut hview hspares.1 context a
    rw [hcall] at hfirst
    rw [ih hspares.2, hfirst]

/-- Calls leave the conditions alone that are those of other subsystems or have to wait. -/
theorem recorded (h : CarriedOut cloud context steps a b) {type : String}
    (hspares : ∀ step ∈ steps, cloud.Spares (·.recorded type) step.1)
    (htype : ∀ step ∈ steps, step.1.subsystem.condition? = some type →
      step = ServiceCall.deferred) :
    b.scope.object.recorded type = a.scope.object.recorded type := by
  induction h with
  | nil a => rfl
  | @cons a b c call result rest hcall _ ih =>
    rw [List.forall_mem_cons] at hspares htype
    have hfirst := recorded_carryOut hspares.1 context a (by rw [hcall]; exact htype.1)
    rw [hcall] at hfirst
    rw [ih hspares.2 htype.2, hfirst]

theorem verdict?_of_ne (h : CarriedOut cloud context steps a b)
    (hspares : ∀ step ∈ steps, cloud.Spares (·.conditions) step.1) {type : String}
    (htype : ∀ step ∈ steps, step.1.subsystem.condition? = some type →
      step = ServiceCall.deferred) :
    b.scope.object.verdict? type = a.scope.object.verdict? type :=
  AwsCluster.verdict?_of_recorded (h.recorded (fun step hmem context object state =>
    congrArg (Conditions.ofType · type) (hspares step hmem context object state)) htype)

/-- With one call for each subsystem, the verdicts are those that the results call for. Whether the
bastion is wanted was so before the calls, if these leave it alone. -/
theorem exists_verdict? (h : CarriedOut cloud context steps a b)
    (hspares : ∀ step ∈ steps, cloud.Spares (·.conditions) step.1)
    (hnodup : (steps.map (·.1.subsystem)).Nodup) {call : ServiceCall}
    {result : Except StepError Unit} (hmem : (call, result) ∈ steps) {type : String}
    (htype : call.subsystem.condition? = some type) (hnow : (call, result) ≠ ServiceCall.deferred) :
    ∃ wanted, b.scope.object.verdict? type = call.verdict wanted result ∧
      ((∀ step ∈ steps, cloud.Spares (·.spec.bastion.enabled) step.1) →
        wanted = a.scope.object.spec.bastion.enabled) := by
  induction h with
  | nil a => cases hmem
  | @cons a b c first result' rest hcall hrest ih =>
    rw [List.map_cons, List.nodup_cons] at hnodup
    rw [List.forall_mem_cons] at hspares
    rcases List.mem_cons.1 hmem with heq | hmem
    · cases heq
      have hfirst := verdict?_carryOut cloud context a htype (by rw [hcall]; exact hnow)
      rw [hcall] at hfirst
      refine ⟨_, ?_, fun hbastion => view_call (hbastion _ List.mem_cons_self) context a⟩
      rw [hrest.verdict?_of_ne hspares.2, hfirst]
      -- The same condition would be the same subsystem, which occurs once.
      intro step hstep hother
      have hsame := Subsystem.eq_of_condition? htype hother
      exact absurd (hsame ▸ List.mem_map_of_mem hstep) hnodup.1
    · obtain ⟨wanted, hverdict, hwanted⟩ := ih hspares.2 hnodup.2 hmem
      refine ⟨wanted, hverdict, fun hbastion => ?_⟩
      rw [List.forall_mem_cons] at hbastion
      have hfirst := view_carryOut AwsCluster.blind_bastion hbastion.1 context a
      rw [hcall] at hfirst
      rw [hwanted hbastion.2, hfirst]

theorem verdict? (h : CarriedOut cloud context steps a b) (himpartial : cloud.Impartial)
    (hnodup : (steps.map (·.1.subsystem)).Nodup) {call : ServiceCall}
    {result : Except StepError Unit} (hmem : (call, result) ∈ steps) {type : String}
    (htype : call.subsystem.condition? = some type) (hnow : (call, result) ≠ ServiceCall.deferred) :
    b.scope.object.verdict? type = call.verdict a.scope.object.spec.bastion.enabled result := by
  obtain ⟨wanted, hverdict, hwanted⟩ := h.exists_verdict?
    (fun step _ => himpartial.conditions step.1) hnodup hmem htype hnow
  rw [hverdict, hwanted fun step _ => himpartial.bastion step.1]

theorem tells (h : CarriedOut cloud context steps a b) : ∃ events,
    b.world.journal = a.world.journal ++ events ∧ Event.Tells events steps := by
  induction h with
  | nil a => exact ⟨[], (List.append_nil _).symm, Event.tells_nil⟩
  | @cons a b c call result rest hcall _ ih =>
    obtain ⟨events, hevents, htells⟩ := a.tells_carryOut cloud context call
    obtain ⟨events', hevents', htells'⟩ := ih
    rw [hcall] at hevents htells
    refine ⟨events ++ events', ?_, htells.append htells'⟩
    rw [hevents', hevents, List.append_assoc]

/-- Calls that were not cancelled were started one after the other, and have ended with their
results. -/
theorem journal (h : CarriedOut cloud context steps a b)
    (hnone : ∀ step ∈ steps, step.2 ≠ .error .cancelled) : ∃ events,
      b.world.journal = a.world.journal ++ events ∧ Event.Tells events steps ∧
      (Event.returns events).map (Prod.map id Ending.result) = steps := by
  induction h with
  | nil a => exact ⟨[], (List.append_nil _).symm, Event.tells_nil, rfl⟩
  | @cons a b c call result rest hcall _ ih =>
    rw [List.forall_mem_cons] at hnone
    have hfirst := a.journal_carryOut cloud context call
    rw [hcall] at hfirst
    obtain ⟨ending, rfl, hfirst⟩ := hfirst.resolve_left fun hrefused => hnone.1 hrefused.2.1
    obtain ⟨events, hevents, htells, hreturns⟩ := ih hnone.2
    refine ⟨[.built context, .called call a.held, .returned call ending] ++ events, ?_,
      (Event.tells_made ..).append htells, ?_⟩
    · rw [hevents, hfirst, List.append_assoc]
    · rw [Event.returns_append, List.map_append, hreturns]
      rfl

/-- A count that has risen is the one of a call that failed. -/
theorem failureCount (h : CarriedOut cloud context steps a b) {call : ServiceCall}
    (hnone : ∀ e, (call, .error e) ∉ steps) :
    b.world.metrics.failureCount call.subsystem call.action.label
      = a.world.metrics.failureCount call.subsystem call.action.label := by
  induction h with
  | nil a => rfl
  | @cons a b c first result rest hcall _ ih =>
    have hrest := ih fun e hmem => hnone e (List.mem_cons_of_mem _ hmem)
    have hfirst := @failureCount_carryOut σ cloud context first a call
    rw [hcall] at hfirst
    rw [hrest, hfirst]
    intro e heq
    exact hnone e (heq ▸ List.mem_cons_self)

end CarriedOut

end Attempt

end ClusterInfra
