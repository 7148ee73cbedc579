import ClusterInfra.Proofs.Reconcile.Reports
import ClusterInfra.Proofs.Reconcile.Teardown
/-!
A normal pass goes step by step, and stops at the first failure.

Once the finalizer is stored the subsystems are reconciled one after the other. The first step that
fails, or that the cancellation comes before, gives the pass its error, and nothing after it is
touched. Only behind the last step is the resolver asked, and only for the name that the load
balancer left in the status.
-/

namespace ClusterInfra

variable {σ : Type} {cloud : Cloud σ}

/-- What the pass ends with once the resolver has been asked. -/
def Lookup.outcome (dnsRequeue : Nat) : Lookup → Except ControllerError Outcome
  | .answered true => .ok .noRequeue
  | .answered false => .ok (.requeueAfter dnsRequeue)
  | .interrupted => .error (.cancelled .loadBalancer)

/-- The returns of steps that have succeeded. -/
def Subsystem.reconciledReturns (subsystems : List Subsystem) : List (ServiceCall × Ending) :=
  subsystems.map fun subsystem => (⟨.reconcile, subsystem⟩, .done)

/-- Steps of which the last one fails. -/
def Subsystem.stopping (before : List Subsystem) (step : Subsystem) (e : StepError) :
    List (ServiceCall × Except StepError Unit) :=
  before.map (fun subsystem => (⟨.reconcile, subsystem⟩, .ok ()))
    ++ [(⟨.reconcile, step⟩, .error e)]

theorem Subsystem.calls_stopping (before : List Subsystem) (step : Subsystem) (e : StepError) :
    (stopping before step e).map (·.1) = (before ++ [step]).map (⟨.reconcile, ·⟩) := by
  rw [stopping, List.map_append, List.map_append, List.map_map]
  rfl

/-- The reconcile calls leave the conditions of a type alone. -/
def Cloud.SparesCondition (cloud : Cloud σ) (type : String) : Prop :=
  ∀ subsystem, cloud.Spares (·.recorded type) ⟨.reconcile, subsystem⟩

/-- The DNS name in the status of an object. -/
def AwsCluster.assignedName (object : AwsCluster) : Option String :=
  object.statusOrDefault.network.apiServerLoadBalancer.dnsName

namespace Attempt

variable {context : ServiceContext} {dnsRequeue : Nat} {a b c : Attempt σ}
  {steps rest : List (ServiceCall × Except StepError Unit)}

/-! ### The finalizer -/

/-- Ensuring the finalizer leaves the status alone. -/
theorem status_ensureFinalizer (a : Attempt σ) :
    a.ensureFinalizer.2.scope.object.status = a.scope.object.status := by
  have hadd := (spec_addFinalizer a.scope).2
  unfold ensureFinalizer
  split
  next => rfl
  next scope heq =>
    rw [heq] at hadd
    have hpersists := ({ a with scope } : Attempt σ).persists_of_persist
    generalize ({ a with scope } : Attempt σ).persist = persisted at hpersists
    rcases persisted with ⟨result, b⟩
    cases hpersists <;> exact hadd

/-! ### The steps -/

/-- Calls that were carried out in two portions. -/
theorem CarriedOut.of_append : ∀ {steps : List (ServiceCall × Except StepError Unit)}
    {a : Attempt σ},
    CarriedOut cloud context (steps ++ rest) a c →
      ∃ b, CarriedOut cloud context steps a b ∧ CarriedOut cloud context rest b c
  | [], a, h => ⟨a, .nil a, h⟩
  | _ :: _, _, .cons hcall h => by
    obtain ⟨b, hfirst, hrest⟩ := CarriedOut.of_append h
    exact ⟨b, .cons hcall hfirst, hrest⟩

theorem CarriedOut.single {call : ServiceCall} {result : Except StepError Unit}
    (h : CarriedOut cloud context [(call, result)] a b) :
    a.carryOut cloud context call = (result, b) := by
  rcases h with _ | ⟨hcall, h⟩
  cases h
  exact hcall

/-- Steps that have all succeeded were called in order. -/
theorem CarriedOut.reconciled {subsystems : List Subsystem}
    (h : CarriedOut cloud context
      (subsystems.map fun subsystem => (⟨.reconcile, subsystem⟩, .ok ())) a b) : ∃ events,
    b.world.journal = a.world.journal ++ events ∧
      Event.returns events = Subsystem.reconciledReturns subsystems ∧
      Event.calls events = (Event.returns events).map (·.1) ∧ Event.hosts events = [] := by
  obtain ⟨events, hevents, htells, -⟩ := h.journal fun step hmem heq => by
    obtain ⟨subsystem, -, rfl⟩ := List.mem_map.1 hmem
    cases heq
  refine ⟨events, hevents, ?_, htells.calls, htells.hosts⟩
  rw [htells.done fun step hmem => by obtain ⟨subsystem, -, rfl⟩ := List.mem_map.1 hmem; rfl,
    List.map_map]
  rfl

/-- How the step ends at which a pass stops: it was called and has failed, or the invocation was
cancelled before it was called or while it was running. -/
inductive Halts (cancelled : Bool) (step : Subsystem) :
    ControllerError → List (ServiceCall × Ending) → Prop
  | failed (error : ServiceError) :
      Halts cancelled step (.service step error) [(⟨.reconcile, step⟩, .failed error)]
  | interrupted (hcancelled : cancelled = true) :
      Halts cancelled step (.cancelled step) [(⟨.reconcile, step⟩, .interrupted)]
  | refused (hcancelled : cancelled = true) : Halts cancelled step (.cancelled step) []

theorem halts_carryOut {step : Subsystem} {e : StepError}
    (h : a.carryOut cloud context ⟨.reconcile, step⟩ = (.error e, b)) : ∃ events,
    b.world.journal = a.world.journal ++ events ∧
      Halts b.cancelled step (e.toControllerError ⟨.reconcile, step⟩) (Event.returns events) ∧
      Event.calls events = (Event.returns events).map (·.1) ∧ Event.hosts events = [] := by
  have hjournal := a.journal_carryOut cloud context ⟨.reconcile, step⟩
  have hcancelled := @cancelled_of_carryOut σ cloud context ⟨.reconcile, step⟩ a
  rw [h] at hjournal hcancelled
  rcases hjournal with ⟨-, hresult, hjournal⟩ | ⟨ending, hresult, hjournal⟩
  · cases hresult
    exact ⟨_, hjournal, .refused (hcancelled rfl), rfl, rfl⟩
  · cases ending with
    | done => cases hresult
    | failed error =>
      cases hresult
      exact ⟨_, hjournal, .failed error, rfl, rfl⟩
    | interrupted =>
      cases hresult
      exact ⟨_, hjournal, .interrupted (hcancelled rfl), rfl, rfl⟩

/-! ### The DNS name -/

/-- Without a name there is nothing to ask for. -/
theorem awaitDnsName_of_unnamed (h : a.scope.object.dnsName? = none) (cloud : Cloud σ)
    (dnsRequeue : Nat) :
    (a.awaitDnsName cloud dnsRequeue).1 = .ok (.requeueAfter dnsRequeue) ∧
      (a.awaitDnsName cloud dnsRequeue).2.world.journal = a.world.journal := by
  rw [awaitDnsName, h]
  exact ⟨rfl, rfl⟩

/-- The resolver is asked for a name, unless the invocation has been cancelled, and it decides how
the pass ends. -/
theorem awaitDnsName_of_named {host : String} (h : a.scope.object.dnsName? = some host)
    (cloud : Cloud σ) (dnsRequeue : Nat) :
    (a.cancelled = true ∧
      (a.awaitDnsName cloud dnsRequeue).1 = .error (.cancelled .loadBalancer) ∧
      (a.awaitDnsName cloud dnsRequeue).2.world.journal = a.world.journal) ∨
    (a.cancelled = false ∧
      (a.awaitDnsName cloud dnsRequeue).1
        = (cloud.lookUp host a.world.cloud).1.outcome dnsRequeue ∧
      (a.awaitDnsName cloud dnsRequeue).2.world.journal
        = a.world.journal ++ [.lookedUp host a.held]) := by
  cases hcancelled : a.cancelled with
  | true =>
    have hlookUp : a.lookUp cloud host = (none, a) := by rw [lookUp, if_pos hcancelled]
    have hout : a.awaitDnsName cloud dnsRequeue = (.error (.cancelled .loadBalancer), a) := by
      simp only [awaitDnsName, h, hlookUp]
    rw [hout]
    exact .inl ⟨rfl, rfl, rfl⟩
  | false =>
    refine .inr ⟨rfl, ?_⟩
    rcases hanswer : cloud.lookUp host a.world.cloud with ⟨(_ | _) | _, state⟩ <;>
      simp only [awaitDnsName, h, lookUp, hcancelled, Bool.false_eq_true, if_false, hanswer] <;>
      exact ⟨rfl, rfl⟩

/-- What comes of the DNS name in the status once all steps have succeeded. -/
structure Asks (cloud : Cloud σ) (dnsRequeue : Nat) (a : Attempt σ) (hosts : List String)
    (result : Except ControllerError Outcome) : Prop where
  /-- A name that is absent or empty is waited for. -/
  unnamed : a.scope.object.assignedName = none ∨ a.scope.object.assignedName = some "" →
    hosts = [] ∧ result = .ok (.requeueAfter dnsRequeue)
  /-- A cancelled invocation does not ask. -/
  cancelled : ∀ host, a.scope.object.assignedName = some host → host ≠ "" → a.cancelled = true →
    hosts = [] ∧ result = .error (.cancelled .loadBalancer)
  /-- Otherwise the resolver is asked for the name, once, and its answer is the result. -/
  asked : ∀ host, a.scope.object.assignedName = some host → host ≠ "" → a.cancelled = false →
    hosts = [host] ∧ result = (cloud.lookUp host a.world.cloud).1.outcome dnsRequeue

theorem asks_awaitDnsName (cloud : Cloud σ) (dnsRequeue : Nat) (a : Attempt σ) : ∃ looked,
    (a.awaitDnsName cloud dnsRequeue).2.world.journal = a.world.journal ++ looked ∧
      Event.calls looked = [] ∧ Event.returns looked = [] ∧
      a.Asks cloud dnsRequeue (Event.hosts looked) (a.awaitDnsName cloud dnsRequeue).1 := by
  have hfilter : a.scope.object.dnsName? = a.scope.object.assignedName.filter (!·.isEmpty) :=
    a.scope.object.dnsName?_eq
  by_cases hunnamed : a.scope.object.assignedName = none ∨ a.scope.object.assignedName = some ""
  · have hnone : a.scope.object.dnsName? = none := by
      rw [hfilter]
      rcases hunnamed with h | h <;> rw [h] <;> rfl
    obtain ⟨hresult, hjournal⟩ := awaitDnsName_of_unnamed hnone cloud dnsRequeue
    have habsurd : ∀ host, a.scope.object.assignedName = some host → host ≠ "" → False := by
      rintro host hname hne
      rcases hunnamed with h | h <;> rw [h] at hname <;> cases hname
      exact hne rfl
    exact ⟨[], hjournal.trans (List.append_nil _).symm, rfl, rfl, fun _ => ⟨rfl, hresult⟩,
      fun host hname hne _ => (habsurd host hname hne).elim,
      fun host hname hne _ => (habsurd host hname hne).elim⟩
  · rw [not_or] at hunnamed
    obtain ⟨name, hname⟩ := Option.ne_none_iff_exists'.1 hunnamed.1
    have hsome : a.scope.object.dnsName? = some name := by
      have hne : name ≠ "" := fun heq => hunnamed.2 (heq ▸ hname)
      rw [hfilter, hname, Option.filter_some, if_pos (by simpa using hne)]
    rcases awaitDnsName_of_named hsome cloud dnsRequeue with
      ⟨hcancelled, hresult, hjournal⟩ | ⟨hcancelled, hresult, hjournal⟩
    · refine ⟨[], hjournal.trans (List.append_nil _).symm, rfl, rfl,
        fun h => (h.elim hunnamed.1 hunnamed.2).elim, fun host _ _ _ => ⟨rfl, hresult⟩,
        fun host _ _ hfalse => ?_⟩
      cases hcancelled.symm.trans hfalse
    · refine ⟨_, hjournal, rfl, rfl, fun h => (h.elim hunnamed.1 hunnamed.2).elim,
        fun host _ _ htrue => ?_, fun host hhost _ _ => ?_⟩
      · cases hcancelled.symm.trans htrue
      · cases hname.symm.trans hhost
        exact ⟨rfl, hresult⟩

/-! ### The pass -/

/-- A normal pass that stops at a step: the steps before it have succeeded, the pass has the error
of this one, the resolver was not asked, and what is recorded of the steps after it is what was
loaded. -/
structure Stops (cloud : Cloud σ) (a : Attempt σ) (out : Except ControllerError Outcome × Attempt σ)
    (events : List Event) (before : List Subsystem) (step : Subsystem) (rest : List Subsystem) :
    Prop where
  order : Subsystem.creationOrder = before ++ step :: rest
  ended : ∃ error last, out.1 = .error error ∧ Halts out.2.cancelled step error last ∧
    Event.returns events = Subsystem.reconciledReturns before ++ last
  silent : Event.hosts events = []
  /-- Conditions of subsystems that were not reached are as loaded. -/
  unreached : ∀ subsystem ∈ rest, ∀ type, subsystem.condition? = some type →
    cloud.SparesCondition type → out.2.scope.object.recorded type = a.scope.object.recorded type
  /-- If the network fails, all conditions are as loaded. -/
  network : step = .network → ∀ type, cloud.SparesCondition type →
    out.2.scope.object.recorded type = a.scope.object.recorded type

/-- A normal pass in which all steps have succeeded, and what came of the DNS name then. -/
structure Completes (cloud : Cloud σ) (dnsRequeue : Nat) (reached : Attempt σ)
    (out : Except ControllerError Outcome × Attempt σ) (events : List Event) : Prop where
  returned : Event.returns events = Subsystem.reconciledReturns Subsystem.creationOrder
  asks : reached.Asks cloud dnsRequeue (Event.hosts events) out.1

/-- Steps touch the conditions of their own subsystems only. -/
theorem CarriedOut.recorded_of_ne {subsystems : List Subsystem} {type : String}
    (h : CarriedOut cloud context steps a b)
    (hcalls : steps.map (·.1) = subsystems.map (⟨.reconcile, ·⟩))
    (hspares : cloud.SparesCondition type)
    (hne : ∀ subsystem ∈ subsystems, subsystem.condition? ≠ some type) :
    b.scope.object.recorded type = a.scope.object.recorded type := by
  refine h.recorded (fun step hmem => ?_) (fun step hmem htype => ?_)
  · rw [← ServiceCall.eq_of_mem hcalls hmem]
    exact hspares step.1.subsystem
  · have hsubsystem : step.1.subsystem ∈ subsystems := by
      rw [← ServiceCall.subsystems_eq hcalls]
      exact List.mem_map_of_mem hmem
    exact absurd htype (hne step.1.subsystem hsubsystem)

/-- A pass that stops at a step. -/
theorem stops_of_carriedOut {before rest : List Subsystem} {step : Subsystem} {e : StepError}
    {loaded : Attempt σ} (horder : Subsystem.creationOrder = before ++ step :: rest)
    (hsteps : CarriedOut cloud context (Subsystem.stopping before step e) a b)
    (hstatus : a.scope.object.status = loaded.scope.object.status) : ∃ events,
      b.world.journal = a.world.journal ++ events ∧
        Event.calls events = (Event.returns events).map (·.1) ∧
        Stops cloud loaded (.error (e.toControllerError ⟨.reconcile, step⟩), b) events before step
          rest := by
  have hnodup : (before ++ [step] ++ rest).Nodup := by
    rw [List.append_assoc, List.singleton_append, ← horder]
    decide
  have hrecorded : ∀ type, cloud.SparesCondition type →
      (∀ subsystem ∈ before ++ [step], subsystem.condition? ≠ some type) →
      b.scope.object.recorded type = loaded.scope.object.recorded type := by
    intro type hspares hne
    rw [hsteps.recorded_of_ne (Subsystem.calls_stopping before step e) hspares hne,
      AwsCluster.recorded, AwsCluster.conditions, hstatus]
    rfl
  obtain ⟨c, hbefore, hlast⟩ := hsteps.of_append
  obtain ⟨events, hevents, hreturns, hcalled, hhosts⟩ := hbefore.reconciled
  obtain ⟨events', hevents', hhalts, hcalled', hhosts'⟩ := halts_carryOut hlast.single
  refine ⟨events ++ events', ?_, ?_, horder, ⟨_, _, rfl, hhalts, ?_⟩, ?_, ?_, ?_⟩
  · rw [hevents', hevents, List.append_assoc]
  · rw [Event.calls_append, Event.returns_append, List.map_append, hcalled, hcalled']
  · rw [Event.returns_append, hreturns]
  · rw [Event.hosts_append, hhosts, hhosts', List.append_nil]
  · intro subsystem hmem type htype hspares
    refine hrecorded type hspares fun called hcalled hother => ?_
    -- A subsystem that was called is not one of the rest.
    cases Subsystem.eq_of_condition? htype hother
    exact List.disjoint_of_nodup_append hnodup hcalled hmem
  · rintro rfl type hspares
    refine hrecorded type hspares fun called hcalled htype => ?_
    have hfirst : before = [] := by
      cases before with
      | nil => rfl
      | cons first others =>
        cases (List.cons.inj horder).1
        simp at hnodup
    rw [hfirst] at hcalled
    cases List.mem_singleton.1 hcalled
    cases htype

/-- A pass whose finalizer is stored stops at a step, or it completes. -/
theorem stops_or_completes (cloud : Cloud σ) (dnsRequeue : Nat) (a : Attempt σ)
    (hsecured : a.ensureFinalizer.1 = .ok ()) :
    ∃ events, (a.runNormal cloud dnsRequeue).2.world.journal = a.world.journal ++ events ∧
      Event.calls events = (Event.returns events).map (·.1) ∧
      ((∃ before step rest, Stops cloud a (a.runNormal cloud dnsRequeue) events before step rest) ∨
        Completes cloud dnsRequeue (a.ensureFinalizer.2.reconcileInOrder cloud
            a.ensureFinalizer.2.scope.context Subsystem.creationOrder).2
          (a.runNormal cloud dnsRequeue) events) := by
  have hstatus := a.status_ensureFinalizer
  have hjournal := a.journal_ensureFinalizer
  rcases hensure : a.ensureFinalizer with ⟨result, b⟩
  rw [hensure] at hsecured hstatus hjournal
  cases (hsecured : result = .ok ())
  have horder := carriedOut_reconcileInOrder cloud b.scope.context Subsystem.creationOrder b
  rcases hreached : b.reconcileInOrder cloud b.scope.context Subsystem.creationOrder with
    ⟨result, c⟩
  rw [hreached] at horder
  rw [runNormal, hensure]
  simp only [hreached]
  rcases horder with ⟨hok, hsteps⟩ | ⟨before, step, rest, e, horder, herror, hsteps⟩
  · cases (hok : result = _)
    obtain ⟨events, hevents, hreturns, hcalls, hhosts⟩ := hsteps.reconciled
    obtain ⟨looked, hlooked, hnoCalls, hnoReturns, hasks⟩ := c.asks_awaitDnsName cloud dnsRequeue
    refine ⟨events ++ looked, ?_, ?_, .inr ⟨?_, ?_⟩⟩
    · rw [hlooked, hevents, hjournal, List.append_assoc]
    · rw [Event.calls_append, Event.returns_append, hcalls, hnoCalls, hnoReturns, List.append_nil,
        List.append_nil]
    · rw [Event.returns_append, hreturns, hnoReturns, List.append_nil]
    · rw [Event.hosts_append, hhosts, List.nil_append]
      exact hasks
  · cases (herror : result = _)
    obtain ⟨events, hevents, hcalls, hstops⟩ := stops_of_carriedOut horder hsteps hstatus
    rw [hjournal] at hevents
    exact ⟨events, hevents, hcalls, .inl ⟨before, step, rest, hstops⟩⟩

/-- Steps that have succeeded before the last one, if there is one more: each call was made after
all before it had succeeded. -/
theorem mem_of_reconciledReturns {subsystems : List Subsystem} {last : List (ServiceCall × Ending)}
    (hlast : last.length ≤ 1) {earlier later : List ServiceCall} {call : ServiceCall}
    (h : (Subsystem.reconciledReturns subsystems ++ last).map (·.1) = earlier ++ call :: later) :
    ∀ other ∈ earlier, (other, .done) ∈ Subsystem.reconciledReturns subsystems ++ last := by
  have hmem : ∀ other ∈ (Subsystem.reconciledReturns subsystems).map (·.1),
      (other, Ending.done) ∈ Subsystem.reconciledReturns subsystems ++ last := by
    intro other hother
    obtain ⟨step, hstep, rfl⟩ := List.mem_map.1 hother
    have hdone := hstep
    rw [Subsystem.reconciledReturns, List.mem_map] at hstep
    obtain ⟨subsystem, -, rfl⟩ := hstep
    exact List.mem_append_left last hdone
  intro other hother
  rw [List.map_append] at h
  rcases List.append_eq_append_iff.1 h with ⟨others, hearlier, htail⟩ | ⟨others, hdone, -⟩
  · -- The call is the last one, so the earlier ones are all that have succeeded.
    have hnil : others = [] := by
      have hlength := congrArg List.length htail
      simp only [List.length_map, List.length_append, List.length_cons] at hlength
      exact List.length_eq_zero_iff.1 (by omega)
    rw [hnil, List.append_nil] at hearlier
    exact hmem other (hearlier ▸ hother)
  · exact hmem other (hdone ▸ List.mem_append_left others hother)

theorem Halts.calls {cancelled : Bool} {step : Subsystem} {error : ControllerError}
    {last : List (ServiceCall × Ending)} (h : Halts cancelled step error last) :
    last.map (·.1) <+: [⟨.reconcile, step⟩] ∧ last.length ≤ 1 := by
  cases h with
  | failed error => exact ⟨List.prefix_rfl, Nat.le_refl 1⟩
  | interrupted => exact ⟨List.prefix_rfl, Nat.le_refl 1⟩
  | refused => exact ⟨List.nil_prefix, Nat.zero_le _⟩

/-- The calls of either course are the first so many, and no more than one of them has failed. -/
theorem exists_reconciledReturns {out : Except ControllerError Outcome × Attempt σ}
    {events : List Event} {reached : Attempt σ}
    (h : (∃ before step rest, Stops cloud a out events before step rest) ∨
      Completes cloud dnsRequeue reached out events) : ∃ subsystems last,
    Event.returns events = Subsystem.reconciledReturns subsystems ++ last ∧ last.length ≤ 1 ∧
      (Event.returns events).map (·.1) <+: Subsystem.creationOrder.map (⟨.reconcile, ·⟩) := by
  have hcalls : ∀ subsystems : List Subsystem, (Subsystem.reconciledReturns subsystems).map (·.1)
      = subsystems.map (⟨.reconcile, ·⟩) := fun subsystems => by
    rw [Subsystem.reconciledReturns, List.map_map]
    rfl
  rcases h with ⟨before, step, rest, hstops⟩ | hcompletes
  · obtain ⟨error, last, -, hhalts, hreturns⟩ := hstops.ended
    refine ⟨before, last, hreturns, hhalts.calls.2, ?_⟩
    rw [hreturns, hstops.order, List.map_append, hcalls, List.map_append, List.map_cons,
      List.prefix_append_right_inj]
    exact hhalts.calls.1.trans (List.prefix_append [_] _)
  · refine ⟨_, [], hcompletes.returned.trans (List.append_nil _).symm, Nat.zero_le _, ?_⟩
    have hall : (Event.returns events).map (·.1)
        = Subsystem.creationOrder.map (⟨.reconcile, ·⟩) := by
      rw [hcompletes.returned, hcalls]
    exact hall ▸ List.prefix_rfl

/-- Once its finalizer is stored, a normal pass is ordered and fails fast. It makes the first so
many of the four calls, each of them after all before it have succeeded. Where it stops, it has the
error of the step, asks no resolver, and leaves the conditions of what it did not reach as they were
loaded; a network that fails leaves them all as they were, but for the summary. Where it completes,
it asks the resolver for the name in the status, once, or waits if there is none. -/
theorem normal_pass_is_ordered (cloud : Cloud σ) (dnsRequeue : Nat) (a : Attempt σ)
    (hsecured : a.ensureFinalizer.1 = .ok ()) :
    let out := a.runNormal cloud dnsRequeue
    let reached := (a.ensureFinalizer.2.reconcileInOrder cloud a.ensureFinalizer.2.scope.context
      Subsystem.creationOrder).2
    ∃ events, out.2.world.journal = a.world.journal ++ events ∧
      Event.calls events = (Event.returns events).map (·.1) ∧
      Event.calls events <+: Subsystem.creationOrder.map (⟨.reconcile, ·⟩) ∧
      (∀ earlier call later, Event.calls events = earlier ++ call :: later →
        ∀ other ∈ earlier, (other, .done) ∈ Event.returns events) ∧
      ((∃ before step rest, Stops cloud a out events before step rest) ∨
        Completes cloud dnsRequeue reached out events) ∧
      ∀ now type, type ≠ ConditionType.ready →
        (out.2.scope.conclude now).object.recorded type = out.2.scope.object.recorded type := by
  obtain ⟨events, hevents, hcalls, hcourse⟩ := stops_or_completes cloud dnsRequeue a hsecured
  obtain ⟨subsystems, last, hreturns, hlast, hprefix⟩ := exists_reconciledReturns hcourse
  refine ⟨events, hevents, hcalls, hcalls ▸ hprefix, fun earlier call later hsplit => ?_, hcourse,
    fun now type hne => ?_⟩
  · rw [hcalls, hreturns] at hsplit
    rw [hreturns]
    exact mem_of_reconciledReturns hlast hsplit
  · have hplace : Mark.summary.place ≠ .condition type := fun heq =>
      hne (Place.condition.inj heq).symm
    exact Mark.recorded_apply hplace

end Attempt

/-! ### Some passes -/

namespace Sample

/-- The object with the condition of its bastion. -/
def bastioned : AwsCluster := named [.holds ConditionType.bastionReady]

/-- Services that refuse to reconcile the security groups. -/
def starving : Cloud Unit := .refusing fun call =>
  if call = ⟨.reconcile, .securityGroups⟩ then some (.api "quota") else none

/-- Services that do so, too, after the network service has written the condition of the bastion. -/
def meddling : Cloud Unit where
  call call context object state :=
    let (reply, state) := starving.call call context object state
    if call = ⟨.reconcile, .network⟩ then
      ({ reply with object := object.modifyConditions (·.delete ConditionType.bastionReady) },
        state)
    else (reply, state)
  lookUp host state := starving.lookUp host state

end Sample

namespace Attempt

/-- A pass that stops at the security groups leaves the condition of the bastion as it was, and one
that completes asks for the name of the load balancer. -/
theorem sample_normal_pass_is_ordered :
    (Sample.attempting Sample.bastioned).ensureFinalizer.1 = .ok () ∧
    ((Sample.attempting Sample.bastioned).runNormal Sample.starving 15).1
      = .error (.service .securityGroups (.api "quota")) ∧
    ((Sample.attempting Sample.bastioned).runNormal Sample.starving 15).2.scope.object.recorded
      ConditionType.bastionReady = [.holds ConditionType.bastionReady] ∧
    Event.hosts ((Sample.attempting Sample.bastioned).runNormal Cloud.obliging 15).2.world.journal
      = ["lb.example.com"] := by
  have hsecured : (Sample.attempting Sample.bastioned).ensureFinalizer.1 = .ok () := by
    decide +kernel
  have hstart : (Sample.attempting Sample.bastioned).world.journal = [] := rfl
  have hresult : ((Sample.attempting Sample.bastioned).runNormal Sample.starving 15).1
      = .error (.service .securityGroups (.api "quota")) := by decide +kernel
  have hreturns : Event.returns ((Sample.attempting Sample.bastioned).runNormal Sample.starving
      15).2.world.journal
        = [(⟨.reconcile, .network⟩, .done),
          (⟨.reconcile, .securityGroups⟩, .failed (.api "quota"))] := by decide +kernel
  have hdone : ((Sample.attempting Sample.bastioned).runNormal Cloud.obliging 15).1
      = .ok .noRequeue := by decide +kernel
  obtain ⟨stopped, hstopped, -, -, -, hstops, -⟩ :=
    normal_pass_is_ordered Sample.starving 15 (Sample.attempting Sample.bastioned) hsecured
  obtain ⟨passed, hpassed, -, -, -, hpasses, -⟩ :=
    normal_pass_is_ordered Cloud.obliging 15 (Sample.attempting Sample.bastioned) hsecured
  rw [hstart, List.nil_append] at hstopped hpassed
  rw [hstopped] at hreturns
  refine ⟨hsecured, hresult, ?_, ?_⟩
  · rcases hstops with ⟨before, step, rest, hstops⟩ | hcompletes
    · obtain ⟨error, last, herror, hhalts, hreturned⟩ := hstops.ended
      cases herror.symm.trans hresult
      cases hhalts
      -- The bastion was not called, so it comes after the security groups.
      have hbastion : Subsystem.bastion ∈ before ++ .securityGroups :: rest :=
        hstops.order ▸ by decide
      rw [hreturns] at hreturned
      rcases List.mem_append.1 hbastion with hbefore | hafter
      · have hcalled : (⟨.reconcile, .bastion⟩, .done) ∈ Subsystem.reconciledReturns before :=
          List.mem_map_of_mem hbefore
        exact absurd (hreturned ▸ List.mem_append_left _ hcalled) (by decide)
      · have hrest := (List.mem_cons.1 hafter).resolve_left (by decide)
        exact hstops.unreached .bastion hrest _ rfl fun _ _ _ _ => rfl
    · rw [hcompletes.returned] at hreturns
      exact absurd hreturns (by decide)
  · rw [hpassed]
    rcases hpasses with ⟨before, step, rest, hstops⟩ | hcompletes
    · obtain ⟨error, last, herror, -⟩ := hstops.ended
      cases herror.symm.trans hdone
    · exact (hcompletes.asks.asked "lb.example.com" (by decide +kernel) (by decide)
        (by decide +kernel)).1

/-- A service that writes a condition of a subsystem that is not reached has its way. -/
theorem condition_of_unreached_overwritten :
    (Sample.attempting Sample.bastioned).ensureFinalizer.1 = .ok () ∧
    ((Sample.attempting Sample.bastioned).runNormal Sample.meddling 15).1
      = .error (.service .securityGroups (.api "quota")) ∧
    Event.calls ((Sample.attempting Sample.bastioned).runNormal Sample.meddling 15).2.world.journal
      = [⟨.reconcile, .network⟩, ⟨.reconcile, .securityGroups⟩] ∧
    ((Sample.attempting Sample.bastioned).runNormal Sample.meddling 15).2.scope.object.recorded
      ConditionType.bastionReady
      ≠ (Sample.attempting Sample.bastioned).scope.object.recorded ConditionType.bastionReady := by
  decide +kernel

end Attempt

end ClusterInfra
