import ClusterInfra.Proofs.Reconcile.Progress
import ClusterInfra.Proofs.Reconcile.Prospect
/-!
Passes over services that do nothing but their own work.

Such services may fail or be interrupted whenever they like. A call that is done leaves the work of
the script on the object and any other call leaves nothing, so what a piece of a pass makes of its
object is known once the result of its call is: a list of marks.
-/

namespace ClusterInfra

variable {σ : Type}

/-! ### The services -/

/-- Services that work as a script does if they work at all, and a resolver that answers as the
script does if it answers at all, as long as the state of the cloud is fit. -/
structure Cloud.Mocks (cloud : Cloud σ) (script : Script) (fit : σ → Prop) : Prop where
  quiet : ∀ {state}, fit state → ∀ call context object,
    (cloud.call call context object state).1.stored = []
  object : ∀ {state}, fit state → ∀ call context object,
    (cloud.call call context object state).1.object
      = if (cloud.call call context object state).1.ending = .done then script.work call object
        else object
  resolves : ∀ {state}, fit state → ∀ host resolves,
    (cloud.lookUp host state).1 = .answered resolves → resolves = script.hosts.contains host
  fit_call : ∀ {state}, fit state → ∀ call context object,
    fit (cloud.call call context object state).2
  fit_lookUp : ∀ {state}, fit state → ∀ host, fit (cloud.lookUp host state).2

/-- The script without effects, but with the same DNS name and hosts: it may let other calls and
look-ups fail or hang. -/
def Script.Varies (script other : Script) : Prop :=
  other.dnsName = script.dnsName ∧ other.hosts = script.hosts ∧ other.effects = []

/-- Scripted services mock every variation of their script. -/
theorem Script.mocks_scriptedCloud (script : Script) : scriptedCloud.Mocks script script.Varies where
  quiet := by
    rintro state ⟨-, -, heffects⟩ call context object
    simp only [scriptedCloud, answer]
    split
    · rfl
    · split
      · rfl
      · simp [effectsOf, heffects]
  object := by
    rintro state ⟨hdnsName, -, heffects⟩ call context object
    simp only [scriptedCloud, answer]
    split
    · rfl
    · split
      · rfl
      · simp only [effectsOf, heffects, List.filter_nil, List.map_nil, List.foldl_nil, if_true]
        unfold work
        rw [hdnsName]
  resolves := by
    rintro state ⟨-, hhosts, -⟩ host resolves h
    simp only [scriptedCloud, resolve] at h
    split at h
    · cases h
    · cases h
      rw [hhosts]
  fit_call := fun h _ _ _ => h
  fit_lookUp := fun h _ => h

/-- No scripted service writes metadata, whatever the effects of its calls. -/
theorem Script.keeps_scriptedCloud (view : Metadata → ν) : scriptedCloud.Keeps view := by
  intro call context object script
  have hwork : (script.work call object).metadata = object.metadata := by
    unfold work
    split <;> rfl
  have heffects : ∀ (effects : List Effect) (object : AwsCluster),
      (effects.foldl (fun o effect => effect.apply o) object).metadata = object.metadata := by
    intro effects
    induction effects with
    | nil => exact fun _ => rfl
    | cons effect rest ih => exact fun object => ih (effect.apply object)
  simp only [scriptedCloud, answer]
  split
  · rfl
  · split
    · rfl
    · simp only [heffects, hwork]

/-! ### Making marks -/

/-- Marks were left on the object of an attempt, and the store was left alone. -/
structure Attempt.Makes (fit : σ → Prop) (marks : List Mark) (a b : Attempt σ) : Prop where
  store : b.world.store = a.world.store
  faults : b.world.faults = a.world.faults
  cluster : b.scope.cluster = a.scope.cluster
  saved : b.scope.saved = a.scope.saved
  marked : Marked marks a.scope.object b.scope.object
  fit : fit a.world.cloud → fit b.world.cloud

namespace Attempt

variable {fit : σ → Prop} {script : Script} {cloud : Cloud σ} {marks marks' : List Mark}
  {a b c : Attempt σ}

theorem Makes.refl (a : Attempt σ) : a.Makes fit [] a := ⟨rfl, rfl, rfl, rfl, .nil _, id⟩

theorem Makes.trans (h : a.Makes fit marks b) (h' : b.Makes fit marks' c) :
    a.Makes fit (marks ++ marks') c :=
  ⟨h'.store.trans h.store, h'.faults.trans h.faults, h'.cluster.trans h.cluster,
    h'.saved.trans h.saved, h.marked.trans h'.marked, fun hfit => h'.fit (h.fit hfit)⟩

theorem makes_update {change : Instant → Scope → Scope}
    (hstages : ∀ now (scope : Scope), scope.Stages (change now scope))
    (hmarked : ∀ now, Marked marks a.scope.object (change now a.scope).object) :
    a.Makes fit marks (a.update change) := by
  have h := hstages a.world.clock.read.1 a.scope
  exact ⟨rfl, rfl, h.cluster, h.saved, hmarked _, id⟩

theorem makes_report (a : Attempt σ) (subsystem : Subsystem) (reason : String)
    (severity : Severity) (message : String) :
    a.Makes fit (subsystem.reportMarks reason severity message)
      (a.update fun now scope => scope.report subsystem reason severity message now) :=
  makes_update (fun now scope => scope.stages_report subsystem reason severity message now)
    fun now => a.scope.marked_report subsystem reason severity message now

theorem makes_countFailure (a : Attempt σ) (call : ServiceCall) :
    a.Makes fit [] (a.countFailure call) := ⟨rfl, rfl, rfl, rfl, .nil _, id⟩

/-- The marks of a call with some result. -/
def callMarks (script : Script) (call : ServiceCall) : Except StepError Unit → List Mark
  | .ok () => script.workMarks call
  | .error _ => []

theorem makes_call (hmocks : cloud.Mocks script fit) (context : ServiceContext) (call : ServiceCall)
    (hfit : fit a.world.cloud) :
    a.Makes fit (callMarks script call (a.call cloud context call).1)
      (a.call cloud context call).2 := by
  rw [call_eq]
  split
  · exact ⟨rfl, rfl, rfl, rfl, .nil _, id⟩
  · have hquiet := hmocks.quiet hfit call context a.scope.object
    have hobject := hmocks.object hfit call context a.scope.object
    have hnext := hmocks.fit_call hfit call context a.scope.object
    refine ⟨?_, rfl, rfl, rfl, ?_, fun _ => hnext⟩
    · simp [made, absorb, log, World.log, hquiet]
    · have hmade : (a.made cloud context call).scope.object
          = (cloud.call call context a.scope.object a.world.cloud).1.object := rfl
      rw [hmade, hobject]
      cases (cloud.call call context a.scope.object a.world.cloud).1.ending with
      | done => exact script.marked_work call a.world.clock.read.1 _
      | failed error => exact .nil _
      | interrupted => exact .nil _

/-! ### The pieces of the passes -/

/-- The marks of a subsystem that was reconciled with some result. -/
def creationMarks (script : Script) (bastionEnabled : Bool) (subsystem : Subsystem) :
    Except StepError Unit → List Mark
  | .ok () => script.workMarks ⟨.reconcile, subsystem⟩ ++ subsystem.readyMarks bastionEnabled
  | .error e => subsystem.reportMarks subsystem.failureReason .warning e.message

theorem fst_reconcileSubsystem (cloud : Cloud σ) (context : ServiceContext) (subsystem : Subsystem)
    (a : Attempt σ) : (a.reconcileSubsystem cloud context subsystem).1
      = (a.call cloud context ⟨.reconcile, subsystem⟩).1.mapError
        (·.toControllerError ⟨.reconcile, subsystem⟩) := by
  rcases hresult : a.call cloud context ⟨.reconcile, subsystem⟩ with ⟨e | _, b⟩ <;>
    simp only [reconcileSubsystem, hresult] <;> rfl

theorem makes_reconcileSubsystem (hmocks : cloud.Mocks script fit) (context : ServiceContext)
    (subsystem : Subsystem) (hfit : fit a.world.cloud) :
    a.Makes fit (creationMarks script a.scope.object.spec.bastion.enabled subsystem
        (a.call cloud context ⟨.reconcile, subsystem⟩).1)
      (a.reconcileSubsystem cloud context subsystem).2 := by
  have hcall := makes_call hmocks context ⟨.reconcile, subsystem⟩ hfit
  rcases hresult : a.call cloud context ⟨.reconcile, subsystem⟩ with ⟨e | _, b⟩ <;>
    rw [hresult] at hcall <;> simp only [reconcileSubsystem, hresult]
  · exact (hcall.trans (makes_countFailure b _)).trans (makes_report ..)
  · obtain ⟨endpoint, hspec⟩ := hcall.marked.spec
    refine hcall.trans (makes_update (fun now scope => scope.stages_reconciled ..) fun now => ?_)
    have hmarked := b.scope.marked_reconciled subsystem now
    rw [hspec] at hmarked
    exact hmarked

theorem routine_reportMarks {prospect : AwsCluster} (subsystem : Subsystem) (reason : String)
    (severity : Severity) (message : String) :
    ∀ mark ∈ subsystem.reportMarks reason severity message, mark.Routine script prospect := by
  intro mark hmem
  cases subsystem <;> simp [Subsystem.reportMarks, Subsystem.condition?] at hmem <;>
    simp [hmem, Mark.Routine, Condition.fails]

theorem routine_workMarks {prospect : AwsCluster} (call : ServiceCall) :
    ∀ mark ∈ script.workMarks call, mark.Routine script prospect := by
  intro mark hmem
  obtain ⟨name, hname, rfl⟩ := Script.mem_workMarks hmem
  exact hname

theorem routine_creationMarks (object : AwsCluster) (subsystem : Subsystem)
    (result : Except StepError Unit) :
    ∀ mark ∈ creationMarks script object.spec.bastion.enabled subsystem result,
      mark.Routine script (script.prospect object) := by
  cases result with
  | error e => exact routine_reportMarks subsystem subsystem.failureReason .warning e.message
  | ok =>
    rw [creationMarks, List.forall_mem_append]
    refine ⟨routine_workMarks _, fun mark hmem => ?_⟩
    cases henabled : object.spec.bastion.enabled <;> rw [henabled] at hmem <;>
      cases subsystem <;> simp [Subsystem.readyMarks] at hmem <;>
      simp [hmem, Mark.Routine, Condition.holds, script.bastion_prospect, henabled]

/-- Reconciling subsystems leaves routine marks only, and where it succeeds, their work is done. -/
theorem makes_reconcileInOrder (hmocks : cloud.Mocks script fit) (context : ServiceContext) :
    ∀ (subsystems : List Subsystem) {a : Attempt σ}, fit a.world.cloud → ∃ marks,
      a.Makes fit marks (a.reconcileInOrder cloud context subsystems).2 ∧
      (∀ mark ∈ marks, mark.Routine script (script.prospect a.scope.object)) ∧
      ((a.reconcileInOrder cloud context subsystems).1 = .ok () → ∀ subsystem ∈ subsystems,
        ∀ mark ∈ script.workMarks ⟨.reconcile, subsystem⟩, mark ∈ marks)
  | [], a, _ => ⟨[], .refl a, List.forall_mem_nil _, fun _ => List.forall_mem_nil _⟩
  | subsystem :: rest, a, hfit => by
    have hfirst := makes_reconcileSubsystem hmocks context subsystem hfit
    have hroutine := @routine_creationMarks script a.scope.object subsystem
      (a.call cloud context ⟨.reconcile, subsystem⟩).1
    have hakin := Script.Akin.of_marked hfirst.marked hroutine
    have hresult := fst_reconcileSubsystem cloud context subsystem a
    rcases hout : a.reconcileSubsystem cloud context subsystem with ⟨e | _, b⟩ <;>
      rw [hout] at hfirst hakin hresult <;> simp only [reconcileInOrder, hout]
    · refine ⟨_, hfirst, hroutine, fun hok => ?_⟩
      cases hok
    · obtain ⟨marks, hrest, hroutine', hdone⟩ :=
        makes_reconcileInOrder hmocks context rest (hfirst.fit hfit)
      rw [hakin.prospect] at hroutine'
      refine ⟨_, hfirst.trans hrest, ?_, fun hok other hother mark hmem => ?_⟩
      · rw [List.forall_mem_append]
        exact ⟨hroutine, hroutine'⟩
      · rw [List.mem_append]
        rcases List.mem_cons.1 hother with rfl | hother
        · cases hcall : (a.call cloud context ⟨.reconcile, other⟩).1 with
          | error e =>
            rw [hcall] at hresult
            cases hresult
          | ok => exact .inl (List.mem_append_left _ hmem)
        · exact .inr (hdone hok other hother mark hmem)

/-- Once all subsystems have been reconciled, the load balancer has the DNS name that it gets. -/
theorem dnsName?_reconcileInOrder (hmocks : cloud.Mocks script fit) (context : ServiceContext)
    (hfit : fit a.world.cloud)
    (hok : (a.reconcileInOrder cloud context Subsystem.creationOrder).1 = .ok ()) :
    (a.reconcileInOrder cloud context Subsystem.creationOrder).2.scope.object.dnsName?
      = script.dnsName?
          (a.reconcileInOrder cloud context Subsystem.creationOrder).2.scope.object := by
  obtain ⟨marks, hmakes, hroutine, hdone⟩ :=
    makes_reconcileInOrder hmocks context Subsystem.creationOrder hfit
  refine Script.dnsName?_of_settled fun mark hwork => ?_
  exact hmakes.marked.settled_of_work hroutine hwork
    (.inr (hdone hok .loadBalancer (by decide) mark hwork))

/-- The marks of waiting for a DNS name, by the name and what became of its look-up. -/
def awaitMarks : Option String → Option Bool → List Mark
  | none, _ => Subsystem.loadBalancer.reportMarks Reason.waitForDnsName .info ""
  | some _, none => []
  | some host, some false => Subsystem.loadBalancer.reportMarks Reason.waitForDnsNameResolve .info
      (host ++ " does not resolve yet")
  | some host, some true => [.set (.holds ConditionType.loadBalancerReady), .publish host]

theorem routine_awaitMarks {prospect : AwsCluster} {answer : Option Bool}
    (h : ∀ host resolves, prospect.dnsName? = some host → answer = some resolves →
      resolves = script.hosts.contains host) :
    ∀ mark ∈ awaitMarks prospect.dnsName? answer, mark.Routine script prospect := by
  intro mark hmem
  cases hname : prospect.dnsName? with
  | none =>
    rw [hname] at hmem
    exact routine_reportMarks _ _ _ _ mark hmem
  | some host =>
    rw [hname] at hmem
    rcases answer with _ | _ | _
    · cases hmem
    · exact routine_reportMarks _ _ _ _ mark hmem
    · have hresolves := h host true hname rfl
      simp only [awaitMarks, List.mem_cons, List.not_mem_nil, or_false] at hmem
      rcases hmem with rfl | rfl
      · simp [Mark.Routine, Condition.holds]
      · rw [Mark.Routine, hname, Option.filter_some, ← hresolves]
        rfl

theorem makes_lookUp (hmocks : cloud.Mocks script fit) (host : String) (hfit : fit a.world.cloud) :
    a.Makes fit [] (a.lookUp cloud host).2 ∧ ∀ resolves, (a.lookUp cloud host).1 = some resolves →
      resolves = script.hosts.contains host := by
  have hnext := hmocks.fit_lookUp hfit host
  have hresolves := hmocks.resolves hfit host
  rw [lookUp]
  split
  · exact ⟨.refl a, fun _ h => nomatch h⟩
  · rcases hanswer : cloud.lookUp host a.world.cloud with ⟨resolves | _, state⟩ <;>
      rw [hanswer] at hnext hresolves
    · refine ⟨⟨rfl, rfl, rfl, rfl, .nil _, fun _ => hnext⟩, fun resolves' h => ?_⟩
      cases h
      exact hresolves resolves rfl
    · exact ⟨⟨rfl, rfl, rfl, rfl, .nil _, fun _ => hnext⟩, fun _ h => nomatch h⟩

theorem makes_awaitDnsName (hmocks : cloud.Mocks script fit) (dnsRequeue : Nat)
    (hfit : fit a.world.cloud) :
    a.Makes fit (awaitMarks a.scope.object.dnsName?
        (a.scope.object.dnsName?.bind fun host => (a.lookUp cloud host).1))
      (a.awaitDnsName cloud dnsRequeue).2 := by
  cases hname : a.scope.object.dnsName? with
  | none =>
    simp only [awaitDnsName, hname]
    exact makes_report ..
  | some host =>
    have hlookUp := (makes_lookUp hmocks host hfit).1
    rcases hanswer : a.lookUp cloud host with ⟨_ | _ | _, b⟩ <;> rw [hanswer] at hlookUp <;>
      simp only [awaitDnsName, hname, hanswer, Option.bind_some]
    · exact hlookUp
    · exact hlookUp.trans (makes_report b .loadBalancer Reason.waitForDnsNameResolve .info _)
    · exact hlookUp.trans (makes_update (fun now scope => scope.stages_publish host now)
        fun now => b.scope.marked_publish host now)

/-- The marks of a subsystem that was deleted with some result. -/
def deletionMarks (subsystem : Subsystem) : Except StepError Unit → List Mark
  | .ok () => subsystem.reportMarks Reason.deleted .info ""
  | .error e => subsystem.reportMarks Reason.deletionFailed .warning e.message

theorem makes_deleteSubsystem (hmocks : cloud.Mocks script fit) (context : ServiceContext)
    (subsystem : Subsystem) (hfit : fit a.world.cloud) :
    a.Makes fit (deletionMarks subsystem (a.call cloud context ⟨.delete, subsystem⟩).1)
      (a.deleteSubsystem cloud context subsystem).2 := by
  have hcall := makes_call hmocks context ⟨.delete, subsystem⟩ hfit
  rcases hresult : a.call cloud context ⟨.delete, subsystem⟩ with ⟨e | _, b⟩ <;>
    rw [hresult] at hcall <;> simp only [deleteSubsystem, hresult]
  · exact (hcall.trans (makes_countFailure b _)).trans (makes_report ..)
  · exact hcall.trans (makes_report ..)

end Attempt

end ClusterInfra
