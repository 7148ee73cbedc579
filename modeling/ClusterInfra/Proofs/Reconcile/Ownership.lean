import ClusterInfra.Proofs.Gateway.Confined
import ClusterInfra.Proofs.Reconcile.Publication
import ClusterInfra.Proofs.Reconcile.Reports
/-!
A reconciliation writes what it owns.

Of an object, the controller owns its finalizer, the network in the spec but for the overrides of
security groups, the endpoint of the control plane, and the status but for the conditions of others.
Everything else is foreign. Whatever the gateway answers and wherever an invocation ends, what is
foreign of a stored object stays as it is; and a delete pass leaves spec, failure domains and the
ready flag alone as well.
-/

namespace ClusterInfra

variable {σ τ ν : Type} {cloud : Cloud σ}

/-! ### What is foreign -/

/-- The types of the conditions that the controller reports. -/
def ConditionType.owned : List String :=
  [securityGroupsReady, bastionReady, loadBalancerReady, ready]

/-- Metadata apart from its version and from whether the finalizer is there. -/
def Metadata.foreign (metadata : Metadata) : Metadata :=
  { metadata with
    resourceVersion := none
    finalizers := some ((metadata.finalizers.getD []).filter (· ≠ clusterFinalizer)) }

/-- A spec apart from the network that is there and the endpoint. -/
def AwsClusterSpec.foreign (spec : AwsClusterSpec) : AwsClusterSpec :=
  { spec with
    network := { spec.network with vpc := {}, subnets := [] }
    controlPlaneEndpoint := {} }

/-- The conditions that others report. -/
def Conditions.foreign (conditions : Conditions) : Conditions :=
  conditions.filter (·.type ∉ ConditionType.owned)

/-- An object apart from what the controller owns of it. -/
def AwsCluster.foreign (object : AwsCluster) : Metadata × AwsClusterSpec × Conditions :=
  (object.metadata.foreign, object.spec.foreign, object.conditions.foreign)

/-- What a delete pass leaves alone of what the controller owns. -/
def AwsCluster.lasting (object : AwsCluster) : AwsClusterSpec × Bool × Dict FailureDomain :=
  (object.spec, object.statusOrDefault.ready, object.statusOrDefault.failureDomains)

theorem AwsCluster.blind_lasting : Blind lasting := fun _ _ h =>
  congrArg (fun core => (core.1, core.2.ready, core.2.failureDomains)) h

namespace Conditions

variable {type : String} {new : Condition}

theorem foreign_cons_of_mem {condition : Condition} (h : condition.type ∈ ConditionType.owned)
    (rest : Conditions) : foreign (condition :: rest) = foreign rest :=
  List.filter_cons_of_neg (by simpa using h)

theorem foreign_set (h : new.type ∈ ConditionType.owned) (now : Instant) :
    ∀ conditions : Conditions, (conditions.set new now).foreign = conditions.foreign
  | [] => by
    have hnew : ({ new with lastTransitionTime := some (new.lastTransitionTime.getD now) } :
        Condition).type ∈ ConditionType.owned := h
    rw [set, foreign_cons_of_mem hnew]
  | condition :: rest => by
    rw [set]
    split
    next heq =>
      have hobserved : (condition.observe new now).type ∈ ConditionType.owned := by
        rw [Condition.type_observe heq]
        exact h
      rw [foreign_cons_of_mem hobserved, foreign_cons_of_mem (heq ▸ h)]
    next =>
      have hrest := foreign_set h now rest
      simp only [foreign, List.filter_cons] at hrest ⊢
      rw [hrest]

theorem foreign_delete (h : type ∈ ConditionType.owned) (conditions : Conditions) :
    (conditions.delete type).foreign = conditions.foreign := by
  rw [foreign, foreign, delete, List.filter_filter]
  refine List.filter_congr fun condition _ => ?_
  by_cases htype : condition.type = type
  · simp [htype, h]
  · simp [htype]

end Conditions

/-! ### Marks and calls -/

/-- A mark that is not left in a condition of others. -/
def Mark.IsOwned (mark : Mark) : Prop :=
  ∀ type, mark.place = .condition type → type ∈ ConditionType.owned

theorem Mark.foreign_apply {mark : Mark} (h : mark.IsOwned) (now : Instant) (object : AwsCluster) :
    (mark.apply now object).foreign = object.foreign := by
  have hmodify : ∀ change : Conditions → Conditions,
      (change object.conditions).foreign = object.conditions.foreign →
      (object.modifyConditions change).foreign = object.foreign := by
    intro change hchange
    rw [AwsCluster.foreign, object.conditions_modifyConditions, hchange]
    rfl
  cases mark with
  | set condition => exact hmodify _ (Conditions.foreign_set (h _ rfl) now _)
  | unset type =>
    rw [apply]
    split
    · rfl
    · exact hmodify _ (Conditions.foreign_delete (h _ rfl) _)
  | dnsName name =>
    rw [apply, AwsCluster.foreign, object.conditions_withDnsName]
    rfl
  | publish host =>
    rw [apply, AwsCluster.foreign, object.conditions_published]
    rfl
  | summary =>
    refine hmodify _ (Conditions.foreign_set ?_ now _)
    rw [AwsCluster.summary, Conditions.type_summarize]
    decide

theorem Marked.foreign {marks : List Mark} {a b : AwsCluster} (h : Marked marks a b)
    (howned : ∀ mark ∈ marks, mark.IsOwned) : b.foreign = a.foreign := by
  induction h with
  | nil object => rfl
  | cons mark now _ ih =>
    rw [List.forall_mem_cons] at howned
    rw [ih howned.2, Mark.foreign_apply howned.1]

theorem AwsCluster.foreign_modifyStatus {change : AwsClusterStatus → AwsClusterStatus}
    (h : ∀ status, (change status).conditions = status.conditions) (object : AwsCluster) :
    (object.modifyStatus change).foreign = object.foreign := by
  rw [foreign, foreign, conditions_eq, conditions_eq]
  exact congrArg (fun conditions : Conditions => (object.metadata.foreign, object.spec.foreign,
    conditions.foreign)) (h object.statusOrDefault)

/-- The answers of the gateway are not foreign. -/
theorem Gateway.hides_foreign (call : ServiceCall) : Hides AwsCluster.foreign call where
  network _ _ _ := rfl
  securityGroups object _ := object.foreign_modifyStatus fun _ => rfl
  bastion object _ := object.foreign_modifyStatus fun _ => rfl
  loadBalancer object _ := object.foreign_modifyStatus fun _ => rfl

theorem Subsystem.mem_owned {subsystem : Subsystem} {type : String}
    (h : subsystem.condition? = some type) : type ∈ ConditionType.owned := by
  cases subsystem <;> cases h <;> decide

namespace Attempt

variable {context : ServiceContext} {steps : List (ServiceCall × Except StepError Unit)}
  {a b : Attempt σ} {dnsRequeue : Nat} {deleting : Bool}
  {out : Except ControllerError Outcome × Attempt σ}

theorem CarriedOut.foreign (h : CarriedOut cloud context steps a b)
    (hspares : ∀ call, cloud.Spares AwsCluster.foreign call) :
    b.scope.object.foreign = a.scope.object.foreign := by
  induction h with
  | nil a => rfl
  | @cons a b c call result rest hcall _ ih =>
    have hmarked := (a.marked_carryOut cloud context call).foreign fun mark hmem type hplace => by
      obtain ⟨type', htype', hplace'⟩ := ServiceCall.place_of_mem_marks hmem
      cases hplace'.symm.trans hplace
      exact Subsystem.mem_owned htype'
    rw [hcall, view_call (hspares call)] at hmarked
    rw [ih, hmarked]

theorem Awaits.foreign (h : a.Awaits cloud dnsRequeue out) :
    out.2.scope.object.foreign = a.scope.object.foreign := by
  obtain ⟨marks, hmarked, hplaces⟩ := h.marked
  refine hmarked.foreign fun mark hmem type hplace => ?_
  rcases hplaces mark hmem with heq | heq
  · cases heq.symm.trans hplace
    decide
  · cases heq.symm.trans hplace


/-- What a pass leaves of the object has the same foreign parts in spec and status. -/
theorem Exits.foreign (h : a.Exits cloud dnsRequeue deleting out)
    (hspares : ∀ call, cloud.Spares AwsCluster.foreign call) :
    out.2.scope.object.foreign.2 = a.scope.object.foreign.2 := by
  have hcongr : ∀ {a b : AwsCluster}, b.spec = a.spec → b.status = a.status →
      b.foreign.2 = a.foreign.2 := by
    intro a b hspec hstatus
    simp only [AwsCluster.foreign, AwsCluster.conditions, hspec, hstatus]
  cases h with
  | unguarded message faults =>
    obtain ⟨hspec, hstatus⟩ := spec_addFinalizer a.scope
    exact hcongr hspec hstatus
  | stopped hsecured horder hsteps =>
    rw [hsteps.foreign hspares]
    exact hcongr hsecured.spec hsecured.status
  | reached hsecured hsteps hawaits =>
    rw [hawaits.foreign, hsteps.foreign hspares]
    exact hcongr hsecured.spec hsecured.status
  | deleted hcalls hsteps result hworld hspec hstatus =>
    rw [hcongr hspec hstatus, hsteps.foreign hspares]

/-- A delete pass leaves alone what its calls leave alone. -/
theorem Exits.view_eq_of_deleted {view : AwsCluster → ν} (h : a.Exits cloud dnsRequeue true out)
    (hview : AwsCluster.Blind view) (hspares : ∀ subsystem, cloud.Spares view ⟨.delete, subsystem⟩) :
    view out.2.scope.object = view a.scope.object := by
  cases h with
  | deleted hcalls hsteps result hworld hspec hstatus =>
    rw [hview (AwsCluster.core_congr hspec hstatus)]
    refine hsteps.view_eq hview fun step hstep => ?_
    have hcall : step.1 ∈ Subsystem.deletionOrder.map (⟨.delete, ·⟩) :=
      hcalls ▸ List.mem_map_of_mem hstep
    obtain ⟨subsystem, -, heq⟩ := List.mem_map.1 hcall
    rw [← heq]
    exact hspares subsystem

/-! ### The metadata -/

theorem foreign_addFinalizer (scope : Scope) :
    scope.addFinalizer.2.object.metadata.foreign = scope.object.metadata.foreign := by
  rw [Scope.addFinalizer]
  split
  · rfl
  · simp [Scope.setFinalizers, Scope.modifyObject, Metadata.foreign]

theorem foreign_removeFinalizer (scope : Scope) :
    scope.removeFinalizer.2.object.metadata.foreign = scope.object.metadata.foreign := by
  rw [Scope.object_removeFinalizer]
  cases hfinalizers : scope.object.metadata.finalizers <;> simp [Metadata.foreign, hfinalizers]

theorem foreign_outcome (before after : AwsCluster) (version : Option String) :
    (Changes.outcome before after version).metadata.foreign = before.metadata.foreign := by
  have herase : ∀ finalizers : List String, (finalizers.erase clusterFinalizer).filter
      (· ≠ clusterFinalizer) = finalizers.filter (· ≠ clusterFinalizer) := by
    intro finalizers
    by_cases hmem : clusterFinalizer ∈ finalizers
    · obtain ⟨first, rest, -, hsplit, herased⟩ := List.exists_erase_eq hmem
      rw [herased, hsplit]
      simp
    · rw [List.erase_of_not_mem hmem]
  have hfilter : ((Changes.storedFinalizers before after).getD []).filter (· ≠ clusterFinalizer)
      = (before.metadata.finalizers.getD []).filter (· ≠ clusterFinalizer) := by
    rw [Changes.storedFinalizers]
    split
    · simp
    · cases before.metadata.finalizers with
      | none => rfl
      | some finalizers => exact herase finalizers
    · rfl
  simp only [Metadata.foreign, Changes.outcome, hfilter]

/-- The persisted state of a scope is replaced by copies with the same foreign metadata. -/
theorem respects_foreign : Respects (σ := σ) Metadata.foreign fun a b =>
    a.scope.object.metadata.foreign = a.scope.saved.metadata.foreign →
      b.scope.object.metadata.foreign = b.scope.saved.metadata.foreign ∧
      b.scope.saved.metadata.foreign = a.scope.saved.metadata.foreign where
  trans h h' hsame := by
    obtain ⟨hnext, hsaved⟩ := h hsame
    obtain ⟨hlast, hsaved'⟩ := h' hnext
    exact ⟨hlast, hsaved'.trans hsaved⟩
  advances h hsame := by
    rw [h.view, h.saved]
    exact ⟨hsame, rfl⟩
  persist a := by
    have hpersists := a.persists_of_persist
    generalize a.persist = persisted at hpersists
    rcases persisted with ⟨result, b⟩
    cases hpersists with
    | unchanged => exact fun hsame => ⟨hsame, rfl⟩
    | failed => exact fun hsame => ⟨hsame, rfl⟩
    | done => exact fun hsame => ⟨rfl, hsame⟩
  addFinalizer a hsame := by
    have hsaved : a.scope.addFinalizer.2.saved = a.scope.saved := a.scope.saved_edit .addFinalizer
    rw [foreign_addFinalizer, hsaved]
    exact ⟨hsame, rfl⟩

theorem Fresh.foreign_pass (h : a.Fresh) (hquiet : cloud.Quiet)
    (hkeeps : cloud.Keeps Metadata.foreign) (dnsRequeue : Nat) (deleting : Bool) :
    (a.pass cloud dnsRequeue deleting).2.scope.saved.metadata.foreign
      = a.scope.saved.metadata.foreign := by
  have hpass := (respects_foreign.pieces hquiet hkeeps).pass dnsRequeue deleting a fun b hsame => by
    have hsaved : b.scope.removeFinalizer.2.saved = b.scope.saved :=
      b.scope.saved_edit .removeFinalizer
    rw [foreign_removeFinalizer, hsaved]
    exact ⟨hsame, rfl⟩
  exact (hpass (by rw [h.object])).2

/-- Wherever the close of an attempt ends, what is stored has the foreign metadata of the persisted
state. -/
theorem Closable.foreign (h : a.Closable) {stored : AwsCluster}
    (hstored : a.persist.2.world.store.awsClusters.get? a.scope.saved.key = some stored) :
    stored.metadata.foreign = a.scope.saved.metadata.foreign := by
  rcases h.settles with ⟨message, faults, -, heq⟩ | ⟨store, faults, -, heq, hsettled⟩
  · rw [heq] at hstored
    cases h.held.symm.trans hstored
    rfl
  · rw [heq] at hstored
    obtain ⟨version, rfl⟩ := Scope.outcome_of_settled (hsettled.symm.trans hstored)
    exact foreign_outcome ..

end Attempt

namespace World

variable {dnsRequeue : Nat} {key other : ObjectKey} {cancelled : Bool} {world : World σ}
  {before stored : AwsCluster}

/-- The foreign metadata of the object at its key is left alone by an invocation. -/
theorem foreign_metadata_reconcile (hkeyed : world.store.Keyed) (hquiet : cloud.Quiet)
    (hspares : ∀ call, cloud.Spares AwsCluster.foreign call)
    (hbefore : world.store.awsClusters.get? key = some before)
    (hstored : (world.reconcile cloud dnsRequeue key cancelled).2.store.awsClusters.get? key
      = some stored) : stored.metadata.foreign = before.metadata.foreign := by
  have hkeeps : cloud.Keeps Metadata.foreign := fun call context object state =>
    congrArg (·.1) (hspares call context object state)
  have hkeepsKey : cloud.Keeps Metadata.key := by
    intro call context object state
    have hkey := congrArg Metadata.key (hkeeps call context object state)
    exact hkey
  have hinvoked := world.invoked_reconcile cloud dnsRequeue key cancelled
  generalize world.reconcile cloud dnsRequeue key cancelled = invocation at hinvoked hstored
  cases hinvoked with
  | failed =>
    cases hbefore.symm.trans hstored
    rfl
  | skipped =>
    cases hbefore.symm.trans hstored
    rfl
  | @passed mode scope faults hentry hadmits result b hrun =>
    cases hbefore.symm.trans hadmits.stored
    have hfresh := hadmits.fresh hkeyed faults cancelled
    have hkey := (Attempt.key_pass hquiet hkeepsKey dnsRequeue (mode = .deleting)
      { world := { world with faults }, scope, cancelled }).trans (hadmits.key_eq hkeyed)
    have hbased := hfresh.based_pass hquiet dnsRequeue (mode = .deleting)
    have hsaved := hfresh.foreign_pass hquiet hkeeps dnsRequeue (mode = .deleting)
    have hclosable := hadmits.closable hkeyed hbased hkey
    have hclosed : b = (Attempt.pass cloud dnsRequeue (mode = .deleting)
        { world := { world with faults }, scope, cancelled }).2.close.2 := by
      rw [← Attempt.finish_snd (Attempt.pass ..).1]
      exact (congrArg Prod.snd hrun).symm
    rw [← hsaved]
    refine hclosable.foreign ?_
    rw [hclosed] at hstored
    have hsavedKey := hclosable.key.symm.trans hkey
    rw [hsavedKey]
    exact hstored

/-- Closed, a pass leaves the foreign parts of spec and status as they were loaded. -/
theorem Concluded.foreign {mode : Mode} {a : Attempt σ}
    {out : Except ControllerError Outcome × Attempt σ}
    (h : world.Concluded cloud dnsRequeue key cancelled mode a out)
    (hspares : ∀ call, cloud.Spares AwsCluster.foreign call)
    (hbefore : world.store.awsClusters.get? key = some before)
    (hstored : (world.reconcile cloud dnsRequeue key cancelled).2.store.awsClusters.get? key
      = some stored) : stored.foreign.2 = before.foreign.2 := by
  obtain ⟨hspec, hstatus⟩ := h.shown hstored
  have howned : Mark.summary.IsOwned := fun type htype => by cases htype; decide
  have hsummary : out.2.concluded.scope.object.foreign = out.2.scope.object.foreign :=
    Mark.foreign_apply howned ..
  have hpass := h.exits.foreign hspares
  rw [h.object hbefore] at hpass
  rw [← hpass, ← hsummary]
  simp only [AwsCluster.foreign, AwsCluster.conditions, hstatus, hspec]
  rfl

/-- An invocation leaves what is foreign of the object at its key alone, and if the object is being
deleted, spec, failure domains and the ready flag as well. -/
theorem foreign_reconcile (hkeyed : world.store.Keyed) (hquiet : cloud.Quiet)
    (hspares : ∀ call, cloud.Spares AwsCluster.foreign call)
    (hlasting : ∀ subsystem, cloud.Spares AwsCluster.lasting ⟨.delete, subsystem⟩)
    (hstored : (world.reconcile cloud dnsRequeue key cancelled).2.store.awsClusters.get? key
      = some stored) :
    ∃ before, world.store.awsClusters.get? key = some before ∧ stored.foreign = before.foreign ∧
      (before.metadata.isDeleting = true → stored.lasting = before.lasting) := by
  have hkeeps : cloud.Keeps Metadata.key := by
    intro call context object state
    have hkey := congrArg (·.1.key) (hspares call context object state)
    exact hkey
  obtain ⟨before, hbefore, hleft⟩ := left_or_concludes hkeyed hquiet hkeeps hstored
  have hmetadata := foreign_metadata_reconcile hkeyed hquiet hspares hbefore hstored
  refine ⟨before, hbefore, ?_⟩
  rcases hleft with ⟨hspec, hstatus⟩ | ⟨mode, hconcludes⟩
  · refine ⟨?_, fun _ => AwsCluster.blind_lasting (AwsCluster.core_congr hspec hstatus)⟩
    simp only [AwsCluster.foreign, AwsCluster.conditions, hmetadata, hspec, hstatus]
  · obtain ⟨a, out, hconcluded⟩ := hconcludes.concluded hkeyed hquiet
    refine ⟨Prod.ext hmetadata (hconcluded.foreign hspares hbefore hstored), fun hdeleting => ?_⟩
    have hmode : mode = .deleting := by
      have hobserved := Mode.isDeleting_eq hconcluded.admits.observed hconcluded.admits.live
      rw [← hconcluded.fresh.object, hconcluded.object hbefore, hdeleting] at hobserved
      exact of_decide_eq_true hobserved.symm
    subst hmode
    have hexits : a.Exits cloud dnsRequeue true out := hconcluded.exits
    rw [hconcluded.view_eq AwsCluster.blind_lasting hstored,
      hexits.view_eq_of_deleted AwsCluster.blind_lasting hlasting, hconcluded.object hbefore]

/-- Whatever the gateway answers, and wherever an invocation ends, every stored object was stored
before, with the same foreign parts. An object that is being deleted keeps its spec, its failure
domains and its ready flag besides. -/
theorem writes_only_what_is_owned (gateway : Gateway τ) (hfronts : cloud.Fronts gateway)
    (dnsRequeue : Nat) (key : ObjectKey) (cancelled : Bool) (hkeyed : world.store.Keyed) :
    ∀ other stored,
      (world.reconcile cloud dnsRequeue key cancelled).2.store.awsClusters.get? other = some stored →
      ∃ before, world.store.awsClusters.get? other = some before ∧ stored.foreign = before.foreign ∧
        (before.metadata.isDeleting = true → stored.lasting = before.lasting) ∧
        (other ≠ key → stored = before) := by
  have hspares : ∀ call, cloud.Spares AwsCluster.foreign call := fun call =>
    hfronts.spares (Gateway.hides_foreign call)
  have hlasting : ∀ subsystem, cloud.Spares AwsCluster.lasting ⟨.delete, subsystem⟩ := fun subsystem =>
    hfronts.spares ⟨nofun, fun _ _ => rfl, fun _ _ => rfl, fun _ _ => rfl⟩
  intro other stored hstored
  by_cases hother : other = key
  · subst hother
    obtain ⟨before, hbefore, hforeign, hdeleting⟩ :=
      foreign_reconcile hkeyed hfronts.quiet hspares hlasting hstored
    exact ⟨before, hbefore, hforeign, hdeleting, fun hne => absurd rfl hne⟩
  · have hkeeps : cloud.Keeps Metadata.key := hfronts.confined.keeps Metadata.key
    have halone := others_reconcile dnsRequeue cancelled hkeyed
      (hfronts.quiet.sparesKey hkeeps other) trivial hother
    exact ⟨stored, halone.2.2.symm.trans hstored, rfl, fun _ => rfl, fun _ => rfl⟩

end World

namespace Sample

/-- The cloud behind that gateway. -/
def gatewayCloud : Cloud (Unit × Unit) := gateway.cloud fun _ _ => (.interrupted, ())

/-- An object with a finalizer and a condition of others. -/
def shared : AwsCluster :=
  { object (some ["other"]) with
    status := some { conditions := [.holds "Audited", .holds ConditionType.ready] } }

/-- The world in which that object is stored beside its owner. -/
def sharing : World (Unit × Unit) where
  store := (({} : Store).insertCluster owner).insertAwsCluster shared
  clock := { reading := fun _ => newYear }
  cloud := ((), ())

end Sample

namespace World

theorem vpc_of_sharing : ((Sample.sharing.reconcile Sample.gatewayCloud 15 Sample.key
    false).2.store.awsClusters.get? Sample.key).map (·.spec.network.vpc.id)
      = some (some "vpc-1") := by decide +kernel

/-- The object gets a network and loses nothing of others. -/
theorem shared_sample_keeps_foreign :
    ∃ stored, (Sample.sharing.reconcile Sample.gatewayCloud 15 Sample.key
        false).2.store.awsClusters.get? Sample.key = some stored ∧
      stored.foreign = Sample.shared.foreign ∧ stored.spec.network.vpc.id = some "vpc-1" := by
  obtain ⟨stored, hstored, hid⟩ := Option.map_eq_some_iff.1 vpc_of_sharing
  have hfronts : Sample.gatewayCloud.Fronts Sample.gateway := Sample.gateway.fronts_cloud _
  have hkeyed : Sample.sharing.store.Keyed := Store.keyed_empty.insertAwsCluster Sample.shared
  obtain ⟨before, hbefore, hforeign, -⟩ := writes_only_what_is_owned Sample.gateway hfronts 15
    Sample.key false hkeyed Sample.key stored hstored
  have hshared : Sample.sharing.store.awsClusters.get? Sample.key = some Sample.shared := by
    decide +kernel
  cases hshared.symm.trans hbefore
  exact ⟨stored, hstored, hforeign, hid⟩

end World

end ClusterInfra
