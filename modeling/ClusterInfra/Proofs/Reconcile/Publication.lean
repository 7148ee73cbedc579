import ClusterInfra.Proofs.Reconcile.Exits
/-!
What invocations publish of an object.

The ready flag, the failure domains and the endpoint of the control plane are set in one place: at
the end of a normal pass, once the DNS name of the load balancer resolves. Whatever services leave
alone of the object stays as it is in every other invocation, unless it is a condition.
-/

namespace ClusterInfra

variable {σ ν : Type} {cloud : Cloud σ}

namespace AwsCluster

theorem ne_empty_of_dnsName? {object : AwsCluster} {host : String}
    (h : object.dnsName? = some host) : host ≠ "" := by
  rw [dnsName?, Option.filter_eq_some_iff] at h
  rintro rfl
  exact absurd h.2 (by decide)

theorem blind_privateSubnets : Blind (·.privateSubnets) := fun _ _ h =>
  congrArg (·.1.network.subnets.filter (!·.isPublic)) h

/-- Other zones than those of the subnets are published as before. -/
theorem find?_withZones_of_not_mem {zone : String} : ∀ (subnets : List Subnet)
    (domains : Dict FailureDomain), zone ∉ subnets.map (·.availabilityZone) →
      (withZones domains subnets).find? zone = domains.find? zone
  | [], _, _ => rfl
  | subnet :: rest, domains, h => by
    rw [List.map_cons, List.mem_cons, not_or] at h
    have hrest := find?_withZones_of_not_mem rest
      (domains.insert subnet.availabilityZone { controlPlane := true }) h.2
    rw [Dict.find?_insert_of_ne _ h.1] at hrest
    exact hrest

end AwsCluster

namespace Attempt

variable {view : AwsCluster → ν} {dnsRequeue : Nat} {deleting : Bool} {host : String}
  {a b c : Attempt σ} {out : Except ControllerError Outcome × Attempt σ}

/-! ### The end of a pass -/

/-- The host of the load balancer resolves, and the object is published behind it. -/
structure Publishes (cloud : Cloud σ) (host : String) (a b : Attempt σ) : Prop where
  named : a.scope.object.dnsName? = some host
  resolved : cloud.lookUp host a.world.cloud = (.answered true, b.world.cloud)
  journal : b.world.journal = a.world.journal ++ [.lookedUp host a.held]
  object : ∃ balanced : AwsCluster, balanced.core = a.scope.object.core ∧
    b.scope.object = balanced.published host

theorem Publishes.spec (h : a.Publishes cloud host b) :
    b.scope.object.spec = a.scope.object.spec.reachedAt host := by
  obtain ⟨balanced, hcore, hobject⟩ := h.object
  have hspec : balanced.spec = a.scope.object.spec := congrArg Prod.fst hcore
  rw [hobject, ← hspec]
  rfl

theorem Publishes.dnsName? (h : a.Publishes cloud host b) :
    b.scope.object.dnsName? = some host := by
  obtain ⟨balanced, hcore, hobject⟩ := h.object
  have hname : balanced.dnsName? = a.scope.object.dnsName? := AwsCluster.blind_dnsName hcore
  rw [hobject, AwsCluster.dnsName?_eq, ← h.named, ← hname, AwsCluster.dnsName?_eq]
  rfl

theorem Publishes.ready (h : a.Publishes cloud host b) :
    b.scope.object.statusOrDefault.ready = true := by
  obtain ⟨balanced, -, hobject⟩ := h.object
  rw [hobject]
  rfl

theorem Publishes.failureDomains (h : a.Publishes cloud host b) :
    b.scope.object.statusOrDefault.failureDomains = AwsCluster.withZones
      a.scope.object.statusOrDefault.failureDomains a.scope.object.privateSubnets := by
  obtain ⟨balanced, hcore, hobject⟩ := h.object
  have hdomains : balanced.statusOrDefault.failureDomains
      = a.scope.object.statusOrDefault.failureDomains := congrArg (·.2.failureDomains) hcore
  have hsubnets : balanced.privateSubnets = a.scope.object.privateSubnets :=
    AwsCluster.blind_privateSubnets hcore
  rw [hobject, ← hdomains, ← hsubnets]
  rfl

/-- Waiting for the DNS name publishes the object, or it leaves all but conditions alone. -/
theorem Awaits.publishes_or_core (h : a.Awaits cloud dnsRequeue out) :
    (out.1 = .ok .noRequeue ∧ ∃ host, a.Publishes cloud host out.2) ∨
    (out.1 ≠ .ok .noRequeue ∧ out.2.scope.object.core = a.scope.object.core) := by
  have hwaiting : ∀ (scope : Scope) (reason message : String) (now : Instant),
      (scope.waiting reason message now).object.core = scope.object.core := by
    intro scope reason message now
    refine (scope.marked_report .loadBalancer reason .info message now).core fun mark hmem => ?_
    cases List.mem_singleton.1 hmem
    exact ⟨_, rfl⟩
  cases h with
  | unnamed hname => exact .inr ⟨nofun, hwaiting a.scope ..⟩
  | interrupted hname hlookUp =>
    rw [(spec_of_lookUp hlookUp).1]
    exact .inr ⟨nofun, rfl⟩
  | @unresolved host b hname hlookUp =>
    rw [← (spec_of_lookUp hlookUp).1]
    exact .inr ⟨nofun, hwaiting b.scope ..⟩
  | @resolved host b hname hlookUp =>
    obtain ⟨hanswer, hjournal⟩ := answer_of_lookUp hlookUp
    refine .inl ⟨rfl, host, hname, hanswer, hjournal, _, ?_, b.scope.object_publish_balanced host _⟩
    rw [Mark.core_apply rfl, (spec_of_lookUp hlookUp).1]

/-- What services and conditions leave alone is left alone by a pass, unless it publishes. -/
theorem Exits.view_eq (h : a.Exits cloud dnsRequeue deleting out) (hview : AwsCluster.Blind view)
    (hspares : ∀ call, cloud.Spares view call)
    (hother : deleting = true ∨ out.1 ≠ .ok .noRequeue) :
    view out.2.scope.object = view a.scope.object := by
  cases h with
  | unguarded message faults =>
    obtain ⟨hspec, hstatus⟩ := spec_addFinalizer a.scope
    exact hview (AwsCluster.core_congr hspec hstatus)
  | stopped hsecured horder hsteps =>
    rw [hsteps.view_eq hview fun step _ => hspares step.1]
    exact hview (AwsCluster.core_congr hsecured.spec hsecured.status)
  | reached hsecured hsteps hawaits =>
    rcases hawaits.publishes_or_core with ⟨hok, -⟩ | ⟨-, hcore⟩
    · rcases hother with hdeleting | hne
      · cases hdeleting
      · exact absurd hok hne
    · rw [hview hcore, hsteps.view_eq hview fun step _ => hspares step.1]
      exact hview (AwsCluster.core_congr hsecured.spec hsecured.status)
  | deleted hcalls hsteps result hworld hspec hstatus =>
    rw [hview (AwsCluster.core_congr hspec hstatus)]
    exact hsteps.view_eq hview fun step _ => hspares step.1

/-- A normal pass that asks for nothing more has secured the object, made all its calls, and
published the object. -/
theorem Exits.publishes (h : a.Exits cloud dnsRequeue false out) (hok : out.1 = .ok .noRequeue) :
    ∃ b c host, a.Secured b ∧ CarriedOut cloud b.scope.context Subsystem.creations b c ∧
      c.Publishes cloud host out.2 := by
  obtain ⟨b, c, hsecured, hsteps, hawaits⟩ := h.reached_of_ok hok
  rcases hawaits.publishes_or_core with ⟨-, host, hpublishes⟩ | ⟨hne, -⟩
  · exact ⟨b, c, host, hsecured, hsteps, hpublishes⟩
  · exact absurd hok hne

end Attempt

namespace World

variable {view : AwsCluster → ν} {dnsRequeue : Nat} {key : ObjectKey} {cancelled : Bool}
  {mode : Mode} {world : World σ} {a : Attempt σ}
  {out : Except ControllerError Outcome × Attempt σ} {stored : AwsCluster}

/-- An invocation enters a normal pass and asks for nothing more. -/
def Publishes (cloud : Cloud σ) (dnsRequeue : Nat) (key : ObjectKey) (cancelled : Bool)
    (world : World σ) : Prop :=
  world.Enters key .active ∧ (world.reconcile cloud dnsRequeue key cancelled).1 = .ok .noRequeue

/-- The summary is one of conditions, so everything else is stored as the pass left it. -/
theorem Concluded.view_eq (h : world.Concluded cloud dnsRequeue key cancelled mode a out)
    (hview : AwsCluster.Blind view)
    (hstored : (world.reconcile cloud dnsRequeue key cancelled).2.store.awsClusters.get? key
      = some stored) : view stored = view out.2.scope.object := by
  obtain ⟨hspec, hstatus⟩ := h.shown hstored
  have hplace : Mark.summary.place = .condition ConditionType.ready := rfl
  have hcore : out.2.concluded.scope.object.core = out.2.scope.object.core :=
    Mark.core_apply hplace out.2.world.clock.read.1 out.2.scope.object
  have hshown : stored.core = out.2.concluded.scope.object.core :=
    AwsCluster.core_congr hspec hstatus
  exact hview (hshown.trans hcore)

/-- What services and conditions leave alone is left alone of every object by an invocation, unless
the invocation publishes that object. -/
theorem view_reconcile (hkeyed : world.store.Keyed) (hquiet : cloud.Quiet)
    (hkeeps : cloud.Keeps Metadata.key) (hview : AwsCluster.Blind view)
    (hspares : ∀ call, cloud.Spares view call) {other : ObjectKey}
    (hother : other ≠ key ∨ ¬ world.Publishes cloud dnsRequeue key cancelled)
    (hstored : (world.reconcile cloud dnsRequeue key cancelled).2.store.awsClusters.get? other
      = some stored) :
    ∃ before, world.store.awsClusters.get? other = some before ∧ view stored = view before := by
  by_cases hsame : other = key
  · subst hsame
    obtain ⟨before, hbefore, ⟨hspec, hstatus⟩ | ⟨mode, hconcludes⟩⟩ :=
      left_or_concludes hkeyed hquiet hkeeps hstored
    · exact ⟨before, hbefore, hview (AwsCluster.core_congr hspec hstatus)⟩
    · obtain ⟨a, out, hconcluded⟩ := hconcludes.concluded hkeyed hquiet
      refine ⟨before, hbefore, ?_⟩
      rw [hconcluded.view_eq hview hstored, ← hconcluded.object hbefore]
      refine hconcluded.exits.view_eq hview hspares ?_
      rcases hconcluded.admits.live with rfl | rfl
      · refine .inr fun hok => hother.resolve_left (fun hne => hne rfl) ⟨?_, ?_⟩
        · obtain ⟨scope, entered, henter, -⟩ := hconcludes
          exact ⟨scope, entered, henter⟩
        · rw [hconcluded.reconcile]
          exact hok
      · exact .inl rfl
  · have halone := others_reconcile dnsRequeue cancelled hkeyed (hquiet.sparesKey hkeeps other)
      trivial hsame
    exact ⟨stored, halone.2.2.symm.trans hstored, rfl⟩

/-- How an invocation came to publish an object: its pass has secured the object, made all calls
with success, and published what they left, and that is stored. -/
structure Publishing (cloud : Cloud σ) (dnsRequeue : Nat) (key : ObjectKey) (cancelled : Bool)
    (world : World σ) (a b c : Attempt σ) (out : Except ControllerError Outcome × Attempt σ)
    (host : String) (stored : AwsCluster) : Prop where
  concluded : world.Concluded cloud dnsRequeue key cancelled .active a out
  ok : out.1 = .ok .noRequeue
  secured : a.Secured b
  steps : Attempt.CarriedOut cloud b.scope.context Subsystem.creations b c
  publishes : c.Publishes cloud host out.2
  stored : (world.reconcile cloud dnsRequeue key cancelled).2.store.awsClusters.get? key
    = some stored

theorem Publishes.publishing (h : world.Publishes cloud dnsRequeue key cancelled)
    (hkeyed : world.store.Keyed) (hquiet : cloud.Quiet) (hkeeps : cloud.Keeps Metadata.key) :
    ∃ a b c out host stored,
      world.Publishing cloud dnsRequeue key cancelled a b c out host stored := by
  obtain ⟨henters, hok⟩ := h
  obtain ⟨a, out, hconcluded⟩ :=
    (henters.concludes hkeyed hquiet hkeeps hok).concluded hkeyed hquiet
  rw [hconcluded.reconcile] at hok
  obtain ⟨b, c, host, hsecured, hsteps, hpublishes⟩ := hconcluded.exits.publishes hok
  obtain ⟨stored, hstored⟩ := hconcluded.remains rfl
  refine ⟨a, b, c, out, host, stored, hconcluded, hok, hsecured, hsteps, hpublishes, ?_⟩
  rw [hconcluded.reconcile]
  exact hstored

namespace Publishing

variable {b c : Attempt σ} {host : String} {before : AwsCluster}

theorem spec (h : world.Publishing cloud dnsRequeue key cancelled a b c out host stored) :
    stored.spec = c.scope.object.spec.reachedAt host := by
  rw [(h.concluded.shown h.stored).1, h.publishes.spec]

theorem privateSubnets (h : world.Publishing cloud dnsRequeue key cancelled a b c out host stored) :
    stored.privateSubnets = c.scope.object.privateSubnets := by
  rw [AwsCluster.privateSubnets, h.spec]
  rfl

theorem dnsName? (h : world.Publishing cloud dnsRequeue key cancelled a b c out host stored) :
    stored.dnsName? = some host := by
  rw [h.concluded.view_eq AwsCluster.blind_dnsName h.stored, h.publishes.dnsName?]

theorem resolved (h : world.Publishing cloud dnsRequeue key cancelled a b c out host stored) :
    cloud.lookUp host c.world.cloud
      = (.answered true, (world.reconcile cloud dnsRequeue key cancelled).2.cloud) := by
  rw [h.concluded.cloud_eq]
  exact h.publishes.resolved

/-- What the services and conditions leave alone is published as it was stored. -/
theorem view_eq (h : world.Publishing cloud dnsRequeue key cancelled a b c out host stored)
    (hview : AwsCluster.Blind view) (hspares : ∀ call, cloud.Spares view call)
    (hbefore : world.store.awsClusters.get? key = some before) :
    view c.scope.object = view before := by
  rw [h.steps.view_eq hview fun step _ => hspares step.1, ← h.concluded.object hbefore]
  exact hview (AwsCluster.core_congr h.secured.spec h.secured.status)

end Publishing

end World

end ClusterInfra
