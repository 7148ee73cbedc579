import ClusterInfra.Proofs.Reconcile.Publication
import ClusterInfra.Proofs.Reconcile.Summary
/-!
Readiness is published only when it is earned.

With services that keep to the network and the bastion, the ready flag, the failure domains and the
endpoint of an object change in one kind of invocation only: a normal pass that asks for nothing
more. Such a pass has seen every call succeed and the DNS name resolve, and it leaves the object
stored with its finalizer, its conditions and its zones.
-/

namespace ClusterInfra

variable {σ ν : Type} {cloud : Cloud σ}

/-- What is published of an object. -/
structure Publication where
  ready : Bool
  failureDomains : Dict FailureDomain
  controlPlaneEndpoint : Endpoint

/-- What a spec and a status publish. -/
def Publication.of (spec : AwsClusterSpec) (status : AwsClusterStatus) : Publication :=
  ⟨status.ready, status.failureDomains, spec.controlPlaneEndpoint⟩

def AwsCluster.publication (object : AwsCluster) : Publication :=
  .of object.spec object.statusOrDefault

theorem AwsCluster.blind_publication : Blind publication := fun _ _ h =>
  congrArg (fun core : AwsClusterSpec × AwsClusterStatus => Publication.of core.1 core.2) h

theorem Cloud.Confined.publication (h : cloud.Confined) (call : ServiceCall) :
    cloud.Spares AwsCluster.publication call := by
  intro context object state
  have hreserved := h call context object state
  exact congrArg (fun reserved : Metadata × AwsClusterSpec × AwsClusterStatus =>
    Publication.of reserved.2.1 reserved.2.2) hreserved

/-- An endpoint that was set at a host has a host. -/
theorem AwsClusterSpec.host_reachedAt (spec : AwsClusterSpec) {host : String} (h : host ≠ "") :
    (spec.reachedAt host).controlPlaneEndpoint.host ≠ "" := by
  rw [reachedAt]
  simp only
  split
  next => exact h
  next hset =>
    intro hempty
    rw [Endpoint.isZero, hempty] at hset
    exact hset rfl

namespace Attempt

variable {view : AwsCluster → ν} {context : ServiceContext} {call : ServiceCall} {dnsRequeue : Nat}
  {a b : Attempt σ}

/-- After a call that succeeded, what is not a condition is as the service left it. -/
theorem view_carryOut_of_ok (hview : AwsCluster.Blind view)
    (h : a.carryOut cloud context call = (.ok (), b)) :
    view b.scope.object
      = view (cloud.call call context a.scope.object a.world.cloud).1.object := by
  have hobject := hview (a.core_carryOut cloud context call)
  have hok := a.fst_carryOut cloud context call
  rw [h] at hobject hok
  rw [hobject]
  rw [call_eq] at hok ⊢
  split at hok
  · cases hok
  next hrunning =>
    rw [if_neg hrunning]
    rfl

/-- What only the call for the network touches is as that call left it. -/
theorem CarriedOut.view_eq_network (h : CarriedOut cloud context Subsystem.creations a b)
    (hview : AwsCluster.Blind view)
    (hspares : ∀ call, call ≠ ⟨.reconcile, .network⟩ → cloud.Spares view call) :
    view b.scope.object = view
      (cloud.call ⟨.reconcile, .network⟩ context a.scope.object a.world.cloud).1.object := by
  have hothers : ∀ step ∈ Subsystem.creations.tail, step.1 ≠ ⟨.reconcile, .network⟩ := by decide
  rcases h with _ | ⟨hcall, hrest⟩
  rw [hrest.view_eq hview fun step hmem => hspares step.1 (hothers step hmem),
    view_carryOut_of_ok hview hcall]

/-- A normal pass that succeeds leaves the object stored with its finalizer. -/
theorem Fresh.holds_close (h : a.Fresh) (hquiet : cloud.Quiet) (hkeeps : cloud.Keeps id)
    {outcome : Outcome} (hok : (a.runNormal cloud dnsRequeue).1 = .ok outcome) :
    (a.runNormal cloud dnsRequeue).2.close.2.world.store.Holds a.scope.saved.key := by
  rcases h.ensureFinalizer with ⟨message, faults, -, hensure⟩ | ⟨b, hensure, hsecured⟩
  · rw [runNormal_of_error hensure] at hok
    cases hok
  · have hheld : b.world.store.awsClusters.get? a.scope.saved.key = some b.scope.saved := by
      rw [← (hsecured.based h).key]
      exact hsecured.held
    have hholds : b.world.store.Holds a.scope.saved.key :=
      ⟨b.scope.saved, hheld, hsecured.unstaged ▸ hsecured.finalizer⟩
    have hworked := respects_retains.advances (advances_runNormal hquiet hkeeps dnsRequeue hensure)
    have hretains := respects_retains.trans hworked
      ((respects_retains.pieces hquiet hkeeps).close _)
    exact (hretains fun _ => hsecured.finalizer).2 _ hholds

end Attempt

/-! ### Services that lay out subnets -/

/-- Services that lay out the subnets anew in their calls. -/
def Cloud.laying (layout : ServiceCall → List Subnet → List Subnet) : Cloud Unit :=
  .changing fun call object =>
    let subnets := layout call object.spec.network.subnets
    let network := { object.spec.network with subnets }
    { object with spec := { object.spec with network } }

theorem Cloud.confined_laying (layout : ServiceCall → List Subnet → List Subnet) :
    (Cloud.laying layout).Confined := fun _ _ _ _ => rfl

/-- When one subsystem is reconciled, it lays out a private subnet in a zone. -/
def Sample.layout (subsystem : Subsystem) (availabilityZone : String) (call : ServiceCall)
    (subnets : List Subnet) : List Subnet :=
  if call = ⟨.reconcile, subsystem⟩ then [{ availabilityZone }] else subnets

/-- The network has a subnet in one zone, and the load balancer one in another instead. -/
def Sample.relayout (call : ServiceCall) (subnets : List Subnet) : List Subnet :=
  layout .network "eu-west-1a" call (layout .loadBalancer "eu-west-1b" call subnets)

namespace World

variable {dnsRequeue : Nat} {key : ObjectKey} {cancelled : Bool} {world : World σ}
  {before stored : AwsCluster} {host : String}

/-- Between two worlds an object was published, and this was earned: all calls succeeded, and the
DNS name of the load balancer resolved. -/
structure Earned (cloud : Cloud σ) (world after : World σ) (before stored : AwsCluster)
    (host : String) : Prop where
  calls : ∃ events, after.journal = world.journal ++ events ∧
    Event.returns events = [(⟨.reconcile, .network⟩, .done), (⟨.reconcile, .securityGroups⟩, .done),
      (⟨.reconcile, .bastion⟩, .done), (⟨.reconcile, .loadBalancer⟩, .done)] ∧
    Event.hosts events = [host]
  named : stored.dnsName? = some host ∧ host ≠ ""
  resolved : ∃ asked, cloud.lookUp host asked = (.answered true, after.cloud)
  finalizer : stored.hasFinalizer = true
  ready : stored.statusOrDefault.ready = true
  settled : stored.Settled
  endpoint : stored.spec.controlPlaneEndpoint.host ≠ ""
  zones : ∀ zone, stored.statusOrDefault.failureDomains.find? zone =
    if zone ∈ stored.privateSubnets.map (·.availabilityZone) then some { controlPlane := true }
    else before.statusOrDefault.failureDomains.find? zone

/-- The private subnets are those that the call for the network left, if the other calls leave them
alone. -/
def Reported (cloud : Cloud σ) (world : World σ) (key : ObjectKey) (before stored : AwsCluster) :
    Prop :=
  (∀ call, call ≠ ⟨.reconcile, .network⟩ → cloud.Spares (·.privateSubnets) call) →
    ∃ given : AwsCluster, given.spec = before.spec ∧ given.status = before.status ∧
      stored.privateSubnets = (cloud.call ⟨.reconcile, .network⟩
        ⟨before.spec.region, key.ns, key.name⟩ given world.cloud).1.object.privateSubnets

namespace Publishing

variable {a b c : Attempt σ} {out : Except ControllerError Outcome × Attempt σ}

/-- All calls were made with success, and then the host was looked up. -/
theorem calls (h : world.Publishing cloud dnsRequeue key cancelled a b c out host stored) :
    ∃ events, (world.reconcile cloud dnsRequeue key cancelled).2.journal
        = world.journal ++ events ∧
      Event.returns events = Subsystem.creations.map (fun step => (step.1, .done)) ∧
      Event.hosts events = [host] := by
  obtain ⟨store, faults', hworld, -⟩ := h.secured.world
  obtain ⟨events, hevents, htells⟩ := h.steps.tells
  refine ⟨events ++ [.lookedUp host c.held], h.concluded.journal_eq ?_, ?_, ?_⟩
  · rw [h.publishes.journal, hevents, hworld, List.append_assoc]
  · rw [Event.returns_append, htells.done (by decide)]
    rfl
  · rw [Event.hosts_append, htells.hosts]
    rfl

theorem hasFinalizer (h : world.Publishing cloud dnsRequeue key cancelled a b c out host stored)
    (hkeyed : world.store.Keyed) (hquiet : cloud.Quiet) (hkeeps : cloud.Keeps id) :
    stored.hasFinalizer = true := by
  have hpass : a.runNormal cloud dnsRequeue = out := h.concluded.pass
  have hholds := h.concluded.fresh.holds_close hquiet hkeeps ((congrArg Prod.fst hpass).trans h.ok)
  rw [hpass, hkeyed key _ h.concluded.admits.stored] at hholds
  obtain ⟨found, hfound, hfinalizer⟩ := hholds
  have hstored := h.stored
  rw [h.concluded.reconcile] at hstored
  cases hstored.symm.trans hfound
  exact hfinalizer

/-- The zones are those of the private subnets, in front of those that were published before. -/
theorem zones (h : world.Publishing cloud dnsRequeue key cancelled a b c out host stored)
    (hspares : ∀ call, cloud.Spares AwsCluster.publication call)
    (hbefore : world.store.awsClusters.get? key = some before) (zone : String) :
    stored.statusOrDefault.failureDomains.find? zone =
      if zone ∈ stored.privateSubnets.map (·.availabilityZone) then some { controlPlane := true }
      else before.statusOrDefault.failureDomains.find? zone := by
  have hdomains : c.scope.object.statusOrDefault.failureDomains
      = before.statusOrDefault.failureDomains :=
    congrArg (·.failureDomains) (h.view_eq AwsCluster.blind_publication hspares hbefore)
  have hshown : stored.statusOrDefault.failureDomains
      = out.2.scope.object.statusOrDefault.failureDomains :=
    congrArg (·.failureDomains) (h.concluded.view_eq AwsCluster.blind_publication h.stored)
  rw [hshown, h.publishes.failureDomains, hdomains, h.privateSubnets]
  split
  next hmem =>
    refine AwsCluster.find?_withZones _ _ (.inr ?_)
    simpa only [List.mem_map] using hmem
  next hmem => exact AwsCluster.find?_withZones_of_not_mem _ _ hmem

theorem earned (h : world.Publishing cloud dnsRequeue key cancelled a b c out host stored)
    (hkeyed : world.store.Keyed) (hquiet : cloud.Quiet) (hconfined : cloud.Confined)
    (hbefore : world.store.awsClusters.get? key = some before) :
    Earned cloud world (world.reconcile cloud dnsRequeue key cancelled).2 before stored host where
  calls := h.calls
  named := ⟨h.dnsName?, AwsCluster.ne_empty_of_dnsName? h.dnsName?⟩
  resolved := ⟨_, h.resolved⟩
  finalizer := h.hasFinalizer hkeyed hquiet (hconfined.keeps id)
  ready := by
    have hready : stored.statusOrDefault.ready = out.2.scope.object.statusOrDefault.ready :=
      congrArg (·.ready) (h.concluded.view_eq AwsCluster.blind_publication h.stored)
    rw [hready, h.publishes.ready]
  settled := h.concluded.settled hconfined.impartial h.ok h.stored
  endpoint := by
    rw [h.spec]
    exact AwsClusterSpec.host_reachedAt _ (AwsCluster.ne_empty_of_dnsName? h.dnsName?)
  zones := h.zones hconfined.publication hbefore

theorem reported (h : world.Publishing cloud dnsRequeue key cancelled a b c out host stored)
    (hkeyed : world.store.Keyed) (hbefore : world.store.awsClusters.get? key = some before) :
    Reported cloud world key before stored := by
  intro hspares
  obtain ⟨faults, hentered⟩ := h.concluded.entered
  obtain ⟨store, faults', hworld, -⟩ := h.secured.world
  have hobject := h.concluded.object hbefore
  have hkey : b.scope.object.key = key := by
    rw [h.secured.unstaged, (h.secured.based h.concluded.fresh).key,
      hkeyed key _ h.concluded.admits.stored]
  have hcontext : b.scope.context = ⟨before.spec.region, key.ns, key.name⟩ := by
    rw [Scope.context, Scope.key, hkey, h.secured.spec, hobject]
  have hsubnets := h.steps.view_eq_network AwsCluster.blind_privateSubnets hspares
  rw [hcontext, hworld, hentered] at hsubnets
  refine ⟨b.scope.object, ?_, ?_, ?_⟩
  · rw [h.secured.spec, hobject]
  · rw [h.secured.status, hobject]
  · rw [h.privateSubnets]
    exact hsubnets

end Publishing

/-- Whatever happens in a run: a normal pass that asks for nothing more has seen all its calls
succeed and the DNS name resolve. It leaves the object stored with its finalizer, ready, with an
endpoint, with its conditions, and with the zones of its private subnets, which are those that the
network was reported to have if no later call changes them. Every other invocation leaves what is
published of any object as it was. -/
theorem publication_is_earned (hconfined : cloud.Confined) (hquiet : cloud.Quiet)
    (hworld : world.Reachable cloud dnsRequeue) (key : ObjectKey) (cancelled : Bool) :
    (world.Publishes cloud dnsRequeue key cancelled → ∃ before stored host,
      world.store.awsClusters.get? key = some before ∧
      (world.reconcile cloud dnsRequeue key cancelled).2.store.awsClusters.get? key = some stored ∧
      Earned cloud world (world.reconcile cloud dnsRequeue key cancelled).2 before stored host ∧
      Reported cloud world key before stored) ∧
    ∀ other stored, other ≠ key ∨ ¬ world.Publishes cloud dnsRequeue key cancelled →
      (world.reconcile cloud dnsRequeue key cancelled).2.store.awsClusters.get? other = some stored →
      ∃ before, world.store.awsClusters.get? other = some before ∧
        stored.publication = before.publication := by
  have hkeyed := hworld.keyed hquiet
  refine ⟨fun hpublishes => ?_, fun other stored hother hstored => ?_⟩
  · obtain ⟨a, b, c, out, host, stored, h⟩ :=
      hpublishes.publishing hkeyed hquiet (hconfined.keeps _)
    have hbefore := h.concluded.admits.stored
    exact ⟨_, stored, host, hbefore, h.stored, h.earned hkeyed hquiet hconfined hbefore,
      h.reported hkeyed hbefore⟩
  · exact view_reconcile hkeyed hquiet (hconfined.keeps _) AwsCluster.blind_publication
      hconfined.publication hother hstored

/-- The zones that a sample network is reported to have are published. -/
theorem sample_publication_is_earned :
    (Sample.holding (Sample.named [])).Publishes (.laying (Sample.layout .network "eu-west-1a")) 15
      Sample.key false ∧
    ∃ stored, ((Sample.holding (Sample.named [])).reconcile
        (.laying (Sample.layout .network "eu-west-1a")) 15 Sample.key false).2.store.awsClusters.get?
          Sample.key = some stored ∧ stored.hasFinalizer = true ∧
      stored.statusOrDefault.failureDomains.find? "eu-west-1a" = some { controlPlane := true } := by
  have hpublishes : (Sample.holding (Sample.named [])).Publishes
      (.laying (Sample.layout .network "eu-west-1a")) 15 Sample.key false := by
    have hentered : ((Sample.holding (Sample.named [])).enter Sample.key).1
        = .ok (some (.active, ⟨Sample.owner, Sample.named [], Sample.named []⟩)) := by
      decide +kernel
    exact ⟨enters_of_fst hentered, by decide +kernel⟩
  obtain ⟨before, stored, host, -, hstored, hearned, hreported⟩ := (publication_is_earned
    (Cloud.confined_laying _) (Cloud.quiet_changing _) (Sample.reachable_stored _ (Sample.named []))
    Sample.key false).1 hpublishes
  obtain ⟨given, -, -, hsubnets⟩ := hreported fun call hne context object state => by
    simp only [Cloud.laying, Cloud.changing, Sample.layout, if_neg hne]
  refine ⟨hpublishes, stored, hstored, hearned.finalizer, ?_⟩
  rw [hearned.zones, hsubnets]
  rfl

/-- If the load balancer lays out the subnets anew, its zones are published, not those that the
network was reported to have. -/
theorem zones_follow_last_layout :
    (Cloud.laying Sample.relayout).Confined ∧
    ((Sample.holding (Sample.named [])).reconcile (.laying Sample.relayout) 15 Sample.key false).1
      = .ok .noRequeue ∧
    (((Sample.holding (Sample.named [])).reconcile (.laying Sample.relayout) 15 Sample.key
        false).2.store.awsClusters.get? Sample.key).map (fun stored =>
          (stored.statusOrDefault.failureDomains.find? "eu-west-1a",
            stored.statusOrDefault.failureDomains.find? "eu-west-1b"))
      = some (none, some { controlPlane := true }) :=
  ⟨Cloud.confined_laying _, by decide +kernel, by decide +kernel⟩

end World

end ClusterInfra
