import ClusterInfra.Proofs.Reconcile.Publication
/-!
The endpoint of the control plane is set once.

Kubeconfigs and certificates are issued for the endpoint, so it must not change under a cluster. It
is taken for set if it has both a host and a port: then no invocation changes it, wherever the DNS
name of the load balancer moves. One that lacks either is set as soon as the DNS name resolves.
-/

namespace ClusterInfra

variable {σ : Type} {cloud : Cloud σ}

theorem Endpoint.isZero_eq_true_iff {endpoint : Endpoint} :
    endpoint.isZero = true ↔ endpoint.host = "" ∨ endpoint.port = 0 := by
  rw [isZero, Bool.or_eq_true, String.isEmpty_iff, decide_eq_true_iff]

theorem AwsCluster.blind_controlPlaneEndpoint : Blind (·.spec.controlPlaneEndpoint) := fun _ _ h =>
  congrArg (·.1.controlPlaneEndpoint) h

namespace AwsClusterSpec

variable {spec : AwsClusterSpec}

/-- An endpoint that is set stays. -/
theorem endpoint_reachedAt_of_set (h : spec.controlPlaneEndpoint.isZero = false) (host : String) :
    (spec.reachedAt host).controlPlaneEndpoint = spec.controlPlaneEndpoint := by
  simp [reachedAt, h]

theorem endpoint_reachedAt_of_isZero (h : spec.controlPlaneEndpoint.isZero = true) (host : String) :
    (spec.reachedAt host).controlPlaneEndpoint
      = ⟨host, (spec.reachedAt host).apiServerPort.getD defaultApiServerPort⟩ := by
  simp [reachedAt, h]

end AwsClusterSpec

/-- The sample with a DNS name and this endpoint. -/
def Sample.reachedAt (controlPlaneEndpoint : Endpoint) : AwsCluster :=
  { named [] with spec := { (named []).spec with controlPlaneEndpoint } }

/-- The object under another name. -/
def AwsCluster.renamed (name : String) (object : AwsCluster) : AwsCluster :=
  { object with metadata := { object.metadata with name } }

namespace World

variable {dnsRequeue : Nat} {key : ObjectKey} {cancelled : Bool} {world : World σ}
  {endpoint : Endpoint} {before : AwsCluster}

/-- The object at a key, if it is stored, has an endpoint. -/
def ReachedAt (key : ObjectKey) (endpoint : Endpoint) (world : World σ) : Prop :=
  ∀ stored, world.store.awsClusters.get? key = some stored →
    stored.spec.controlPlaneEndpoint = endpoint

/-- A step stores an object at a key, in place of the reconciler. -/
def Step.Stores (key : ObjectKey) : Step → Prop
  | .putAwsCluster object => object.key = key
  | .putCluster _ | .inject _ | .reconcile _ _ => False

section

variable (hquiet : cloud.Quiet) (hkeeps : cloud.Keeps Metadata.key)
  (hspares : ∀ call, cloud.Spares (·.spec.controlPlaneEndpoint) call)

include hquiet hkeeps hspares

/-- No invocation changes an endpoint that is set. -/
theorem ReachedAt.reconcile (h : world.ReachedAt key endpoint) (hkeyed : world.store.Keyed)
    (hset : endpoint.isZero = false) (dnsRequeue : Nat) (other : ObjectKey) (cancelled : Bool) :
    (world.reconcile cloud dnsRequeue other cancelled).2.ReachedAt key endpoint := by
  intro stored hstored
  by_cases hother : key ≠ other ∨ ¬ world.Publishes cloud dnsRequeue other cancelled
  · obtain ⟨before, hbefore, heq⟩ := view_reconcile hkeyed hquiet hkeeps
      AwsCluster.blind_controlPlaneEndpoint hspares hother hstored
    exact heq.trans (h before hbefore)
  · rw [not_or, Classical.not_not, Classical.not_not] at hother
    obtain ⟨rfl, hpublishes⟩ := hother
    obtain ⟨a, b, c, out, host, stored', hpublishing⟩ :=
      hpublishes.publishing hkeyed hquiet hkeeps
    cases hstored.symm.trans hpublishing.stored
    have hbefore := hpublishing.concluded.admits.stored
    have hleft := hpublishing.view_eq AwsCluster.blind_controlPlaneEndpoint hspares hbefore
    have hendpoint : c.scope.object.spec.controlPlaneEndpoint = endpoint :=
      hleft.trans (h _ hbefore)
    rw [hpublishing.spec, AwsClusterSpec.endpoint_reachedAt_of_set (hendpoint ▸ hset), hendpoint]

theorem ReachedAt.perform (h : world.ReachedAt key endpoint) (hkeyed : world.store.Keyed)
    (hset : endpoint.isZero = false) {step : Step} (hstep : ¬ step.Stores key) :
    (perform cloud dnsRequeue world step).ReachedAt key endpoint := by
  cases step with
  | putAwsCluster object =>
    intro stored hstored
    exact h stored ((Table.get?_insert_of_ne _ (Ne.symm hstep) _).symm.trans hstored)
  | putCluster cluster => exact h
  | inject fault => exact h
  | reconcile other cancelled =>
    exact h.reconcile hquiet hkeeps hspares hkeyed hset dnsRequeue other cancelled

/-- No run changes an endpoint that is set, as long as nobody stores the object anew. -/
theorem ReachedAt.foldl (hset : endpoint.isZero = false) : ∀ (steps : List Step) {world : World σ},
    world.ReachedAt key endpoint → world.store.Keyed → (∀ step ∈ steps, ¬ step.Stores key) →
      (steps.foldl (World.perform cloud dnsRequeue) world).ReachedAt key endpoint := by
  intro steps
  induction steps with
  | nil => exact fun h _ _ => h
  | cons step rest ih =>
    intro world h hkeyed hsteps
    rw [List.forall_mem_cons] at hsteps
    exact ih (h.perform hquiet hkeeps hspares hkeyed hset hsteps.1)
      (keyed_perform hquiet dnsRequeue hkeyed step) hsteps.2

/-- An endpoint that is not set becomes the host that resolved, with the port of the API server. -/
theorem Publishes.reached (h : world.Publishes cloud dnsRequeue key cancelled)
    (hkeyed : world.store.Keyed) (hbefore : world.store.awsClusters.get? key = some before)
    (hzero : before.spec.controlPlaneEndpoint.isZero = true) :
    ∃ stored host asked,
      (world.reconcile cloud dnsRequeue key cancelled).2.store.awsClusters.get? key = some stored ∧
      stored.dnsName? = some host ∧
      cloud.lookUp host asked
        = (.answered true, (world.reconcile cloud dnsRequeue key cancelled).2.cloud) ∧
      stored.spec.controlPlaneEndpoint = ⟨host, stored.spec.apiServerPort.getD 6443⟩ := by
  obtain ⟨a, b, c, out, host, stored, hpublishing⟩ := h.publishing hkeyed hquiet hkeeps
  have hleft := hpublishing.view_eq AwsCluster.blind_controlPlaneEndpoint hspares hbefore
  refine ⟨stored, host, _, hpublishing.stored, hpublishing.dnsName?, hpublishing.resolved, ?_⟩
  rw [hpublishing.spec]
  exact AwsClusterSpec.endpoint_reachedAt_of_isZero (hleft ▸ hzero) host

end

/-- Whatever happens in a run, and wherever the DNS name moves: once an object has an endpoint with
both a host and a port, no number of steps changes it, unless somebody stores the object anew. If
either is missing, a normal pass that asks for nothing more sets the endpoint to the host that
resolved and to the port of the API server. -/
theorem endpoint_is_set_once (hquiet : cloud.Quiet) (hkeeps : cloud.Keeps Metadata.key)
    (hspares : ∀ call, cloud.Spares (·.spec.controlPlaneEndpoint) call)
    (hworld : world.Reachable cloud dnsRequeue)
    (hbefore : world.store.awsClusters.get? key = some before) :
    (before.spec.controlPlaneEndpoint.host ≠ "" ∧ before.spec.controlPlaneEndpoint.port ≠ 0 →
      ∀ steps : List Step, (∀ step ∈ steps, ¬ step.Stores key) → ∀ stored,
      (steps.foldl (perform cloud dnsRequeue) world).store.awsClusters.get? key = some stored →
      stored.spec.controlPlaneEndpoint = before.spec.controlPlaneEndpoint) ∧
    (before.spec.controlPlaneEndpoint.host = "" ∨ before.spec.controlPlaneEndpoint.port = 0 →
      ∀ cancelled, world.Publishes cloud dnsRequeue key cancelled → ∃ stored host asked,
      (world.reconcile cloud dnsRequeue key cancelled).2.store.awsClusters.get? key = some stored ∧
      stored.dnsName? = some host ∧
      cloud.lookUp host asked
        = (.answered true, (world.reconcile cloud dnsRequeue key cancelled).2.cloud) ∧
      stored.spec.controlPlaneEndpoint = ⟨host, stored.spec.apiServerPort.getD 6443⟩) := by
  have hkeyed := hworld.keyed hquiet
  refine ⟨?_, ?_⟩
  · rintro ⟨hhost, hport⟩ steps hsteps
    have hset : before.spec.controlPlaneEndpoint.isZero = false := by
      rw [Bool.eq_false_iff, Ne, Endpoint.isZero_eq_true_iff, not_or]
      exact ⟨hhost, hport⟩
    refine ReachedAt.foldl hquiet hkeeps hspares hset steps ?_ hkeyed hsteps
    intro stored hstored
    cases hstored.symm.trans hbefore
    rfl
  · intro hunset cancelled hpublishes
    exact hpublishes.reached hquiet hkeeps hspares hkeyed hbefore
      (Endpoint.isZero_eq_true_iff.2 hunset)

/-- The endpoint of a sample is set to its load balancer with the default port, and an endpoint that
was set beforehand stays through two invocations. -/
theorem sample_endpoint_is_set_once :
    (∃ stored, ((Sample.holding (Sample.reachedAt {})).reconcile Cloud.obliging 15 Sample.key
        false).2.store.awsClusters.get? Sample.key = some stored ∧
      stored.spec.controlPlaneEndpoint.port = 6443) ∧
    ∃ stored, ([.reconcile Sample.key false, .reconcile Sample.key false].foldl
        (perform Cloud.obliging 15) (Sample.holding (Sample.reachedAt
          ⟨"api.example.com", 443⟩))).store.awsClusters.get? Sample.key = some stored ∧
      stored.spec.controlPlaneEndpoint = ⟨"api.example.com", 443⟩ := by
  have hstored : ∀ endpoint, (Sample.holding (Sample.reachedAt endpoint)).store.awsClusters.get?
      Sample.key = some (Sample.reachedAt endpoint) := fun endpoint => Table.get?_insert_self ..
  have hspares : ∀ call, Cloud.obliging.Spares (·.spec.controlPlaneEndpoint) call :=
    fun _ _ _ _ => rfl
  refine ⟨?_, ?_⟩
  · obtain ⟨-, hunset⟩ := endpoint_is_set_once Cloud.quiet_obliging
      (Cloud.keeps_obliging Metadata.key) hspares (Sample.reachable_holding _) (hstored {})
    have hpublishes : (Sample.holding (Sample.reachedAt {})).Publishes Cloud.obliging 15 Sample.key
        false := by
      have hentered : ((Sample.holding (Sample.reachedAt {})).enter Sample.key).1 = .ok (some
          (.active, ⟨Sample.owner, Sample.reachedAt {}, Sample.reachedAt {}⟩)) := by
        decide +kernel
      exact ⟨enters_of_fst hentered, by decide +kernel⟩
    obtain ⟨stored, host, asked, hfound, -, -, hendpoint⟩ := hunset (.inl rfl) false hpublishes
    have hport : stored.spec.apiServerPort = none := by
      have hleft : (((Sample.holding (Sample.reachedAt {})).reconcile Cloud.obliging 15 Sample.key
          false).2.store.awsClusters.get? Sample.key).map (·.spec.apiServerPort) = some none := by
        decide +kernel
      rw [hfound] at hleft
      exact Option.some.inj hleft
    refine ⟨stored, hfound, ?_⟩
    rw [hendpoint, hport]
    rfl
  · obtain ⟨hset, -⟩ := endpoint_is_set_once Cloud.quiet_obliging
      (Cloud.keeps_obliging Metadata.key) hspares (Sample.reachable_holding _)
      (hstored ⟨"api.example.com", 443⟩)
    obtain ⟨stored, hfound⟩ : ∃ stored, ([.reconcile Sample.key false,
        .reconcile Sample.key false].foldl (perform Cloud.obliging 15) (Sample.holding
          (Sample.reachedAt ⟨"api.example.com", 443⟩))).store.awsClusters.get? Sample.key
            = some stored := by
      rw [← Option.isSome_iff_exists]
      decide +kernel
    have hsteps : ∀ step ∈ [Step.reconcile Sample.key false, .reconcile Sample.key false],
        ¬ step.Stores Sample.key := by
      simp [Step.Stores]
    exact ⟨stored, hfound, hset (by decide) _ hsteps stored hfound⟩

/-- An endpoint with a host but without a port is replaced. One that is complete is replaced where a
service does so, or where a service passes another object off as this one. -/
theorem endpoint_replaced :
    (((Sample.holding (Sample.reachedAt ⟨"api.example.com", 0⟩)).reconcile Cloud.obliging 15
        Sample.key false).2.store.awsClusters.get? Sample.key).map (·.spec.controlPlaneEndpoint)
      = some ⟨"lb.example.com", 6443⟩ ∧
    (((Sample.holding (Sample.reachedAt ⟨"api.example.com", 443⟩)).reconcile
        (.changing fun _ object => { object with spec :=
          { object.spec with controlPlaneEndpoint := ⟨"moved.example.com", 443⟩ } }) 15
        Sample.key false).2.store.awsClusters.get? Sample.key).map (·.spec.controlPlaneEndpoint)
      = some ⟨"moved.example.com", 443⟩ ∧
    (((Sample.world [.putCluster Sample.owner, .putAwsCluster (Sample.reachedAt {}),
          .putAwsCluster ((Sample.reachedAt ⟨"api.example.com", 443⟩).renamed "other")]).reconcile
        (.changing fun _ object => object.renamed "other") 15 Sample.key
        false).2.store.awsClusters.get? ⟨"default", "other"⟩).map (·.spec.controlPlaneEndpoint)
      = some ⟨"lb.example.com", 6443⟩ := by
  decide +kernel

end World

end ClusterInfra
