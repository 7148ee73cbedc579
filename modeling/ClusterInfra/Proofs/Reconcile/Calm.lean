import ClusterInfra.Proofs.Reconcile.Entry
/-!
How an invocation begins where the store has no faults.

Then the entry leaves the world alone, and what it decides is read off the store. It goes by what
identifies the object and by its owner, so it decides alike for an object that a pass has worked on.
-/

namespace ClusterInfra

/-! ### Later states of an object -/

/-- A later state of an object: besides the status, a pass changes its finalizers, its version and
its endpoint. -/
structure AwsCluster.Continues (object later : AwsCluster) : Prop where
  metadata : ∃ finalizers resourceVersion,
    later.metadata = { object.metadata with finalizers, resourceVersion }
  spec : ∃ controlPlaneEndpoint, later.spec = { object.spec with controlPlaneEndpoint }

namespace AwsCluster.Continues

variable {a b c : AwsCluster}

theorem refl (object : AwsCluster) : object.Continues object := ⟨⟨_, _, rfl⟩, ⟨_, rfl⟩⟩

theorem trans (h : a.Continues b) (h' : b.Continues c) : a.Continues c := by
  obtain ⟨⟨finalizers, version, hmetadata⟩, endpoint, hspec⟩ := h
  obtain ⟨⟨finalizers', version', hmetadata'⟩, endpoint', hspec'⟩ := h'
  exact ⟨⟨finalizers', version', by rw [hmetadata', hmetadata]⟩, endpoint', by rw [hspec', hspec]⟩

theorem key (h : a.Continues b) : b.key = a.key := by
  obtain ⟨finalizers, version, hmetadata⟩ := h.metadata
  rw [AwsCluster.key, hmetadata]
  rfl

theorem isDeleting (h : a.Continues b) : b.metadata.isDeleting = a.metadata.isDeleting := by
  obtain ⟨finalizers, version, hmetadata⟩ := h.metadata
  rw [hmetadata]
  rfl

theorem withVersion (object : AwsCluster) (version : Option String) :
    object.Continues (object.withVersion version) := ⟨⟨_, _, rfl⟩, ⟨_, rfl⟩⟩

theorem addFinalizer (scope : Scope) : scope.object.Continues scope.addFinalizer.2.object := by
  rw [Scope.addFinalizer]
  split
  · exact .refl _
  · exact ⟨⟨_, _, rfl⟩, ⟨_, rfl⟩⟩

end AwsCluster.Continues

/-- Services are built in the same context for a later state of an object. -/
theorem Scope.context_continues {scope later : Scope} (h : scope.object.Continues later.object) :
    later.context = scope.context := by
  obtain ⟨endpoint, hspec⟩ := h.spec
  rw [context, context, key, key, h.key, hspec]

/-! ### Deciding -/

/-- A decision on a later state of the object. -/
def Mode.redecide (later : AwsCluster) :
    Except ControllerError (Option (Mode × Scope)) → Except ControllerError (Option (Mode × Scope)) :=
  Except.map (Option.map fun entry => (entry.1, ⟨entry.2.cluster, later, later⟩))

/-- A decision that calls for a pass called for one before. -/
theorem Mode.exists_of_redecide {later : AwsCluster}
    {decision : Except ControllerError (Option (Mode × Scope))} {pass : Mode × Scope}
    (h : redecide later decision = .ok (some pass)) : ∃ before, decision = .ok (some before) := by
  rcases decision with e | _ | before
  · cases h
  · cases h
  · exact ⟨before, rfl⟩

theorem World.scope?_continues {object later : AwsCluster} (h : object.Continues later)
    (owner : Option Cluster) : scope? later owner = Mode.redecide later (scope? object owner) := by
  obtain ⟨⟨finalizers, version, hmetadata⟩, endpoint, hspec⟩ := h
  have hobserve : Mode.observe later owner = Mode.observe object owner := by
    cases owner with
    | none => rfl
    | some cluster =>
      rw [Mode.observe, Mode.observe, hmetadata]
      rfl
  have hscope : ∀ cluster (mode : Mode),
      (Scope.of cluster later).map (fun scope => some (mode, scope))
        = Mode.redecide later ((Scope.of cluster object).map fun scope => some (mode, scope)) := by
    intro cluster mode
    simp only [Scope.of, hmetadata, hspec]
    split
    · rfl
    · split
      · rfl
      · split <;> rfl
  cases owner with
  | none => rfl
  | some cluster =>
    unfold scope?
    rw [hobserve]
    cases Mode.observe object (some cluster) with
    | unowned => rfl
    | paused => rfl
    | deleting => exact hscope cluster .deleting
    | active => exact hscope cluster .active

/-- A later state of an object is decided on alike, as long as the owners stay. -/
theorem Store.decision_continues {store store' : Store} (hclusters : store'.clusters = store.clusters)
    {object later : AwsCluster} (h : object.Continues later) :
    store'.decision later = Mode.redecide later (store.decision object) := by
  have hscope := World.scope?_continues h
  obtain ⟨⟨finalizers, version, hmetadata⟩, -⟩ := h
  have howner : store'.findOwner later = store.findOwner object := by
    rw [findOwner, findOwner, hclusters, hmetadata]
    rfl
  have hmanaged : later.metadata.isExternallyManaged = object.metadata.isExternallyManaged := by
    rw [hmetadata]
    rfl
  rw [Store.decision, Store.decision, howner, hmanaged]
  split
  · rfl
  · cases store.findOwner object with
    | error e => rfl
    | ok owner => exact hscope owner

/-- The decision on a later state of an object is the same, as long as the owners stay. -/
theorem Store.entry_continues {store store' : Store} {key : ObjectKey} {object later : AwsCluster}
    (hclusters : store'.clusters = store.clusters)
    (hstored : store.awsClusters.get? key = some object)
    (hstored' : store'.awsClusters.get? key = some later) (h : object.Continues later) :
    store'.entry key = Mode.redecide later (store.entry key) := by
  rw [entry, entry, hstored, hstored']
  exact decision_continues hclusters h

namespace World

variable {σ : Type} {world : World σ} {key : ObjectKey}

/-- Without faults, an invocation that does not call for a pass leaves the world alone. -/
theorem reconcile_of_idle (h : world.faults = []) (cloud : Cloud σ) (dnsRequeue : Nat)
    (cancelled : Bool) (hidle : ∀ pass, world.store.entry key ≠ .ok (some pass)) :
    world.reconcile cloud dnsRequeue key cancelled
      = ((world.store.entry key).map fun _ => .noRequeue, world) := by
  rw [reconcile_eq, (world.reads_enter key).eq_of_calm h]
  rcases hentry : world.store.entry key with e | _ | pass
  · rfl
  · rfl
  · exact absurd hentry (hidle pass)

/-- Without faults, an invocation is the pass that the stored object calls for. -/
theorem reconcile_of_entry (h : world.faults = []) (cloud : Cloud σ) (dnsRequeue : Nat)
    (cancelled : Bool) {mode : Mode} {scope : Scope}
    (hentry : world.store.entry key = .ok (some (mode, scope))) :
    world.reconcile cloud dnsRequeue key cancelled =
      ((Attempt.run cloud dnsRequeue (mode = .deleting) { world, scope, cancelled }).1,
        (Attempt.run cloud dnsRequeue (mode = .deleting) { world, scope, cancelled }).2.world) := by
  rw [reconcile_eq, (world.reads_enter key).eq_of_calm h, hentry]

/-- A pass in deletion mode is one over an object whose deletion was requested. -/
theorem Admits.isDeleting {mode : Mode} {scope : Scope} (h : world.Admits key mode scope)
    (hmode : mode = .deleting) : scope.saved.metadata.isDeleting = true := by
  rw [Mode.isDeleting_eq h.observed h.live]
  exact decide_eq_true hmode

/-- A pass over a live object is a normal one. -/
theorem Admits.active {scope : Scope} {mode : Mode} (h : world.Admits key mode scope)
    (hlive : scope.saved.metadata.isDeleting = false) : mode = .active := by
  refine h.live.resolve_right fun hmode => ?_
  rw [h.isDeleting hmode] at hlive
  cases hlive

end World

end ClusterInfra
