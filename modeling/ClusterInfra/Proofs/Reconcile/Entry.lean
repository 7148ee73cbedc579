import ClusterInfra.Proofs.Scope.Edits
import ClusterInfra.Proofs.Store.Persist
import ClusterInfra.Reconcile.Dispatch
/-!
How an invocation begins.

Before its pass an invocation only reads: it fetches the object and its owner and decides what is to
be done. Unless a fault hits it, the decision is a function of the store. A reconciliation is this
entry followed by a pass, if the entry calls for one.
-/

namespace ClusterInfra

/-! ### The decision -/

/-- The mode of a pass tells whether deletion has been requested. -/
theorem Mode.isDeleting_eq {object : AwsCluster} {owner : Cluster} {mode : Mode}
    (h : observe object (some owner) = mode) (hlive : mode = .active ∨ mode = .deleting) :
    object.metadata.isDeleting = decide (mode = .deleting) := by
  subst h
  rw [observe] at hlive ⊢
  split at hlive
  · rcases hlive with h | h <;> cases h
  · rw [if_neg ‹_›]
    cases object.metadata.isDeleting <;> rfl

/-- The scope of a pass in a mode that calls for one. -/
def World.scope? (object : AwsCluster) (owner : Option Cluster) :
    Except ControllerError (Option (Mode × Scope)) :=
  match Mode.observe object owner, owner with
  | .active, some cluster => (Scope.of cluster object).map fun scope => some (.active, scope)
  | .deleting, some cluster => (Scope.of cluster object).map fun scope => some (.deleting, scope)
  | _, _ => .ok none

theorem World.scope?_eq_ok {object : AwsCluster} {owner : Option Cluster}
    {entry : Option (Mode × Scope)} (h : scope? object owner = .ok entry) :
    (entry = none ∧ (Mode.observe object owner = .unowned ∨ Mode.observe object owner = .paused)) ∨
      ∃ cluster mode, owner = some cluster ∧ entry = some (mode, ⟨cluster, object, object⟩) ∧
        Mode.observe object owner = mode ∧ (mode = .active ∨ mode = .deleting) := by
  have hscope : ∀ (mode : Mode) (cluster : Cluster),
      (Scope.of cluster object).map (fun scope => some (mode, scope)) = .ok entry →
      entry = some (mode, ⟨cluster, object, object⟩) := by
    intro mode cluster h
    cases hof : Scope.of cluster object with
    | error e => rw [hof] at h; cases h
    | ok scope =>
      rw [hof, Scope.of_eq_ok hof] at h
      cases h
      rfl
  rcases owner with _ | cluster
  · cases h
    exact .inl ⟨rfl, .inl rfl⟩
  · unfold scope? at h
    cases hmode : Mode.observe object (some cluster) <;> rw [hmode] at h
    · cases h
      exact .inl ⟨rfl, .inl rfl⟩
    · cases h
      exact .inl ⟨rfl, .inr rfl⟩
    · exact .inr ⟨cluster, .deleting, rfl, hscope _ _ h, rfl, .inr rfl⟩
    · exact .inr ⟨cluster, .active, rfl, hscope _ _ h, rfl, .inl rfl⟩

namespace Store

/-- The `Cluster` that owns an object, as far as it is stored. -/
def owner? (store : Store) (object : AwsCluster) : Option Cluster :=
  object.metadata.ownerCluster?.bind fun name =>
    store.clusters.get? ⟨object.metadata.ns.getD "", name⟩

/-- The owner of an object; it has to be there if one is named. -/
def findOwner (store : Store) (object : AwsCluster) : Except ControllerError (Option Cluster) :=
  match object.metadata.ownerCluster? with
  | none => .ok none
  | some name =>
    match store.clusters.get? ⟨object.metadata.ns.getD "", name⟩ with
    | none => .error (.ownerNotFound (ObjectKey.mk (object.metadata.ns.getD "") name).text)
    | some cluster => .ok (some cluster)

theorem owner?_of_findOwner {store : Store} {object : AwsCluster} {owner : Option Cluster}
    (h : store.findOwner object = .ok owner) : store.owner? object = owner := by
  rw [findOwner] at h
  rw [owner?]
  cases hname : object.metadata.ownerCluster? with
  | none =>
    rw [hname] at h
    cases h
    rfl
  | some name =>
    simp only [hname] at h
    rw [Option.bind_some]
    cases hcluster : store.clusters.get? ⟨object.metadata.ns.getD "", name⟩ with
    | none => rw [hcluster] at h; cases h
    | some cluster => rw [hcluster] at h; cases h; rfl

/-- What an invocation decides on a stored object before its pass. -/
def decision (store : Store) (object : AwsCluster) :
    Except ControllerError (Option (Mode × Scope)) :=
  if object.metadata.isExternallyManaged then .ok none
  else (store.findOwner object).bind fun owner => World.scope? object owner

/-- What an invocation for a key decides, if it can read the store. -/
def entry (store : Store) (key : ObjectKey) :
    Except ControllerError (Option (Mode × Scope)) :=
  (store.awsClusters.get? key).elim (.ok none) store.decision

end Store

namespace World

variable {σ : Type} {world : World σ} {key : ObjectKey} {mode : Mode} {scope : Scope}

/-! ### Reading the store -/

/-- What comes of reading the store: a fault, or what is read; nothing but the faults changes. -/
inductive Reads {α : Type} (world : World σ) (found : Except ControllerError α) :
    Except ControllerError α × World σ → Prop
  | fault (message : String) (faults : List StoreFault) (h : world.faults ≠ []) :
      Reads world found (.error (.io message), { world with faults })
  | found (faults : List StoreFault) (h : world.faults = [] → faults = []) :
      Reads world found (found, { world with faults })

theorem Reads.eq_of_calm {α : Type} {found : Except ControllerError α}
    {out : Except ControllerError α × World σ} (h : world.Reads found out)
    (hcalm : world.faults = []) : out = (found, world) := by
  cases h with
  | fault message faults hne => exact absurd hcalm hne
  | found faults hnil => rw [hnil hcalm, ← hcalm]

theorem reads_access {α : Type} (world : World σ) (call : StoreCall) (look : Store → α) :
    world.Reads (.ok (look world.store))
      (world.access call fun store => (.ok (look store), store)) := by
  rcases world.access_eq call fun store => (.ok (look store), store) with
    ⟨message, faults, hne, heq⟩ | ⟨faults, hnil, heq⟩ <;> rw [heq]
  · exact .fault message faults hne
  · exact .found faults hnil

theorem reads_resolveOwner (world : World σ) (object : AwsCluster) :
    world.Reads (world.store.findOwner object) (world.resolveOwner object) := by
  rw [resolveOwner, Store.findOwner]
  cases object.metadata.ownerCluster? with
  | none => exact .found world.faults id
  | some name =>
    have hreads := world.reads_access .getCluster
      (·.clusters.get? ⟨object.metadata.ns.getD "", name⟩)
    simp only [getCluster]
    generalize world.access .getCluster _ = out at hreads
    cases hreads with
    | fault message faults h => exact .fault message faults h
    | found faults h =>
      cases world.store.clusters.get? ⟨object.metadata.ns.getD "", name⟩ with
      | none => exact .found faults h
      | some cluster => exact .found faults h

/-! ### The entry -/

/-- What an invocation reads and decides before its pass: the mode and the scope of the pass, or
that there is nothing to do. -/
def enter (key : ObjectKey) (world : World σ) :
    Except ControllerError (Option (Mode × Scope)) × World σ :=
  match world.getAwsCluster key with
  | (.error e, world) => (.error e, world)
  | (.ok none, world) => (.ok none, world)
  | (.ok (some object), world) =>
    if object.metadata.isExternallyManaged then (.ok none, world)
    else
      match world.resolveOwner object with
      | (.error e, world) => (.error e, world)
      | (.ok owner, world) => (scope? object owner, world)

/-- The entry decides by the store, unless a fault hits it. -/
theorem reads_enter (world : World σ) (key : ObjectKey) :
    world.Reads (world.store.entry key) (world.enter key) := by
  have hreads := world.reads_access .getAwsCluster (·.awsClusters.get? key)
  rw [enter, getAwsCluster, Store.entry]
  generalize world.access .getAwsCluster _ = out at hreads
  cases hreads with
  | fault message faults h => exact .fault message faults h
  | found faults h =>
    cases world.store.awsClusters.get? key with
    | none => exact .found faults h
    | some object =>
      simp only [Option.elim_some, Store.decision]
      split
      · exact .found faults h
      · have howner := reads_resolveOwner { world with faults } object
        generalize resolveOwner { world with faults } object = out at howner
        cases howner with
        | fault message faults' hne => exact .fault message faults' fun hnil => hne (h hnil)
        | found faults' hnil =>
          have hfaults := fun hcalm => hnil (h hcalm)
          simp only
          cases world.store.findOwner object with
          | error e => exact .found faults' hfaults
          | ok owner => exact .found faults' hfaults

/-- An invocation is its entry, followed by the pass that the entry calls for. -/
theorem reconcile_eq (cloud : Cloud σ) (dnsRequeue : Nat) (key : ObjectKey) (cancelled : Bool)
    (world : World σ) : world.reconcile cloud dnsRequeue key cancelled =
      match world.enter key with
      | (.error e, world) => (.error e, world)
      | (.ok none, world) => (.ok .noRequeue, world)
      | (.ok (some (mode, scope)), world) =>
        ((Attempt.run cloud dnsRequeue (mode = .deleting) { world, scope, cancelled }).1,
          (Attempt.run cloud dnsRequeue (mode = .deleting) { world, scope, cancelled }).2.world) := by
  rw [reconcile, enter]
  rcases world.getAwsCluster key with ⟨e | _ | object, world⟩
  · rfl
  · rfl
  · simp only
    split
    · rfl
    · rcases world.resolveOwner object with ⟨e | owner, world⟩
      · rfl
      · simp only [scope?]
        rcases owner with _ | cluster
        · cases Mode.observe object none <;> rfl
        · cases Mode.observe object (some cluster) <;> try rfl
          all_goals
            simp only [attempt]
            cases Scope.of cluster object <;> rfl

/-- An invocation enters a pass in a mode: with the stored object and its stored owner, which call
for that mode. -/
structure Admits (world : World σ) (key : ObjectKey) (mode : Mode) (scope : Scope) : Prop where
  stored : world.store.awsClusters.get? key = some scope.saved
  object : scope.object = scope.saved
  managed : scope.saved.metadata.isExternallyManaged = false
  owner : world.store.owner? scope.saved = some scope.cluster
  observed : Mode.observe scope.saved (some scope.cluster) = mode
  live : mode = .active ∨ mode = .deleting

/-- Why an invocation has nothing to do. -/
inductive Skips (world : World σ) (key : ObjectKey) : Prop
  | missing (h : world.store.awsClusters.get? key = none)
  | managed {object : AwsCluster} (h : world.store.awsClusters.get? key = some object)
      (hmanaged : object.metadata.isExternallyManaged = true)
  | idle {object : AwsCluster} (h : world.store.awsClusters.get? key = some object)
      (hmode : Mode.observe object (world.store.owner? object) = .unowned ∨
        Mode.observe object (world.store.owner? object) = .paused)

/-- An entry that does not fail admits a pass or finds that there is nothing to do. -/
theorem spec_of_entry {entry : Option (Mode × Scope)} (h : world.store.entry key = .ok entry) :
    (entry = none ∧ world.Skips key) ∨
      ∃ mode scope, entry = some (mode, scope) ∧ world.Admits key mode scope := by
  rw [Store.entry] at h
  cases hobject : world.store.awsClusters.get? key with
  | none =>
    rw [hobject] at h
    cases h
    exact .inl ⟨rfl, .missing hobject⟩
  | some object =>
    rw [hobject, Option.elim_some, Store.decision] at h
    split at h
    next hmanaged =>
      cases h
      exact .inl ⟨rfl, .managed hobject hmanaged⟩
    next hmanaged =>
      cases hfind : world.store.findOwner object with
      | error e => rw [hfind] at h; cases h
      | ok owner =>
        rw [hfind] at h
        cases Store.owner?_of_findOwner hfind
        rcases scope?_eq_ok h with ⟨rfl, hmode⟩ | ⟨cluster, mode, howner, rfl, hmode, hlive⟩
        · exact .inl ⟨rfl, .idle hobject hmode⟩
        · refine .inr ⟨mode, _, rfl, hobject, rfl, ?_, howner, ?_, hlive⟩
          · exact Bool.eq_false_iff.2 hmanaged
          · exact howner ▸ hmode

/-- A decision for a pass is one that admits it. -/
theorem admits_of_entry (h : world.store.entry key = .ok (some (mode, scope))) :
    world.Admits key mode scope := by
  rcases spec_of_entry h with ⟨hnone, -⟩ | ⟨mode', scope', hsome, hadmits⟩
  · cases hnone
  · cases hsome
    exact hadmits

/-- What comes of an invocation. -/
inductive Invoked (cloud : Cloud σ) (dnsRequeue : Nat) (key : ObjectKey) (cancelled : Bool)
    (world : World σ) : Except ControllerError Outcome × World σ → Prop
  /-- The entry failed. -/
  | failed {e : ControllerError} {faults : List StoreFault}
      (hentry : world.enter key = (.error e, { world with faults })) :
      Invoked cloud dnsRequeue key cancelled world (.error e, { world with faults })
  /-- There was nothing to do. -/
  | skipped {faults : List StoreFault}
      (hentry : world.enter key = (.ok none, { world with faults })) (h : world.Skips key) :
      Invoked cloud dnsRequeue key cancelled world (.ok .noRequeue, { world with faults })
  /-- A pass was made. -/
  | passed {mode : Mode} {scope : Scope} {faults : List StoreFault}
      (hentry : world.enter key = (.ok (some (mode, scope)), { world with faults }))
      (h : world.Admits key mode scope) {result : Except ControllerError Outcome} {a : Attempt σ}
      (hrun : Attempt.run cloud dnsRequeue (mode = .deleting)
        { world := { world with faults }, scope, cancelled } = (result, a)) :
      Invoked cloud dnsRequeue key cancelled world (result, a.world)

theorem invoked_reconcile (cloud : Cloud σ) (dnsRequeue : Nat) (key : ObjectKey) (cancelled : Bool)
    (world : World σ) : Invoked cloud dnsRequeue key cancelled world
      (world.reconcile cloud dnsRequeue key cancelled) := by
  have hreads := world.reads_enter key
  rw [reconcile_eq]
  rcases hentry : world.enter key with ⟨result, world'⟩
  rw [hentry] at hreads
  generalize hfound : world.store.entry key = found at hreads
  cases hreads with
  | fault message faults => exact .failed hentry
  | found faults =>
    rcases result with e | entry
    · exact .failed hentry
    · rcases spec_of_entry hfound with ⟨rfl, hskips⟩ | ⟨mode, scope, rfl, hadmits⟩
      · exact .skipped hentry hskips
      · exact .passed hentry hadmits rfl

end World

end ClusterInfra
