import ClusterInfra.Proofs.Reconcile.Creation
import ClusterInfra.Proofs.Reconcile.InStep
/-!
How an attempt begins and how it is closed.

An attempt starts from the stored copy of its object, and before its end it stores the finalizer at
most. So at its end the store still holds what the scope takes for persisted: closing it fails by a
fault only, and then it stores nothing. If it succeeds, spec and status arrive as they were
concluded.
-/

namespace ClusterInfra

variable {σ : Type} {cloud : Cloud σ}

namespace Scope

/-- What is stored in place of the persisted state of a scope once the scope is persisted. -/
def settled (scope : Scope) : Option AwsCluster :=
  let outcome := Changes.outcome scope.saved scope.object (Changes.version scope.saved scope.object)
  if scope.hasChanges then if outcome.isFinished then none else some outcome
  else some scope.saved

variable {scope : Scope} {stored : AwsCluster}

/-- A scope without changes is settled as it is, so what is stored is an outcome in any case. -/
theorem outcome_of_settled (h : scope.settled = some stored) :
    ∃ version, stored = Changes.outcome scope.saved scope.object version := by
  rw [settled] at h
  cases hchanges : scope.hasChanges with
  | true =>
    rw [hchanges, if_pos rfl] at h
    split at h
    · cases h
    · cases h
      exact ⟨_, rfl⟩
  | false =>
    rw [hchanges] at h
    cases h
    simp only [hasChanges, Bool.or_eq_false_iff, decide_eq_false_iff_not,
      Decidable.not_not] at hchanges
    obtain ⟨⟨hstatus, hfinalizers⟩, hspec⟩ := hchanges
    have hkept : Changes.storedFinalizers scope.saved scope.object
        = scope.saved.metadata.finalizers := by
      have hsame : scope.object.hasFinalizer = scope.saved.hasFinalizer := by
        simp only [AwsCluster.hasFinalizer, Metadata.hasFinalizer, hfinalizers]
      rw [Changes.storedFinalizers, hsame]
      cases scope.saved.hasFinalizer <;> rfl
    refine ⟨scope.saved.metadata.resourceVersion, ?_⟩
    rw [Changes.outcome, hkept, ← hspec, ← hstatus]

/-- A live object stays. -/
theorem isSome_settled (hlive : scope.saved.metadata.isDeleting = false) :
    ∃ stored, scope.settled = some stored := by
  have hstays : (Changes.outcome scope.saved scope.object
      (Changes.version scope.saved scope.object)).isFinished = false := by
    have hlive : (Changes.outcome scope.saved scope.object
        (Changes.version scope.saved scope.object)).metadata.isDeleting = false := hlive
    rw [AwsCluster.isFinished, hlive, Bool.false_and]
  rw [settled, hstays]
  split
  · exact ⟨_, rfl⟩
  · exact ⟨_, rfl⟩

end Scope

namespace Attempt

variable {a b c : Attempt σ}

/-! ### The finalizer -/

/-- The finalizer is all that its addition stages. -/
theorem InStep.addFinalizer (h : a.InStep) (hobject : a.scope.object = a.scope.saved) :
    ({ a with scope := a.scope.addFinalizer.2 } : Attempt σ).InStep ∧
      ({ a with scope := a.scope.addFinalizer.2 } : Attempt σ).StagesOwnFinalizer := by
  have hsaved : a.scope.addFinalizer.2.saved = a.scope.saved := a.scope.saved_edit .addFinalizer
  refine ⟨⟨?_, h.identity.edit .addFinalizer⟩, ?_⟩
  · rw [Attempt.held, hsaved]
    exact h.held
  · rw [StagesOwnFinalizer, hsaved, Scope.addFinalizer, ← hobject]
    split
    next => exact .kept _
    next hfinalizer =>
      refine .added fun hmem => hfinalizer ?_
      rw [Changes.hasFinalizer_eq]
      exact decide_eq_true hmem

theorem Fresh.inStep (h : a.Fresh) : a.InStep where
  held := h.held
  identity := by
    rw [Scope.KeepsIdentity, h.object]
    rfl

/-- A scope with the finalizer, which has staged nothing else for the finalizers, arrives when it
persists, unless a fault hits that. -/
theorem InStep.persist_own (h : a.InStep) (hown : a.StagesOwnFinalizer)
    (hfinalizer : a.scope.object.hasFinalizer = true) :
    (∃ message faults, a.world.faults ≠ [] ∧
      a.persist = (.error (.io message), { a with world := { a.world with faults } })) ∨
    ∃ version store faults b, (a.world.faults = [] → faults = []) ∧ b = ({ a with
        world := { a.world with store, faults }, scope := a.scope.rebased version } : Attempt σ) ∧
      a.persist = (.ok (), b) ∧ b.InStep := by
  have houtcome := fun version => (h.identity.outcome_eq_iff version).2 hown
  have hstays : ∀ version,
      (Changes.outcome a.scope.saved a.scope.object version).isFinished = false := by
    intro version
    rw [houtcome]
    exact AwsCluster.isFinished_of_hasFinalizer hfinalizer
  rcases h.persist hstays with hfault | ⟨version, store, faults, hnil, heq, hstored⟩
  · exact .inl hfault
  · refine .inr ⟨version, store, faults, _, hnil, rfl, heq, ?_,
      a.scope.keepsIdentity_rebased version⟩
    rw [houtcome, ← h.identity.key] at hstored
    exact hstored

/-- The finalizer has been ensured, and nothing else was done. -/
structure Secured (a b : Attempt σ) : Prop extends InStep b where
  unstaged : b.scope.object = b.scope.saved
  finalizer : b.scope.object.hasFinalizer = true
  object : ∃ version, b.scope.object = a.scope.addFinalizer.2.object.withVersion version
  cluster : b.scope.cluster = a.scope.cluster
  cancelled : b.cancelled = a.cancelled
  world : ∃ store faults, b.world = { a.world with store, faults } ∧
    store.clusters = a.world.store.clusters ∧ (a.world.faults = [] → faults = [])
  kept : a.scope.object.hasFinalizer = true → b = a

/-- Persisting leaves the owners alone. -/
theorem clusters_persist (a : Attempt σ) :
    a.persist.2.world.store.clusters = a.world.store.clusters := by
  have hpersists := a.persists_of_persist
  generalize a.persist = persisted at hpersists
  rcases persisted with ⟨result, b⟩
  cases hpersists with
  | unchanged => rfl
  | failed faults _ halters => exact halters.clusters
  | done faults _ halters => exact halters.clusters

/-- From a fresh scope, ensuring the finalizer fails by a fault only. -/
theorem Fresh.ensureFinalizer (h : a.Fresh) :
    (∃ message faults, a.world.faults ≠ [] ∧ a.ensureFinalizer = (.error (.io message),
      { a with world := { a.world with faults }, scope := a.scope.addFinalizer.2 })) ∨
    ∃ b, a.ensureFinalizer = (.ok (), b) ∧ a.Secured b := by
  rw [Attempt.ensureFinalizer]
  by_cases hfinalizer : a.scope.object.hasFinalizer = true
  · have hadd : a.scope.addFinalizer = (false, a.scope) := by
      rw [Scope.addFinalizer, if_pos hfinalizer]
    rw [hadd]
    exact .inr ⟨a, rfl, { h.inStep with
      unstaged := h.object, finalizer := hfinalizer
      object := ⟨_, by rw [hadd]; rfl⟩
      cluster := rfl, cancelled := rfl
      world := ⟨_, _, rfl, rfl, id⟩
      kept := fun _ => rfl }⟩
  · have hadded := a.scope.hasFinalizer_addFinalizer
    obtain ⟨hstep, hown⟩ := h.inStep.addFinalizer h.object
    have hadd : a.scope.addFinalizer = (true, a.scope.addFinalizer.2) := by
      rw [Scope.addFinalizer, if_neg hfinalizer]
    have hcluster : a.scope.addFinalizer.2.cluster = a.scope.cluster := by
      rw [Scope.addFinalizer, if_neg hfinalizer]
      rfl
    rw [hadd]
    generalize hscope : a.scope.addFinalizer.2 = scope at *
    have hclusters := ({ a with scope } : Attempt σ).clusters_persist
    rcases hstep.persist_own hown hadded with
      hfault | ⟨version, store, faults, b, hnil, rfl, heq, hin⟩
    · exact .inl hfault
    · rw [heq] at hclusters
      exact .inr ⟨_, heq, { hin with
        unstaged := rfl, finalizer := hadded
        object := ⟨version, by rw [hscope]; rfl⟩
        cluster := hcluster, cancelled := rfl
        world := ⟨_, _, rfl, hclusters, hnil⟩
        kept := fun hkept => absurd hkept hfinalizer }⟩

theorem spec_addFinalizer (scope : Scope) :
    scope.addFinalizer.2.object.spec = scope.object.spec ∧
      scope.addFinalizer.2.object.status = scope.object.status := by
  rw [Scope.addFinalizer]
  split <;> exact ⟨rfl, rfl⟩

theorem Secured.spec (h : a.Secured b) : b.scope.object.spec = a.scope.object.spec := by
  obtain ⟨version, hobject⟩ := h.object
  rw [hobject]
  exact (spec_addFinalizer a.scope).1

theorem Secured.status (h : a.Secured b) : b.scope.object.status = a.scope.object.status := by
  obtain ⟨version, hobject⟩ := h.object
  rw [hobject]
  exact (spec_addFinalizer a.scope).2

/-! ### The close -/

/-- The pass for a mode. -/
def pass (cloud : Cloud σ) (dnsRequeue : Nat) (deleting : Bool) (a : Attempt σ) :
    Except ControllerError Outcome × Attempt σ :=
  if deleting then a.runDelete cloud else a.runNormal cloud dnsRequeue

/-- A relation that holds of the pieces of a pass holds of the pass. -/
theorem Pieces.pass {R : Attempt σ → Attempt σ → Prop} (h : Pieces cloud R) (dnsRequeue : Nat)
    (deleting : Bool) (a : Attempt σ)
    (hremove : ∀ b : Attempt σ, R b { b with scope := b.scope.removeFinalizer.2 }) :
    R a (a.pass cloud dnsRequeue deleting).2 := by
  cases deleting with
  | true => exact h.runDelete a fun b _ => hremove b
  | false => exact h.runNormal dnsRequeue a

/-- Before the last write the summary is brought up to date. -/
def concluded (a : Attempt σ) : Attempt σ := a.update fun now scope => scope.conclude now

/-- The store holds what the scope takes for persisted. -/
structure Closable (a : Attempt σ) : Prop where
  held : a.held = some a.scope.saved
  key : a.scope.object.key = a.scope.saved.key

/-- Persisting such a scope fails by a fault, or it succeeds and settles the object. -/
theorem Closable.settles (h : a.Closable) :
    (∃ message faults, a.world.faults ≠ [] ∧
      a.persist = (.error (.io message), { a with world := { a.world with faults } })) ∨
    ∃ store faults, (a.world.faults = [] → faults = []) ∧
      a.persist = (.ok (), { a with
        world := { a.world with store, faults }
        scope := if a.scope.hasChanges then
            a.scope.rebased (Changes.version a.scope.saved a.scope.object)
          else a.scope }) ∧
      store.awsClusters.get? a.scope.saved.key = a.scope.settled := by
  rw [Scope.settled]
  cases hchanges : a.scope.hasChanges with
  | false =>
    exact .inr ⟨a.world.store, a.world.faults, id, persist_of_unchanged hchanges, h.held⟩
  | true =>
    have hheld : a.world.store.awsClusters.get? a.scope.object.key = some a.scope.saved := by
      rw [h.key]
      exact h.held
    obtain ⟨store, hpersist, hstored⟩ := Store.persist_of_stored hheld
    rw [h.key] at hstored
    rw [Attempt.persist, if_pos hchanges, World.persist]
    rcases a.world.access_eq .patch (·.persist a.scope.saved a.scope.object) with
      ⟨message, faults, hne, heq⟩ | ⟨faults, hnil, heq⟩ <;> rw [heq]
    · exact .inl ⟨message, faults, hne, rfl⟩
    · rw [hpersist]
      exact .inr ⟨store, faults, hnil, rfl, hstored⟩

/-- Without faults, persisting succeeds and settles the object. -/
theorem Closable.settles_of_calm (h : a.Closable) (hcalm : a.world.faults = []) :
    ∃ store, a.persist = (.ok (), { a with
        world := { a.world with store }
        scope := if a.scope.hasChanges then
            a.scope.rebased (Changes.version a.scope.saved a.scope.object)
          else a.scope }) ∧
      store.awsClusters.get? a.scope.saved.key = a.scope.settled := by
  rcases h.settles with ⟨message, faults, hne, -⟩ | ⟨store, faults, hnil, heq, hstored⟩
  · exact absurd hcalm hne
  · refine ⟨store, ?_, hstored⟩
    rw [heq, hnil hcalm, ← hcalm]

/-- So nothing is stored, or spec and status arrive. A live object stays stored. -/
theorem Closable.persist (h : a.Closable) :
    (∃ message, a.persist.1 = .error (.io message) ∧ a.persist.2.world.store = a.world.store) ∨
    (a.persist.1 = .ok () ∧
      (∀ stored, a.persist.2.world.store.awsClusters.get? a.scope.object.key = some stored →
        stored.spec = a.scope.object.spec ∧ stored.status = a.scope.object.status) ∧
      (a.scope.saved.metadata.isDeleting = false →
        ∃ stored, a.persist.2.world.store.awsClusters.get? a.scope.object.key = some stored)) := by
  rw [h.key]
  rcases h.settles with ⟨message, faults, -, heq⟩ | ⟨store, faults, -, heq, hstored⟩ <;> rw [heq]
  · exact .inl ⟨message, rfl, rfl⟩
  · refine .inr ⟨rfl, fun stored hget => ?_, fun hlive => ?_⟩
    · obtain ⟨version, rfl⟩ := Scope.outcome_of_settled (hstored.symm.trans hget)
      exact ⟨rfl, rfl⟩
    · obtain ⟨stored, hsettled⟩ := Scope.isSome_settled hlive
      exact ⟨stored, hstored.trans hsettled⟩

/-- Persisting works on the store and uses up faults, and it leaves the rest of the world alone. -/
theorem world_persist (a : Attempt σ) :
    ∃ store faults, a.persist.2.world = { a.world with store, faults } := by
  have hpersists := a.persists_of_persist
  generalize a.persist = persisted at hpersists
  rcases persisted with ⟨result, b⟩
  cases hpersists with
  | unchanged => exact ⟨_, _, rfl⟩
  | failed faults => exact ⟨_, faults, rfl⟩
  | done faults => exact ⟨_, faults, rfl⟩

theorem world_close (a : Attempt σ) :
    ∃ store faults clock, a.close.2.world = { a.world with store, faults, clock } := by
  obtain ⟨store, faults, hworld⟩ := a.concluded.world_persist
  exact ⟨store, faults, _, hworld⟩

/-- At its end an attempt is based on the stored copy of its object, which has the spec and the
status that it was loaded with. -/
structure Based (a b : Attempt σ) : Prop where
  held : b.held = some b.scope.saved
  key : b.scope.saved.key = a.scope.saved.key
  deleting : b.scope.saved.metadata.isDeleting = a.scope.saved.metadata.isDeleting
  spec : b.scope.saved.spec = a.scope.saved.spec
  status : b.scope.saved.status = a.scope.saved.status

theorem Based.advances {ν : Type} {view : Metadata → ν} {action : Action} (h : a.Based b)
    (hadvances : b.Advances view action c) : a.Based c where
  held := by rw [hadvances.held, hadvances.saved, h.held]
  key := by rw [hadvances.saved, h.key]
  deleting := by rw [hadvances.saved, h.deleting]
  spec := by rw [hadvances.saved, h.spec]
  status := by rw [hadvances.saved, h.status]

theorem Fresh.based (h : a.Fresh) : a.Based a := ⟨h.held, rfl, rfl, rfl, rfl⟩

/-- A scope is based on the same copy as long as this is so of its saved object. -/
theorem Based.rescope (h : a.Based b) {scope : Scope} (hsaved : scope.saved = b.scope.saved)
    (faults : List StoreFault) :
    a.Based { b with world := { b.world with faults }, scope } where
  held := by
    rw [Attempt.held, hsaved]
    exact h.held
  key := hsaved ▸ h.key
  deleting := hsaved ▸ h.deleting
  spec := hsaved ▸ h.spec
  status := hsaved ▸ h.status

theorem Secured.based (h : a.Secured b) (hfresh : a.Fresh) : a.Based b where
  held := h.held
  key := by
    obtain ⟨version, hobject⟩ := h.object
    have hkey := a.scope.key_edit .addFinalizer
    rw [← h.unstaged, hobject, ← hfresh.object]
    exact hkey
  deleting := by
    obtain ⟨version, hobject⟩ := h.object
    obtain ⟨finalizers, hmetadata⟩ := a.scope.metadata_edit .addFinalizer
    have hadded := congrArg Metadata.isDeleting hmetadata
    rw [← h.unstaged, hobject, ← hfresh.object]
    exact hadded
  spec := by rw [← h.unstaged, h.spec, hfresh.object]
  status := by rw [← h.unstaged, h.status, hfresh.object]

/-- Whatever a pass does, at its end the attempt is based on what was loaded. -/
theorem Fresh.based_pass (h : a.Fresh) (hquiet : cloud.Quiet) (dnsRequeue : Nat) (deleting : Bool) :
    a.Based (a.pass cloud dnsRequeue deleting).2 := by
  have hkeeps : cloud.Keeps (fun _ => ()) := fun _ _ _ _ => rfl
  cases deleting with
  | true =>
    have horder := h.based.advances
      (advances_deleteInOrder hquiet hkeeps a.scope.context Subsystem.deletionOrder a)
    change a.Based (a.runDelete cloud).2
    rcases hdelete : a.deleteInOrder cloud a.scope.context Subsystem.deletionOrder with
      ⟨_ | ⟨first, others⟩, b⟩ <;> rw [hdelete] at horder
    · rw [runDelete_of_nil hdelete]
      exact horder.rescope (b.scope.saved_edit .removeFinalizer) b.world.faults
    · rw [runDelete_of_cons hdelete]
      exact horder
  | false =>
    change a.Based (a.runNormal cloud dnsRequeue).2
    rcases h.ensureFinalizer with ⟨message, faults, -, hensure⟩ | ⟨b, hensure, hsecured⟩
    · rw [runNormal_of_error hensure]
      exact h.based.rescope (a.scope.saved_edit .addFinalizer) faults
    · exact (hsecured.based h).advances (advances_runNormal hquiet hkeeps dnsRequeue hensure)

end Attempt

end ClusterInfra
