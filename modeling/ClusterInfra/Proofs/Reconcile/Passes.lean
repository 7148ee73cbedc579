import ClusterInfra.Proofs.Reconcile.Progress
/-!
How a pass goes through its pieces.

A pass works on its attempt, adds or removes the finalizer, and persists. What is true of each of
these is true of a pass as a whole, whichever of its exits it takes: a relation between attempts
that every piece respects is respected by the passes.
-/

namespace ClusterInfra

variable {σ ν : Type}

/-! ### Persisting -/

/-- Persisting in a world is persisting in its store, unless a fault hits it. -/
theorem World.persisted_of_persist (world : World σ) (before after : AwsCluster) :
    ∃ stored patches store faults,
      Persisted before after (world.store.awsClusters.get? after.key)
        (world.persist before after).1 stored patches ∧
      world.store.Alters after.key stored patches store ∧
      (world.persist before after).2 = { world with store, faults } := by
  rw [persist]
  rcases world.access_eq .patch (·.persist before after) with
    ⟨message, faults, -, heq⟩ | ⟨faults, -, heq⟩ <;> rw [heq]
  · exact ⟨_, [], world.store, faults, .refused _ _, .unchanged _ _, rfl⟩
  · obtain ⟨stored, patches, h, halters⟩ := world.store.persisted_of_persist before after
    exact ⟨stored, patches, _, faults, h, halters, rfl⟩

namespace Attempt

/-- What comes of persisting an attempt: a result, and the attempt afterwards. -/
inductive Persists (a : Attempt σ) : Except ControllerError Unit → Attempt σ → Prop
  /-- There was nothing to persist. -/
  | unchanged (h : a.scope.hasChanges = false) : Persists a (.ok ()) a
  /-- The write failed, and the scope goes on as it was. -/
  | failed {e : ControllerError} {stored : Option AwsCluster} {patches : List Json.Patch}
      {store : Store} (faults : List StoreFault)
      (h : Persisted a.scope.saved a.scope.object
        (a.world.store.awsClusters.get? a.scope.object.key) (.error e) stored patches)
      (halters : a.world.store.Alters a.scope.object.key stored patches store) :
      Persists a (.error e) { a with world := { a.world with store, faults } }
  /-- The write came through, and the scope goes on from there. -/
  | done {version : Option String} {stored : Option AwsCluster} {patches : List Json.Patch}
      {store : Store} (faults : List StoreFault)
      (h : Persisted a.scope.saved a.scope.object
        (a.world.store.awsClusters.get? a.scope.object.key) (.ok version) stored patches)
      (halters : a.world.store.Alters a.scope.object.key stored patches store) :
      Persists a (.ok ())
        { a with world := { a.world with store, faults }, scope := a.scope.rebased version }

theorem persists_of_persist (a : Attempt σ) : a.Persists a.persist.1 a.persist.2 := by
  rw [persist]
  split
  next =>
    obtain ⟨stored, patches, store, faults, h, halters, hworld⟩ :=
      a.world.persisted_of_persist a.scope.saved a.scope.object
    rcases hpersist : a.world.persist a.scope.saved a.scope.object with ⟨e | version, world⟩ <;>
      rw [hpersist] at h hworld <;> cases hworld
    · exact .failed faults h halters
    · exact .done faults h halters
  next hchanges => exact .unchanged (Bool.eq_false_iff.2 hchanges)

/-- Persisting writes nothing into the journal. -/
theorem Persists.journal {a b : Attempt σ} {result : Except ControllerError Unit}
    (h : a.Persists result b) : b.world.journal = a.world.journal := by
  cases h <;> rfl

/-! ### The exits of a pass -/

theorem finish_snd (result : Except ControllerError Outcome) (a : Attempt σ) :
    (finish (result, a)).2 = a.close.2 := by
  simp only [finish]
  rcases a.close with ⟨_ | _, b⟩ <;> cases result <;> rfl

theorem finish_error (e : ControllerError) (a : Attempt σ) : (finish (.error e, a)).1 = .error e := by
  simp only [finish]

/-- An invocation succeeds exactly if its pass does and can be closed. -/
theorem finish_fst_eq_ok_iff {result : Except ControllerError Outcome} {a : Attempt σ}
    {outcome : Outcome} :
    (finish (result, a)).1 = .ok outcome ↔ result = .ok outcome ∧ a.close.1 = .ok () := by
  simp only [finish]
  rcases a.close with ⟨_ | _, b⟩ <;> cases result <;> simp

section Passes

variable {view : Metadata → ν} {cloud : Cloud σ} {dnsRequeue : Nat} {a b : Attempt σ}

/-- A normal pass ends where the finalizer cannot be stored. -/
theorem runNormal_of_error {e : ControllerError} (h : a.ensureFinalizer = (.error e, b)) :
    a.runNormal cloud dnsRequeue = (.error e, b) := by
  rw [runNormal, h]

/-- Once the finalizer is stored, the rest of a normal pass is work. -/
theorem advances_runNormal (hquiet : cloud.Quiet) (hkeeps : cloud.Keeps view) (dnsRequeue : Nat)
    (h : a.ensureFinalizer = (.ok (), b)) :
    b.Advances view .reconcile (a.runNormal cloud dnsRequeue).2 := by
  have horder := advances_reconcileInOrder hquiet hkeeps b.scope.context Subsystem.creationOrder b
  rw [runNormal, h]
  simp only
  split
  next heq =>
    rw [heq] at horder
    exact horder
  next c heq =>
    rw [heq] at horder
    exact horder.trans (advances_awaitDnsName dnsRequeue c)

/-- A delete pass in which nothing failed ends with the removal of the finalizer. -/
theorem runDelete_of_nil
    (h : a.deleteInOrder cloud a.scope.context Subsystem.deletionOrder = ([], b)) :
    a.runDelete cloud = (.ok .noRequeue, { b with scope := b.scope.removeFinalizer.2 }) := by
  rw [runDelete, h]

theorem runDelete_of_cons {first : ControllerError} {others : List ControllerError}
    (h : a.deleteInOrder cloud a.scope.context Subsystem.deletionOrder = (first :: others, b)) :
    a.runDelete cloud = (.error (.deleteIncomplete (others.length + 1) first), b) := by
  rw [runDelete, h]

end Passes

/-! ### What holds of every piece -/

/-- A relation between attempts that holds of every piece of a run with some services, but for the
removal of the finalizer. -/
structure Pieces (cloud : Cloud σ) (R : Attempt σ → Attempt σ → Prop) : Prop where
  refl : ∀ a, R a a
  trans : ∀ {a b c}, R a b → R b c → R a c
  call : ∀ context call a, R a (a.call cloud context call).2
  lookUp : ∀ host a, R a (a.lookUp cloud host).2
  countFailure : ∀ call a, R a (a.countFailure call)
  update : ∀ {change : Instant → Scope → Scope},
    (∀ now (scope : Scope), scope.Stages (change now scope)) → ∀ a, R a (a.update change)
  persist : ∀ a, R a a.persist.2
  addFinalizer : ∀ a : Attempt σ, R a { a with scope := a.scope.addFinalizer.2 }

namespace Pieces

variable {cloud : Cloud σ} {R : Attempt σ → Attempt σ → Prop}

theorem close (h : Pieces cloud R) (a : Attempt σ) : R a a.close.2 :=
  h.trans (h.update (fun now scope => scope.stages_conclude now) a) (h.persist _)

theorem ensureFinalizer (h : Pieces cloud R) (a : Attempt σ) : R a a.ensureFinalizer.2 := by
  have hadd := h.addFinalizer a
  unfold Attempt.ensureFinalizer
  split
  next => exact h.refl a
  next heq =>
    rw [heq] at hadd
    exact h.trans hadd (h.persist _)

theorem reconcileSubsystem (h : Pieces cloud R) (context : ServiceContext) (subsystem : Subsystem)
    (a : Attempt σ) : R a (a.reconcileSubsystem cloud context subsystem).2 := by
  have hcall := h.call context ⟨.reconcile, subsystem⟩ a
  unfold Attempt.reconcileSubsystem
  simp only
  split
  next heq =>
    rw [heq] at hcall
    exact h.trans hcall (h.update (fun now scope => scope.stages_reconciled subsystem now) _)
  next heq =>
    rw [heq] at hcall
    exact h.trans (h.trans hcall (h.countFailure ..))
      (h.update (fun now scope => scope.stages_report ..) _)

theorem reconcileInOrder (h : Pieces cloud R) (context : ServiceContext) :
    ∀ (subsystems : List Subsystem) (a : Attempt σ),
      R a (a.reconcileInOrder cloud context subsystems).2
  | [], a => h.refl a
  | subsystem :: rest, a => by
    have hfirst := h.reconcileSubsystem context subsystem a
    rw [Attempt.reconcileInOrder]
    split
    next heq =>
      rw [heq] at hfirst
      exact hfirst
    next heq =>
      rw [heq] at hfirst
      exact h.trans hfirst (h.reconcileInOrder context rest _)

theorem awaitDnsName (h : Pieces cloud R) (dnsRequeue : Nat) (a : Attempt σ) :
    R a (a.awaitDnsName cloud dnsRequeue).2 := by
  unfold Attempt.awaitDnsName
  split
  next => exact h.update (fun now scope => scope.stages_report ..) a
  next host _ =>
    have hlookUp := h.lookUp host a
    split
    next heq =>
      rw [heq] at hlookUp
      exact hlookUp
    next heq =>
      rw [heq] at hlookUp
      exact h.trans hlookUp (h.update (fun now scope => scope.stages_report ..) _)
    next heq =>
      rw [heq] at hlookUp
      exact h.trans hlookUp (h.update (fun now scope => scope.stages_publish host now) _)

theorem deleteSubsystem (h : Pieces cloud R) (context : ServiceContext) (subsystem : Subsystem)
    (a : Attempt σ) : R a (a.deleteSubsystem cloud context subsystem).2 := by
  have hcall := h.call context ⟨.delete, subsystem⟩ a
  unfold Attempt.deleteSubsystem
  simp only
  split
  next heq =>
    rw [heq] at hcall
    exact h.trans hcall (h.update (fun now scope => scope.stages_report ..) _)
  next heq =>
    rw [heq] at hcall
    exact h.trans (h.trans hcall (h.countFailure ..))
      (h.update (fun now scope => scope.stages_report ..) _)

theorem deleteInOrder (h : Pieces cloud R) (context : ServiceContext) :
    ∀ (subsystems : List Subsystem) (a : Attempt σ),
      R a (a.deleteInOrder cloud context subsystems).2
  | [], a => h.refl a
  | subsystem :: rest, a =>
    h.trans (h.deleteSubsystem context subsystem a) (h.deleteInOrder context rest _)

theorem runNormal (h : Pieces cloud R) (dnsRequeue : Nat) (a : Attempt σ) :
    R a (a.runNormal cloud dnsRequeue).2 := by
  have hensure := h.ensureFinalizer a
  rcases hensured : a.ensureFinalizer with ⟨e | _, b⟩ <;> rw [hensured] at hensure
  · rw [runNormal_of_error hensured]
    exact hensure
  · have horder := h.reconcileInOrder b.scope.context Subsystem.creationOrder b
    rw [Attempt.runNormal, hensured]
    simp only
    split
    next heq =>
      rw [heq] at horder
      exact h.trans hensure horder
    next c heq =>
      rw [heq] at horder
      exact h.trans (h.trans hensure horder) (h.awaitDnsName dnsRequeue c)

/-- The delete pass removes the finalizer only after all deletions have succeeded. -/
theorem runDelete (h : Pieces cloud R) (a : Attempt σ)
    (hremove : ∀ b, a.deleteInOrder cloud a.scope.context Subsystem.deletionOrder = ([], b) →
      R b { b with scope := b.scope.removeFinalizer.2 }) : R a (a.runDelete cloud).2 := by
  have horder := h.deleteInOrder a.scope.context Subsystem.deletionOrder a
  rcases heq : a.deleteInOrder cloud a.scope.context Subsystem.deletionOrder with
    ⟨_ | ⟨first, others⟩, b⟩ <;> rw [heq] at horder
  · rw [runDelete_of_nil heq]
    exact h.trans horder (hremove b heq)
  · rw [runDelete_of_cons heq]
    exact horder

theorem run (h : Pieces cloud R) (dnsRequeue : Nat) (deleting : Bool) (a : Attempt σ)
    (hremove : deleting = true →
      ∀ b, a.deleteInOrder cloud a.scope.context Subsystem.deletionOrder = ([], b) →
        R b { b with scope := b.scope.removeFinalizer.2 }) :
    R a (Attempt.run cloud dnsRequeue deleting a).2 := by
  rw [Attempt.run, finish_snd]
  split
  next hdeleting => exact h.trans (h.runDelete a (hremove hdeleting)) (h.close _)
  next => exact h.trans (h.runNormal dnsRequeue a) (h.close _)

end Pieces

/-! ### What work respects -/

/-- A relation between attempts that holds where work was done, and of the other pieces of a pass
but for the removal of the finalizer. -/
structure Respects (view : Metadata → ν) (R : Attempt σ → Attempt σ → Prop) : Prop where
  trans : ∀ {a b c}, R a b → R b c → R a c
  advances : ∀ {action a b}, a.Advances view action b → R a b
  persist : ∀ a, R a a.persist.2
  addFinalizer : ∀ a : Attempt σ, R a { a with scope := a.scope.addFinalizer.2 }

/-- With services that store nothing and leave alone what is viewed, such a relation holds of every
piece of a run. -/
theorem Respects.pieces {view : Metadata → ν} {R : Attempt σ → Attempt σ → Prop} {cloud : Cloud σ}
    (h : Respects view R) (hquiet : cloud.Quiet) (hkeeps : cloud.Keeps view) : Pieces cloud R where
  refl a := h.advances (.refl a : a.Advances view .reconcile a)
  trans := h.trans
  call context call a := h.advances (advances_call hquiet hkeeps context call a)
  lookUp host a := h.advances (advances_lookUp cloud host a : a.Advances view .reconcile _)
  countFailure call a := h.advances (advances_countFailure a call : a.Advances view .reconcile _)
  update hstages a := h.advances (advances_update hstages a : a.Advances view .reconcile _)
  persist := h.persist
  addFinalizer := h.addFinalizer

end Attempt

end ClusterInfra
