import ClusterInfra.Proofs.Reconcile.Runs
/-!
The finalizer is released only by a complete deletion.

As long as the scope keeps the finalizer that its object was loaded with, no write takes it from a
stored object. Only one piece of one pass gives it up: the end of the delete pass, which is reached
when each of the deletions has succeeded. Any other exit of any pass leaves it where it is.
-/

namespace ClusterInfra

variable {σ : Type} {cloud : Cloud σ}

/-- The stored copy of an object has the finalizer. -/
def Store.Holds (store : Store) (key : ObjectKey) : Prop :=
  ∃ object, store.awsClusters.get? key = some object ∧ object.hasFinalizer = true

instance (store : Store) (key : ObjectKey) : Decidable (store.Holds key) :=
  decidable_of_iff ((store.awsClusters.get? key).any (·.hasFinalizer) = true) (Option.any_eq_true ..)

/-- Persisting a change keeps the finalizer of a stored object, unless it succeeds in taking it from
that object. -/
theorem Store.Holds.alters {store store' : Store} {key other : ObjectKey} {before after : AwsCluster}
    {stored : Option AwsCluster} {result : Except ControllerError (Option String)}
    {patches : List Json.Patch} (h : store.Holds other)
    (hpersisted : Persisted before after (store.awsClusters.get? key) result stored patches)
    (halters : store.Alters key stored patches store')
    (hkeep : ∀ version, result = .ok version → other = key →
      before.hasFinalizer = true → after.hasFinalizer = true) : store'.Holds other := by
  obtain ⟨object, hobject, hfinalizer⟩ := h
  by_cases hother : other = key
  · subst hother
    rw [hobject] at hpersisted
    obtain ⟨updated, rfl, hupdated⟩ :=
      hpersisted.hasFinalizer (fun version hresult => hkeep version hresult rfl) hfinalizer
    exact ⟨updated, halters.stored, hupdated⟩
  · exact ⟨object, (halters.others other hother).trans hobject, hfinalizer⟩

namespace Attempt

/-! ### Keeping the finalizer -/

/-- The scope has not given up the finalizer that its object was last persisted with. -/
def Loyal (a : Attempt σ) : Prop :=
  a.scope.saved.hasFinalizer = true → a.scope.object.hasFinalizer = true

/-- From a loyal scope, the work keeps the scope loyal and the finalizer of every stored object. -/
def Retains (a b : Attempt σ) : Prop :=
  a.Loyal → b.Loyal ∧ ∀ key, a.world.store.Holds key → b.world.store.Holds key

theorem holds_persist (a : Attempt σ) {key : ObjectKey} (h : a.world.store.Holds key)
    (hkeep : a.persist.1 = .ok () → key = a.scope.object.key → a.Loyal) :
    a.persist.2.world.store.Holds key := by
  have hpersists := a.persists_of_persist
  generalize a.persist = persisted at hpersists hkeep
  rcases persisted with ⟨result, b⟩
  cases hpersists with
  | unchanged => exact h
  | failed faults hpersisted halters =>
    exact h.alters hpersisted halters fun version hresult => nomatch hresult
  | done faults hpersisted halters =>
    exact h.alters hpersisted halters fun version _ hkey => hkeep rfl hkey

theorem loyal_persist {a : Attempt σ} (h : a.Loyal) : a.persist.2.Loyal := by
  have hpersists := a.persists_of_persist
  generalize a.persist = persisted at hpersists
  rcases persisted with ⟨result, b⟩
  cases hpersists with
  | unchanged => exact h
  | failed => exact h
  | done => exact fun hsaved => hsaved

/-- Every piece of a pass but the removal keeps the finalizer. -/
theorem respects_retains : Respects (σ := σ) id Retains where
  trans := by
    intro a b c hab hbc ha
    obtain ⟨hb, hstore⟩ := hab ha
    obtain ⟨hc, hstore'⟩ := hbc hb
    exact ⟨hc, fun key h => hstore' key (hstore key h)⟩
  advances := by
    intro action a b h ha
    have hview : b.scope.object.metadata = a.scope.object.metadata := h.view
    refine ⟨fun hsaved => ?_, fun key hkey => h.store ▸ hkey⟩
    rw [h.saved] at hsaved
    rw [AwsCluster.hasFinalizer, hview]
    exact ha hsaved
  persist a := fun ha => ⟨loyal_persist ha, fun _ h => a.holds_persist h fun _ _ => ha⟩
  addFinalizer a := fun _ => ⟨fun _ => a.scope.hasFinalizer_addFinalizer, fun _ h => h⟩

/-! ### The deletions of a pass -/

/-- A deletion that left no error was called and has succeeded. -/
theorem journal_deleteSubsystem {context : ServiceContext} {subsystem : Subsystem}
    {a b : Attempt σ} (h : a.deleteSubsystem cloud context subsystem = (none, b)) :
    ∃ held, b.world.journal = a.world.journal ++ [.built context,
      .called ⟨.delete, subsystem⟩ held, .returned ⟨.delete, subsystem⟩ .done] := by
  simp only [deleteSubsystem, call_eq] at h
  split at h
  next c hcall =>
    cases h
    split at hcall
    · cases hcall
    · have hmade := journal_made cloud context ⟨.delete, subsystem⟩ a
      rw [Prod.mk.injEq] at hcall
      obtain ⟨hending, rfl⟩ := hcall
      refine ⟨a.held, hmade.trans ?_⟩
      cases hreply : (cloud.call ⟨.delete, subsystem⟩ context a.scope.object a.world.cloud).1.ending
        with
      | done => rfl
      | failed error => rw [hreply] at hending; cases hending
      | interrupted => rw [hreply] at hending; cases hending
  next => cases h

/-- Where no error is left, every subsystem was deleted, one after the other. -/
theorem journal_deleteInOrder {context : ServiceContext} :
    ∀ (subsystems : List Subsystem) {a b : Attempt σ},
      a.deleteInOrder cloud context subsystems = ([], b) →
      ∃ events, b.world.journal = a.world.journal ++ events ∧
        Event.calls events = subsystems.map (⟨.delete, ·⟩) ∧
        Event.returns events = subsystems.map fun subsystem => (⟨.delete, subsystem⟩, .done)
  | [], a, b, h => by
    cases h
    exact ⟨[], (List.append_nil _).symm, rfl, rfl⟩
  | subsystem :: rest, a, b, h => by
    rw [deleteInOrder] at h
    rcases hfirst : a.deleteSubsystem cloud context subsystem with ⟨error, c⟩
    rcases hrest : c.deleteInOrder cloud context rest with ⟨errors, d⟩
    simp only [hfirst, hrest, Prod.mk.injEq, List.append_eq_nil_iff, Option.toList_eq_nil_iff] at h
    obtain ⟨⟨rfl, rfl⟩, rfl⟩ := h
    obtain ⟨held, hjournal⟩ := journal_deleteSubsystem hfirst
    obtain ⟨events, hevents, hcalls, hreturns⟩ := journal_deleteInOrder rest hrest
    refine ⟨_, by rw [hevents, hjournal, List.append_assoc], ?_, ?_⟩
    · rw [List.map_cons, ← hcalls]
      rfl
    · rw [List.map_cons, ← hreturns]
      rfl

/-! ### Losing the finalizer -/

theorem journal_close (a : Attempt σ) : a.close.2.world.journal = a.world.journal :=
  (persists_of_persist _).journal

/-- A pass that loses the finalizer of a stored object is a delete pass of that object, which left
no error and was persisted. -/
theorem deleted_of_lost (hquiet : cloud.Quiet) (hkeeps : cloud.Keeps id) (dnsRequeue : Nat)
    (deleting : Bool) {a : Attempt σ} (hloyal : a.Loyal) {key : ObjectKey}
    (hheld : a.world.store.Holds key)
    (hlost : ¬ (run cloud dnsRequeue deleting a).2.world.store.Holds key) :
    deleting = true ∧ key = a.scope.object.key ∧
      (run cloud dnsRequeue deleting a).1 = .ok .noRequeue ∧
      ∃ b, a.deleteInOrder cloud a.scope.context Subsystem.deletionOrder = ([], b) ∧
        (run cloud dnsRequeue deleting a).2.world.journal = b.world.journal := by
  cases deleting with
  | false =>
    have hrun := (respects_retains.pieces hquiet hkeeps).run dnsRequeue false a (fun h => nomatch h)
    exact absurd ((hrun hloyal).2 key hheld) hlost
  | true =>
    rcases hdelete : a.deleteInOrder cloud a.scope.context Subsystem.deletionOrder with
      ⟨_ | ⟨error, errors⟩, b⟩
    · have horder := advances_deleteInOrder hquiet hkeeps a.scope.context Subsystem.deletionOrder a
      rw [hdelete] at horder
      have hb := (respects_retains.advances horder hloyal).2 key hheld
      have hview : b.scope.object.metadata = a.scope.object.metadata := horder.view
      let released : Attempt σ := { b with scope := b.scope.removeFinalizer.2 }
      have hrun : run cloud dnsRequeue true a = finish (.ok .noRequeue, released) := by
        rw [run, if_pos rfl, runDelete_of_nil hdelete]
      rw [hrun, finish_snd] at hlost ⊢
      have hkey : released.scope.object.key = a.scope.object.key :=
        (b.scope.key_edit .removeFinalizer).trans (congrArg Metadata.key hview)
      have hclosed : released.close.1 = .ok () ∧ key = released.scope.object.key := by
        refine Classical.byContradiction fun hnot => hlost (holds_persist _ hb ?_)
        exact fun hresult hkey => absurd ⟨hresult, hkey⟩ hnot
      refine ⟨rfl, hclosed.2.trans hkey, ?_, b, rfl, journal_close released⟩
      exact finish_fst_eq_ok_iff.2 ⟨rfl, hclosed.1⟩
    · have hrun := (respects_retains.pieces hquiet hkeeps).run dnsRequeue true a fun _ b h => by
        rw [hdelete] at h
        cases h
      exact absurd ((hrun hloyal).2 key hheld) hlost

end Attempt

namespace World

/-- An invocation that loses the finalizer of a stored object is one for this object. -/
theorem deleted_of_lost {world : World σ} (hkeyed : world.store.Keyed) (hquiet : cloud.Quiet)
    (hkeeps : cloud.Keeps id) {dnsRequeue : Nat} {key other : ObjectKey} {cancelled : Bool}
    {result : Except ControllerError Outcome} {after : World σ}
    (hinvoked : world.Invoked cloud dnsRequeue key cancelled (result, after))
    (hheld : world.store.Holds other) (hlost : ¬ after.store.Holds other) :
    other = key ∧ result = .ok .noRequeue ∧
      (∃ object, world.store.awsClusters.get? key = some object ∧
        Mode.observe object (world.store.owner? object) = .deleting) ∧
      ∃ events, after.journal = world.journal ++ events ∧
        Event.calls events = Subsystem.deletionOrder.map (⟨.delete, ·⟩) ∧
        Event.returns events
          = Subsystem.deletionOrder.map fun subsystem => (⟨.delete, subsystem⟩, .done) := by
  cases hinvoked with
  | failed => exact absurd hheld hlost
  | skipped => exact absurd hheld hlost
  | @passed mode scope faults hentry hadmits _ a hrun =>
    have hloyal : Attempt.Loyal
        ({ world := { world with faults }, scope, cancelled } : Attempt σ) := fun hsaved =>
      hadmits.object ▸ hsaved
    obtain ⟨hdeleting, rfl, hresult, b, hdelete, hjournal⟩ := Attempt.deleted_of_lost hquiet hkeeps
      dnsRequeue (mode = .deleting) hloyal hheld (by rw [hrun]; exact hlost)
    rw [hrun] at hresult hjournal
    obtain ⟨events, hevents, hcalls, hreturns⟩ := Attempt.journal_deleteInOrder _ hdelete
    have hkey : scope.object.key = key := by
      rw [hadmits.object]
      exact hkeyed key scope.saved hadmits.stored
    refine ⟨hkey, hresult, ⟨scope.saved, hadmits.stored, ?_⟩, events, ?_, hcalls, hreturns⟩
    · rw [hadmits.owner, hadmits.observed]
      exact of_decide_eq_true hdeleting
    · exact hjournal.trans hevents

/-- Whatever happens in a run, the finalizer of a stored object is lost only in an invocation for
this object, which found it to be deleted, called the four deletions in their order, saw each of
them succeed, and succeeded itself. -/
theorem finalizer_lost_only_by_deletion (hquiet : cloud.Quiet) (hkeeps : cloud.Keeps id)
    {dnsRequeue : Nat} {world : World σ} (hworld : world.Reachable cloud dnsRequeue)
    (key other : ObjectKey) (cancelled : Bool) (hheld : world.store.Holds other)
    (hlost : ¬ (world.reconcile cloud dnsRequeue key cancelled).2.store.Holds other) :
    other = key ∧ (world.reconcile cloud dnsRequeue key cancelled).1 = .ok .noRequeue ∧
      (∃ object, world.store.awsClusters.get? key = some object ∧
        Mode.observe object (world.store.owner? object) = .deleting) ∧
      ∃ events, (world.reconcile cloud dnsRequeue key cancelled).2.journal
          = world.journal ++ events ∧
        Event.calls events = [⟨.delete, .bastion⟩, ⟨.delete, .loadBalancer⟩,
          ⟨.delete, .securityGroups⟩, ⟨.delete, .network⟩] ∧
        Event.returns events = [(⟨.delete, .bastion⟩, .done), (⟨.delete, .loadBalancer⟩, .done),
          (⟨.delete, .securityGroups⟩, .done), (⟨.delete, .network⟩, .done)] :=
  deleted_of_lost (hworld.keyed hquiet) hquiet hkeeps (invoked_reconcile ..) hheld hlost

/-- A deletion with obliging services loses the finalizer, and succeeds. -/
theorem finalizer_lost_by_obliging_deletion :
    (Sample.holding (Sample.deleted (some [clusterFinalizer]))).store.Holds Sample.key ∧
      ¬ ((Sample.holding (Sample.deleted (some [clusterFinalizer]))).reconcile Cloud.obliging 15
        Sample.key false).2.store.Holds Sample.key ∧
      ((Sample.holding (Sample.deleted (some [clusterFinalizer]))).reconcile Cloud.obliging 15
        Sample.key false).1 = .ok .noRequeue := by
  have hheld : (Sample.holding (Sample.deleted (some [clusterFinalizer]))).store.Holds
      Sample.key := by
    decide +kernel
  have hlost : ¬ ((Sample.holding (Sample.deleted (some [clusterFinalizer]))).reconcile
      Cloud.obliging 15 Sample.key false).2.store.Holds Sample.key := by
    decide +kernel
  obtain ⟨-, hresult, -⟩ := finalizer_lost_only_by_deletion Cloud.quiet_obliging
    (Cloud.keeps_obliging id) (Sample.reachable_holding _) Sample.key Sample.key false hheld hlost
  exact ⟨hheld, hlost, hresult⟩

end World

end ClusterInfra
