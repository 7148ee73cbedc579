import ClusterInfra.Proofs.Reconcile.Creation
/-!
What a complete deletion leaves of the object.

The scope drops every occurrence of the finalizer, and the patch that persists this takes out the
first one only. So the stored list loses one occurrence, and the object goes if nothing else was in
the list. An object that has the finalizer more than once is still there with the rest of them.
-/

namespace ClusterInfra

variable {σ : Type} {cloud : Cloud σ}

/-! ### Lists of finalizers -/

/-- The stored copy of an object is what has come of its list of finalizers: gone if none is left,
and there with exactly these otherwise. -/
def LeftWith (stored : Option AwsCluster) (finalizers : List String) : Prop :=
  stored.map (·.metadata.finalizers) = if finalizers = [] then none else some (some finalizers)

instance (stored : Option AwsCluster) (finalizers : List String) :
    Decidable (LeftWith stored finalizers) :=
  inferInstanceAs (Decidable (_ = _))

/-- There is at most one list of finalizers that an object is left with. -/
theorem LeftWith.unique {stored : Option AwsCluster} {a b : List String}
    (ha : LeftWith stored a) (hb : LeftWith stored b) : a = b := by
  have heq := ha.symm.trans hb
  split at heq <;> split at heq
  next hanil hbnil => rw [hanil, hbnil]
  next => cases heq
  next => cases heq
  next => exact Option.some.inj (Option.some.inj heq)

/-- Persisting the removal of the finalizer from an object that is being deleted takes out the first
occurrence. -/
theorem Persisted.leftWith {before after : AwsCluster} {version : Option String}
    {stored : Option AwsCluster} {patches : List Json.Patch} {finalizers : List String}
    (h : Persisted before after (some before) (.ok version) stored patches)
    (hdeleting : before.metadata.isDeleting = true)
    (hfinalizers : before.metadata.finalizers = some finalizers)
    (hmem : clusterFinalizer ∈ finalizers) (hafter : after.hasFinalizer = false) :
    LeftWith stored (finalizers.erase clusterFinalizer) := by
  have hbefore := (AwsCluster.hasFinalizer_iff before).2 ⟨finalizers, hfinalizers, hmem⟩
  cases h with
  | @done _ middle updated _ _ hstatus hobject =>
    obtain ⟨hmiddle, hmiddleFinalizers⟩ := hstatus.of_statusPatch
    obtain ⟨hupdated, hmoves⟩ := hobject.of_objectPatch
    obtain ⟨found, hfound, hleft⟩ := hmoves.eq_of_removed hbefore hafter
    have hfound : found = finalizers :=
      Option.some.inj (hfound.symm.trans (hmiddleFinalizers.trans hfinalizers))
    rw [hfound, hfinalizers, Option.getD_some, Changes.finalizerIndex,
      ← List.erase_eq_eraseIdx_of_idxOf rfl] at hleft
    have hisDeleting : updated.metadata.isDeleting = true :=
      hupdated.isDeleting.trans (hmiddle.isDeleting.trans hdeleting)
    rw [AwsCluster.isFinished, hisDeleting, hleft, Bool.true_and, Option.getD_some, LeftWith]
    by_cases hnil : finalizers.erase clusterFinalizer = []
    · rw [if_pos hnil, hnil]
      rfl
    · rw [if_neg hnil, if_neg (by simpa using hnil), Option.map_some, hleft]

namespace Attempt

/-- Closing an attempt whose scope has dropped the finalizer takes out the first occurrence. -/
theorem leftWith_of_close {a : Attempt σ} (hheld : a.held = some a.scope.saved)
    (hkey : a.scope.object.key = a.scope.saved.key)
    (hremoved : a.scope.object.hasFinalizer = false)
    (hdeleting : a.scope.saved.metadata.isDeleting = true) {finalizers : List String}
    (hfinalizers : a.scope.saved.metadata.finalizers = some finalizers)
    (hmem : clusterFinalizer ∈ finalizers) (hclosed : a.close.1 = .ok ()) :
    LeftWith (a.close.2.world.store.awsClusters.get? a.scope.saved.key)
      (finalizers.erase clusterFinalizer) := by
  have hstages := a.scope.stages_conclude a.world.clock.read.1
  have hfinalizer := (AwsCluster.hasFinalizer_iff a.scope.saved).2 ⟨finalizers, hfinalizers, hmem⟩
  rw [close] at hclosed ⊢
  generalize hb : a.update (fun now scope => scope.conclude now) = b at hclosed
  have hstore : b.world.store = a.world.store := by rw [← hb]; rfl
  have hsaved : b.scope.saved = a.scope.saved := by rw [← hb]; rfl
  have hmetadata : b.scope.object.metadata = a.scope.object.metadata := by
    rw [← hb]
    exact hstages.metadata
  have hafter : b.scope.object.hasFinalizer = false := by
    rw [AwsCluster.hasFinalizer, hmetadata]
    exact hremoved
  have hobjectKey : b.scope.object.key = a.scope.saved.key := by
    rw [AwsCluster.key, hmetadata]
    exact hkey
  have hchanges : b.scope.hasChanges = true := by
    refine Scope.hasChanges_of_hasFinalizer_ne ?_
    rw [hsaved, hfinalizer, hafter]
    decide
  have hpersists := b.persists_of_persist
  generalize b.persist = persisted at hpersists hclosed
  rcases persisted with ⟨result, c⟩
  cases hpersists with
  | unchanged hunchanged =>
    rw [hchanges] at hunchanged
    cases hunchanged
  | failed => cases hclosed
  | done faults hpersisted halters =>
    rw [hobjectKey] at hpersisted halters
    rw [Attempt.held, ← hstore] at hheld
    rw [hheld, hsaved] at hpersisted
    rw [halters.stored]
    exact hpersisted.leftWith hdeleting hfinalizers hmem hafter

/-- A delete pass that succeeds and is persisted takes out the first occurrence of the finalizer. -/
theorem leftWith_of_run (hquiet : cloud.Quiet) (hkeeps : cloud.Keeps Metadata.key)
    {dnsRequeue : Nat} {a : Attempt σ} (hfresh : a.Fresh)
    (hdeleting : a.scope.saved.metadata.isDeleting = true) {finalizers : List String}
    (hfinalizers : a.scope.saved.metadata.finalizers = some finalizers)
    (hmem : clusterFinalizer ∈ finalizers) {outcome : Outcome}
    (hresult : (run cloud dnsRequeue true a).1 = .ok outcome) :
    LeftWith ((run cloud dnsRequeue true a).2.world.store.awsClusters.get? a.scope.saved.key)
      (finalizers.erase clusterFinalizer) := by
  have horder := advances_deleteInOrder hquiet hkeeps a.scope.context Subsystem.deletionOrder a
  rw [run, if_pos rfl] at hresult ⊢
  rcases hdelete : a.deleteInOrder cloud a.scope.context Subsystem.deletionOrder with
    ⟨_ | ⟨first, others⟩, b⟩
  · rw [hdelete] at horder
    rw [runDelete_of_nil hdelete] at hresult ⊢
    rw [finish_snd]
    let released : Attempt σ := { b with scope := b.scope.removeFinalizer.2 }
    have hsaved : released.scope.saved = a.scope.saved :=
      (b.scope.saved_edit .removeFinalizer).trans horder.saved
    have hheld : released.held = some released.scope.saved := by
      rw [Attempt.held, hsaved]
      change b.world.store.awsClusters.get? _ = _
      rw [horder.store]
      exact hfresh.held
    have hkey : released.scope.object.key = released.scope.saved.key := by
      rw [hsaved, ← hfresh.object]
      exact (b.scope.key_edit .removeFinalizer).trans horder.view
    rw [← hsaved] at hdeleting hfinalizers ⊢
    exact leftWith_of_close hheld hkey b.scope.hasFinalizer_removeFinalizer hdeleting hfinalizers
      hmem (finish_fst_eq_ok_iff.1 hresult).2
  · rw [runDelete_of_cons hdelete] at hresult
    cases (finish_fst_eq_ok_iff.1 hresult).1

end Attempt

namespace World

/-- A deletion that succeeds takes out the first occurrence of the finalizer. -/
theorem leftWith_of_invoked {world : World σ} (hkeyed : world.store.Keyed) (hquiet : cloud.Quiet)
    (hkeeps : cloud.Keeps Metadata.key) {dnsRequeue : Nat} {key : ObjectKey} {cancelled : Bool}
    {object : AwsCluster} {owner : Cluster} {finalizers : List String}
    {outcome : Outcome} {after : World σ}
    (hinvoked : world.Invoked cloud dnsRequeue key cancelled (.ok outcome, after))
    (hstored : world.store.awsClusters.get? key = some object)
    (hmanaged : object.metadata.isExternallyManaged = false)
    (howner : world.store.owner? object = some owner)
    (hmode : Mode.observe object (some owner) = .deleting)
    (hfinalizers : object.metadata.finalizers = some finalizers)
    (hmem : clusterFinalizer ∈ finalizers) :
    LeftWith (after.store.awsClusters.get? key) (finalizers.erase clusterFinalizer) := by
  have hdeleting : object.metadata.isDeleting = true := Mode.isDeleting_eq hmode (.inr rfl)
  cases hinvoked with
  | skipped hentry hskips =>
    cases hskips with
    | missing h => cases h.symm.trans hstored
    | managed h hmanaged' =>
      cases h.symm.trans hstored
      rw [hmanaged] at hmanaged'
      cases hmanaged'
    | idle h hidle =>
      cases h.symm.trans hstored
      rw [howner, hmode] at hidle
      rcases hidle with h | h <;> cases h
  | @passed mode scope faults hentry hadmits _ a hrun =>
    have hsaved : scope.saved = object := Option.some.inj (hadmits.stored.symm.trans hstored)
    have howned : scope.cluster = owner := by
      have h := hadmits.owner
      rw [hsaved, howner] at h
      exact (Option.some.inj h).symm
    have hobserved : mode = .deleting := by
      rw [← hadmits.observed, hsaved, howned, hmode]
    subst hobserved hsaved
    have hleft := Attempt.leftWith_of_run hquiet hkeeps (hadmits.fresh hkeyed faults cancelled)
      hdeleting hfinalizers hmem (congrArg Prod.fst hrun)
    rw [show Attempt.run cloud dnsRequeue true _ = (.ok outcome, a) from hrun] at hleft
    rw [← hkeyed key scope.saved hstored]
    exact hleft

/-- After a deletion that succeeded, the stored list has lost the first occurrence of the finalizer,
and an object without finalizers is gone. This is the list without any occurrence exactly if there
was only one. -/
theorem finalizers_after_deletion (hquiet : cloud.Quiet) (hkeeps : cloud.Keeps Metadata.key)
    {dnsRequeue : Nat} {world : World σ} (hworld : world.Reachable cloud dnsRequeue)
    {key : ObjectKey} {cancelled : Bool} {object : AwsCluster} {owner : Cluster}
    {finalizers : List String}
    (hstored : world.store.awsClusters.get? key = some object)
    (hmanaged : object.metadata.isExternallyManaged = false)
    (howner : world.store.owner? object = some owner)
    (hpaused : owner.isPaused = false ∧ object.metadata.isPaused = false)
    (hdeleting : object.metadata.isDeleting = true)
    (hfinalizers : object.metadata.finalizers = some finalizers)
    (hmem : clusterFinalizer ∈ finalizers)
    (hresult : (world.reconcile cloud dnsRequeue key cancelled).1 = .ok .noRequeue) :
    LeftWith ((world.reconcile cloud dnsRequeue key cancelled).2.store.awsClusters.get? key)
        (finalizers.erase clusterFinalizer) ∧
      (LeftWith ((world.reconcile cloud dnsRequeue key cancelled).2.store.awsClusters.get? key)
          (finalizers.filter (· ≠ clusterFinalizer)) ↔
        finalizers.count clusterFinalizer = 1) := by
  have hinvoked := world.invoked_reconcile cloud dnsRequeue key cancelled
  rw [← Prod.eta (world.reconcile cloud dnsRequeue key cancelled), hresult] at hinvoked
  have hmode : Mode.observe object (some owner) = .deleting := by
    rw [Mode.observe, hpaused.1, hpaused.2, hdeleting]
    rfl
  have hleft := leftWith_of_invoked (hworld.keyed hquiet) hquiet hkeeps hinvoked hstored hmanaged
    howner hmode hfinalizers hmem
  refine ⟨hleft, fun h => (erase_eq_filter_iff hmem).1 (hleft.unique h), fun hcount => ?_⟩
  rw [← (erase_eq_filter_iff hmem).2 hcount]
  exact hleft

/-- The finalizers of others stay, and hold the object. -/
theorem finalizers_after_sample_deletion :
    (Sample.holding (Sample.deleted (some ["a", clusterFinalizer, "b"]))).store.awsClusters.get?
        Sample.key = some (Sample.deleted (some ["a", clusterFinalizer, "b"])) ∧
      LeftWith (((Sample.holding (Sample.deleted (some ["a", clusterFinalizer, "b"]))).reconcile
        Cloud.obliging 15 Sample.key false).2.store.awsClusters.get? Sample.key) ["a", "b"] := by
  have hstored : (Sample.holding (Sample.deleted (some ["a", clusterFinalizer, "b"]))
      ).store.awsClusters.get? Sample.key
        = some (Sample.deleted (some ["a", clusterFinalizer, "b"])) := by
    decide +kernel
  have howner : (Sample.holding (Sample.deleted (some ["a", clusterFinalizer, "b"]))).store.owner?
      (Sample.deleted (some ["a", clusterFinalizer, "b"])) = some Sample.owner := by
    decide +kernel
  have hresult : ((Sample.holding (Sample.deleted (some ["a", clusterFinalizer, "b"]))).reconcile
      Cloud.obliging 15 Sample.key false).1 = .ok .noRequeue := by
    decide +kernel
  obtain ⟨hleft, -⟩ := finalizers_after_deletion Cloud.quiet_obliging (Cloud.keeps_obliging _)
    (Sample.reachable_holding _) hstored (by decide) howner (by decide) (by decide) rfl (by decide)
    hresult
  exact ⟨hstored, hleft⟩

/-- An object that has the finalizer twice keeps the second one through a deletion that succeeds. -/
theorem finalizer_left_by_sample_deletion :
    (Sample.holding (Sample.deleted (some [clusterFinalizer, "a", clusterFinalizer]))
        ).store.awsClusters.get? Sample.key
      = some (Sample.deleted (some [clusterFinalizer, "a", clusterFinalizer])) ∧
    Mode.observe (Sample.deleted (some [clusterFinalizer, "a", clusterFinalizer]))
      ((Sample.holding (Sample.deleted (some [clusterFinalizer, "a", clusterFinalizer]))
        ).store.owner? (Sample.deleted (some [clusterFinalizer, "a", clusterFinalizer])))
      = .deleting ∧
    Event.returns ((Sample.holding (Sample.deleted (some [clusterFinalizer, "a", clusterFinalizer]))
        ).reconcile Cloud.obliging 15 Sample.key false).2.journal
      = [(⟨.delete, .bastion⟩, .done), (⟨.delete, .loadBalancer⟩, .done),
          (⟨.delete, .securityGroups⟩, .done), (⟨.delete, .network⟩, .done)] ∧
    ((Sample.holding (Sample.deleted (some [clusterFinalizer, "a", clusterFinalizer]))
        ).reconcile Cloud.obliging 15 Sample.key false).1 = .ok .noRequeue ∧
    LeftWith (((Sample.holding (Sample.deleted (some [clusterFinalizer, "a", clusterFinalizer]))
        ).reconcile Cloud.obliging 15 Sample.key false).2.store.awsClusters.get? Sample.key)
      ["a", clusterFinalizer] ∧
    ¬ LeftWith (((Sample.holding (Sample.deleted (some [clusterFinalizer, "a", clusterFinalizer]))
        ).reconcile Cloud.obliging 15 Sample.key false).2.store.awsClusters.get? Sample.key)
      ([clusterFinalizer, "a", clusterFinalizer].filter (· ≠ clusterFinalizer)) := by
  decide +kernel

end World

end ClusterInfra
