import ClusterInfra.Proofs.Sample
import ClusterInfra.Proofs.Store.Persist
import ClusterInfra.Proofs.Store.RoundTrip
/-!
A change that is refused.

Persisting a change can fail before anything is written, or after the status. So a failed call
leaves the store as it was, or with the status written as a whole: never with a part of a patch, for
a patch applies as a whole or not at all. A change that was made to another version than the stored
one is refused before anything is written.
-/

namespace ClusterInfra

open Json (Patch)
open Changes (statusPatch? objectPatch? Expects)

namespace Sample

/-- A store with the object without finalizers, of the first version. -/
def stored : Store :=
  ({} : Store).insertAwsCluster (object none)

/-- The object ready and without the finalizer, in an empty list. -/
def released : AwsCluster :=
  { object (some []) with status := some { ready := true } }

end Sample

/-- Two states between which there is something to write. -/
def Changes.Differ (before after : AwsCluster) : Prop :=
  before.status ≠ after.status ∨ before.spec ≠ after.spec ∨
    before.hasFinalizer ≠ after.hasFinalizer

namespace AwsCluster.Writes

variable {object updated : AwsCluster} {version version' : Option String} {patch? : Option Patch}

/-- A write whose patch does not apply is one without a patch. -/
theorem nothing_of (h : object.Writes version patch? updated version')
    (hnone : ∀ patch, patch? = some patch → object.patched patch ≠ .ok updated) :
    patch? = none ∧ updated = object ∧ version' = version := by
  cases h with
  | nothing => exact ⟨rfl, rfl, rfl⟩
  | applied hpatched => exact (hnone _ rfl hpatched).elim

end AwsCluster.Writes

namespace Store

variable {store store' : Store} {before after object updated : AwsCluster} {key : ObjectKey}
  {patches : List Patch}

/-- What is at the key, and what is logged, tell the store. -/
theorem Alters.unique {stored : Option AwsCluster} {a b : Store}
    (ha : store.Alters key stored patches a) (hb : store.Alters key stored patches b) : a = b := by
  have hawsClusters : a.awsClusters = b.awsClusters := by
    refine Table.ext fun other => ?_
    by_cases ho : other = key
    · rw [ho, ha.stored, hb.stored]
    · rw [ha.others other ho, hb.others other ho]
  have hclusters := ha.clusters.trans hb.clusters.symm
  have hlog := ha.log.trans hb.log.symm
  cases a
  cases b
  cases hawsClusters
  cases hclusters
  cases hlog
  rfl

theorem alters_insert (store : Store) (key : ObjectKey) (updated : AwsCluster)
    (patches : List Patch) : store.Alters key (some updated) patches { store with
      awsClusters := store.awsClusters.insert key updated, log := store.log ++ patches } :=
  ⟨Table.get?_insert_self .., fun _ ho => Table.get?_insert_of_ne _ ho _, rfl, rfl⟩

/-- The object is replaced by the result of the whole patch of the status, which is logged. -/
structure StatusOnly (store : Store) (before after : AwsCluster) (store' : Store)
    (object updated : AwsCluster) (patch : Patch) : Prop where
  stored : store.awsClusters.get? after.key = some object
  written : statusPatch? before after before.metadata.resourceVersion = some patch
  patched : object.patched patch = .ok updated
  rest : updated = { object with status := updated.status }.withVersion
    (some (nextVersion object.metadata.resourceVersion))
  result : store' = { store with
    awsClusters := store.awsClusters.insert after.key updated, log := store.log ++ [patch] }

/-- A failed call writes nothing, or the whole status. -/
theorem unchanged_or_statusOnly {e : ControllerError}
    (h : store.persist before after = (.error e, store')) :
    store' = store ∨ ∃ object updated patch,
      StatusOnly store before after store' object updated patch := by
  obtain ⟨stored, patches, hpersisted, halters⟩ := store.persisted_of_persist before after
  rw [h] at hpersisted halters
  generalize hstored : store.awsClusters.get? after.key = found at hpersisted
  cases hpersisted with
  | refused =>
    subst hstored
    exact .inl (halters.unique (.unchanged store _))
  | @halfway object middle _ _ hstatus =>
    generalize hpatch : statusPatch? before after before.metadata.resourceVersion = patch?
      at hstatus halters
    cases hstatus with
    | nothing =>
      rw [← hstored] at halters
      exact .inl (halters.unique (.unchanged store _))
    | @applied patch _ hpatched =>
      exact .inr ⟨object, middle, patch, hstored, hpatch, hpatched,
        Changes.eq_of_statusPatch hpatch hpatched, halters.unique (store.alters_insert _ _ _)⟩

/-- No entry comes or goes with it, and the other ones stay. -/
theorem StatusOnly.frame {patch : Patch}
    (h : StatusOnly store before after store' object updated patch) :
    (∀ key, (store'.awsClusters.get? key).isSome = (store.awsClusters.get? key).isSome) ∧
    (∀ key, key ≠ after.key → store'.awsClusters.get? key = store.awsClusters.get? key) ∧
    store'.clusters = store.clusters := by
  have halters := store.alters_insert after.key updated [patch]
  rw [← h.result] at halters
  refine ⟨fun key => ?_, halters.others, halters.clusters⟩
  by_cases hkey : key = after.key
  · rw [hkey, halters.stored, h.stored]
    rfl
  · rw [halters.others key hkey]

/-! ### Outdated changes -/

/-- Where nothing differs nothing is written. -/
theorem persist_of_same (hstored : store.awsClusters.get? after.key = some object)
    (hsame : ¬Changes.Differ before after) :
    store.persist before after
      = (.ok before.metadata.resourceVersion, store.collect after.key object) := by
  simp only [Changes.Differ, not_or, Decidable.not_not] at hsame
  obtain ⟨hstatus, hspec, hfinalizer⟩ := hsame
  have hstatusPatch : ∀ version, statusPatch? before after version = none := fun _ =>
    Changes.statusPatch?_eq_none_iff.2 hstatus
  have hobjectPatch : ∀ version, objectPatch? before after version = none := fun _ =>
    Changes.objectPatch?_eq_none_iff.2 ⟨hspec, hfinalizer⟩
  simp only [persist, hstored, write, hstatusPatch, hobjectPatch]

/-- A change to another version than the stored one is refused by the first patch. -/
theorem persist_of_outdated (hstored : store.awsClusters.get? after.key = some object)
    (houtdated : ¬Expects before.metadata.resourceVersion object)
    (hdiffers : Changes.Differ before after) :
    ∃ e, store.persist before after = (.error e, store) := by
  have hstatus : ∀ patch updated, statusPatch? before after before.metadata.resourceVersion
      = some patch → object.patched patch ≠ .ok updated := fun patch updated hpatch hpatched =>
    houtdated (Changes.follows_of_statusPatch hpatch hpatched).1
  have hobject : ∀ patch updated, objectPatch? before after before.metadata.resourceVersion
      = some patch → object.patched patch ≠ .ok updated := fun patch updated hpatch hpatched =>
    houtdated (Changes.follows_of_objectPatch hpatch hpatched).1
  cases hresult : store.persist before after with
  | mk result store' =>
    cases result with
    | error e =>
      refine ⟨e, ?_⟩
      rcases unchanged_or_statusOnly hresult with rfl | ⟨_, updated, patch, h⟩
      · rfl
      · cases hstored.symm.trans h.stored
        exact (hstatus patch updated h.written h.patched).elim
    | ok version =>
      obtain ⟨stored, patches, hpersisted, -⟩ := store.persisted_of_persist before after
      rw [hresult, hstored] at hpersisted
      cases hpersisted with
      | done hwrite hwrite' =>
        obtain ⟨hnone, rfl, rfl⟩ := hwrite.nothing_of fun patch hpatch => hstatus patch _ hpatch
        obtain ⟨hnone', -⟩ := hwrite'.nothing_of fun patch hpatch => hobject patch _ hpatch
        -- nothing was to be written, so nothing differs
        obtain ⟨hspec, hfinalizer⟩ := Changes.objectPatch?_eq_none_iff.1 hnone'
        rcases hdiffers with hne | hne | hne
        · exact (hne (Changes.statusPatch?_eq_none_iff.1 hnone)).elim
        · exact (hne hspec).elim
        · exact (hne hfinalizer).elim

/-- A failed call leaves everything as it was, or it leaves the addressed object with the whole new
status and nothing else. A change to another version than the stored one is of the first kind; it
fails whenever there is something to write. -/
theorem failed_persist_is_whole (store : Store) (before after : AwsCluster) :
    (∀ e store', store.persist before after = (.error e, store') →
      (∀ key, (store'.awsClusters.get? key).isSome = (store.awsClusters.get? key).isSome) ∧
      (∀ key, key ≠ after.key → store'.awsClusters.get? key = store.awsClusters.get? key) ∧
      store'.clusters = store.clusters ∧
      (store' = store ∨ ∃ object updated patch,
        StatusOnly store before after store' object updated patch)) ∧
    ∀ object version, store.awsClusters.get? after.key = some object →
      before.metadata.resourceVersion = some version →
      object.metadata.resourceVersion ≠ some version →
        (∀ e store', store.persist before after = (.error e, store') → store' = store) ∧
        (Changes.Differ before after → ∃ e, store.persist before after = (.error e, store)) ∧
        (¬Changes.Differ before after → store.persist before after
          = (.ok before.metadata.resourceVersion, store.collect after.key object)) := by
  constructor
  · intro e store' h
    rcases unchanged_or_statusOnly h with rfl | ⟨object, updated, patch, hstatus⟩
    · exact ⟨fun _ => rfl, fun _ _ => rfl, rfl, .inl rfl⟩
    · obtain ⟨hentries, hothers, hclusters⟩ := hstatus.frame
      exact ⟨hentries, hothers, hclusters, .inr ⟨object, updated, patch, hstatus⟩⟩
  · intro object version hstored hversion hstale
    have houtdated : ¬Expects before.metadata.resourceVersion object := fun hexpects =>
      hstale (hexpects version hversion)
    refine ⟨fun e store' h => ?_, persist_of_outdated hstored houtdated, persist_of_same hstored⟩
    by_cases hdiffers : Changes.Differ before after
    · obtain ⟨_, hrefused⟩ := persist_of_outdated hstored houtdated hdiffers
      exact (Prod.ext_iff.1 (h.symm.trans hrefused)).2
    · cases h.symm.trans (persist_of_same hstored hdiffers)

/-- A status is written, and then the finalizer that is to go is not found; and a change to another
version is refused. -/
theorem sample_failed_persist_is_whole :
    (∃ e store' object updated patch,
      Sample.stored.persist (Sample.object (some [clusterFinalizer])) Sample.released
        = (.error e, store') ∧
      StatusOnly Sample.stored (Sample.object (some [clusterFinalizer])) Sample.released store'
        object updated patch) ∧
    ∃ e, Sample.stored.persist ((Sample.object (some [clusterFinalizer])).withVersion (some "0"))
      Sample.released = (.error e, Sample.stored) := by
  constructor
  · have hfails : (Sample.stored.persist (Sample.object (some [clusterFinalizer]))
        Sample.released).1.toOption = none := by decide +kernel
    have hlog : (Sample.stored.persist (Sample.object (some [clusterFinalizer]))
        Sample.released).2.log ≠ Sample.stored.log := by decide +kernel
    obtain ⟨hwhole, -⟩ := failed_persist_is_whole Sample.stored
      (Sample.object (some [clusterFinalizer])) Sample.released
    cases hresult : Sample.stored.persist (Sample.object (some [clusterFinalizer]))
        Sample.released with
    | mk result store' =>
      rw [hresult] at hfails hlog
      cases result with
      | ok => cases hfails
      | error e =>
        obtain ⟨-, -, -, rfl | ⟨object, updated, patch, hstatus⟩⟩ := hwhole e store' hresult
        · exact (hlog rfl).elim
        · exact ⟨e, store', object, updated, patch, rfl, hstatus⟩
  · obtain ⟨-, houtdated⟩ := failed_persist_is_whole Sample.stored
      ((Sample.object (some [clusterFinalizer])).withVersion (some "0")) Sample.released
    obtain ⟨-, hrefused, -⟩ := houtdated (Sample.object none) "0" (by decide +kernel) rfl
      (by decide)
    exact hrefused (.inl (by decide))

end Store

end ClusterInfra
