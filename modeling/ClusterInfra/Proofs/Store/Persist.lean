import ClusterInfra.Proofs.Store.Patched
/-!
What persisting a change does to the store.

A change is persisted in at most two writes to one object: the status, then finalizer and spec.
Where the first is refused nothing happens, where the second is refused the first stays, and where
both come through the object goes if nothing holds it any more. All else in the store stays.
-/

namespace ClusterInfra

open Json

namespace AwsCluster

/-- An object with the finalizer is not finished. -/
theorem isFinished_of_hasFinalizer {object : AwsCluster} (h : object.hasFinalizer = true) :
    object.isFinished = false := by
  obtain ⟨finalizers, hfinalizers, hmem⟩ := (hasFinalizer_iff object).1 h
  cases finalizers with
  | nil => cases hmem
  | cons => simp [isFinished, hfinalizers]

/-- A write takes an object with the version that is expected of it to an object with its version:
it applies the patch, if there is one. -/
inductive Writes (object : AwsCluster) (version : Option String) :
    Option Patch → AwsCluster → Option String → Prop
  | nothing : Writes object version none object version
  | applied {patch : Patch} {updated : AwsCluster} (h : object.patched patch = .ok updated) :
      Writes object version (some patch) updated updated.metadata.resourceVersion

namespace Writes

variable {before after object updated : AwsCluster} {version version' : Option String}

theorem of_statusPatch
    (h : object.Writes version (Changes.statusPatch? before after version) updated version') :
    object.SameObject updated ∧ updated.metadata.finalizers = object.metadata.finalizers := by
  generalize hpatch : Changes.statusPatch? before after version = patch? at h
  cases h with
  | nothing => exact ⟨.refl object, rfl⟩
  | applied h =>
    obtain ⟨-, hfollows, hfinalizers⟩ := Changes.follows_of_statusPatch hpatch h
    exact ⟨hfollows.toSameObject, hfinalizers⟩

theorem of_objectPatch
    (h : object.Writes version (Changes.objectPatch? before after version) updated version') :
    object.SameObject updated ∧ Changes.MovesFinalizers before after object.metadata.finalizers
      updated.metadata.finalizers := by
  generalize hpatch : Changes.objectPatch? before after version = patch? at h
  cases h with
  | nothing =>
    exact ⟨.refl object, Changes.movesFinalizers_of_objectPatch_eq_none hpatch _⟩
  | applied h =>
    obtain ⟨-, hfollows, hmoves⟩ := Changes.follows_of_objectPatch hpatch h
    exact ⟨hfollows.toSameObject, hmoves⟩

end Writes

end AwsCluster

/-- What comes of persisting a change: from the stored copy of the object, with the result, to the
copy stored afterwards, by the patches that were applied. -/
inductive Persisted (before after : AwsCluster) : Option AwsCluster →
    Except ControllerError (Option String) → Option AwsCluster → List Patch → Prop
  /-- Nothing was written. -/
  | refused (stored : Option AwsCluster) (e : ControllerError) :
      Persisted before after stored (.error e) stored []
  /-- The status was written, and then finalizer and spec were refused. -/
  | halfway {object middle : AwsCluster} {version : Option String} (e : ControllerError)
      (hstatus : object.Writes before.metadata.resourceVersion
        (Changes.statusPatch? before after before.metadata.resourceVersion) middle version) :
      Persisted before after (some object) (.error e) (some middle)
        (Changes.statusPatch? before after before.metadata.resourceVersion).toList
  /-- All was written. -/
  | done {object middle updated : AwsCluster} {version version' : Option String}
      (hstatus : object.Writes before.metadata.resourceVersion
        (Changes.statusPatch? before after before.metadata.resourceVersion) middle version)
      (hobject : middle.Writes version (Changes.objectPatch? before after version) updated version') :
      Persisted before after (some object) (.ok version')
        (if updated.isFinished then none else some updated)
        ((Changes.statusPatch? before after before.metadata.resourceVersion).toList
          ++ (Changes.objectPatch? before after version).toList)

namespace Persisted

variable {before after object updated : AwsCluster} {stored : Option AwsCluster}
  {result : Except ControllerError (Option String)} {patches : List Patch}

/-- What is stored afterwards is the same object. -/
theorem sameObject (h : Persisted before after (some object) result (some updated) patches) :
    object.SameObject updated := by
  generalize hstored : some updated = stored at h
  cases h with
  | refused => cases hstored; exact .refl object
  | halfway e hstatus => cases hstored; exact hstatus.of_statusPatch.1
  | done hstatus hobject =>
    split at hstored
    · cases hstored
    · cases hstored
      exact hstatus.of_statusPatch.1.trans hobject.of_objectPatch.1

/-- No object comes into being. -/
theorem eq_none (h : Persisted before after none result stored patches) : stored = none := by
  cases h
  rfl

/-- A stored object that has the finalizer stays and keeps it, unless a change that takes it away is
persisted. -/
theorem hasFinalizer (h : Persisted before after (some object) result stored patches)
    (hkeep : ∀ version, result = .ok version →
      before.hasFinalizer = true → after.hasFinalizer = true)
    (hobject : object.hasFinalizer = true) :
    ∃ updated, stored = some updated ∧ updated.hasFinalizer = true := by
  have hmem := (AwsCluster.hasFinalizer_iff object).1 hobject
  cases h with
  | refused => exact ⟨object, rfl, hobject⟩
  | halfway e hstatus =>
    rw [← hstatus.of_statusPatch.2] at hmem
    exact ⟨_, rfl, (AwsCluster.hasFinalizer_iff _).2 hmem⟩
  | @done _ middle updated _ _ hstatus hwrite =>
    rw [← hstatus.of_statusPatch.2] at hmem
    have hupdated := (AwsCluster.hasFinalizer_iff updated).2
      (hwrite.of_objectPatch.2.mem (hkeep _ rfl) hmem)
    exact ⟨updated, by rw [AwsCluster.isFinished_of_hasFinalizer hupdated]; rfl, hupdated⟩

/-- A change that adds the finalizer and is persisted leaves the object stored with it. -/
theorem hasFinalizer_of_added {version : Option String}
    (h : Persisted before after (some object) (.ok version) stored patches)
    (hbefore : before.hasFinalizer = false) (hafter : after.hasFinalizer = true) :
    ∃ updated, stored = some updated ∧ updated.hasFinalizer = true := by
  cases h with
  | @done _ middle updated _ _ hstatus hwrite =>
    have hupdated := (AwsCluster.hasFinalizer_iff updated).2
      (hwrite.of_objectPatch.2.mem_of_added hbefore hafter)
    exact ⟨updated, by rw [AwsCluster.isFinished_of_hasFinalizer hupdated]; rfl, hupdated⟩

end Persisted

namespace Table

variable {κ α : Type} [DecidableEq κ]

/-- Putting a value where it is changes nothing. -/
theorem insert_eq_self {table : Table κ α} {key : κ} {value : α} (h : table.get? key = some value) :
    table.insert key value = table := by
  refine ext fun other => ?_
  by_cases ho : other = key
  · rw [ho, get?_insert_self, h]
  · rw [get?_insert_of_ne _ ho]

theorem insert_insert (table : Table κ α) (key : κ) (value value' : α) :
    (table.insert key value).insert key value' = table.insert key value' := by
  refine ext fun other => ?_
  by_cases ho : other = key
  · rw [ho, get?_insert_self, get?_insert_self]
  · rw [get?_insert_of_ne _ ho, get?_insert_of_ne _ ho, get?_insert_of_ne _ ho]

/-- Taking a value out undoes putting one in. -/
theorem erase_insert (table : Table κ α) (key : κ) (value : α) :
    (table.insert key value).erase key = table.erase key := by
  refine ext fun other => ?_
  by_cases ho : other = key
  · rw [ho, get?_erase_self, get?_erase_self]
  · rw [get?_erase_of_ne _ ho, get?_erase_of_ne _ ho, get?_insert_of_ne _ ho]

end Table

namespace Store

variable {store store' : Store} {key : ObjectKey} {object updated : AwsCluster}
  {version version' : Option String} {patch? : Option Patch}

/-- A write puts the updated object in the place of the stored one and logs the patch. -/
theorem writes_of_write (hstored : store.awsClusters.get? key = some object)
    (h : store.write key object version patch? = .ok (store', updated, version')) :
    object.Writes version patch? updated version' ∧
      store' = { store with
        awsClusters := store.awsClusters.insert key updated, log := store.log ++ patch?.toList } := by
  cases patch? with
  | none =>
    cases h
    refine ⟨.nothing, ?_⟩
    rw [Table.insert_eq_self hstored, Option.toList_none, List.append_nil]
  | some patch =>
    rw [write] at h
    cases hpatched : object.patched patch with
    | error e => simp [hpatched, bind, Except.bind] at h
    | ok result =>
      simp only [hpatched, bind, Except.bind, pure, Except.pure, Except.ok.injEq,
        Prod.mk.injEq] at h
      obtain ⟨rfl, rfl, rfl⟩ := h
      exact ⟨.applied hpatched, rfl⟩

/-- What is stored after an object may have been removed was stored before. -/
theorem get?_of_get?_collect {found : AwsCluster}
    (h : (store.collect key object).awsClusters.get? key = some found) :
    store.awsClusters.get? key = some found := by
  rw [collect] at h
  split at h
  · cases (Table.get?_erase_self store.awsClusters key).symm.trans h
  · exact h

/-- The store after persisting: the object at the key of the change is as it came of it, the patches
are logged, and all else is as before. -/
structure Alters (store : Store) (key : ObjectKey) (stored : Option AwsCluster)
    (patches : List Patch) (store' : Store) : Prop where
  stored : store'.awsClusters.get? key = stored
  others : ∀ other, other ≠ key → store'.awsClusters.get? other = store.awsClusters.get? other
  clusters : store'.clusters = store.clusters
  log : store'.log = store.log ++ patches

theorem Alters.unchanged (store : Store) (key : ObjectKey) :
    store.Alters key (store.awsClusters.get? key) [] store :=
  ⟨rfl, fun _ _ => rfl, rfl, (List.append_nil _).symm⟩

theorem persisted_of_persist (store : Store) (before after : AwsCluster) :
    ∃ stored patches, Persisted before after (store.awsClusters.get? after.key)
        (store.persist before after).1 stored patches ∧
      store.Alters after.key stored patches (store.persist before after).2 := by
  rw [persist]
  split
  next hmissing => exact ⟨_, [], .refused _ _, .unchanged store _⟩
  next object hstored =>
    simp only
    rw [hstored]
    split
    next e hstatus => exact ⟨_, [], .refused _ _, hstored ▸ .unchanged store _⟩
    next middleStore middle version hwrite =>
      obtain ⟨hstatus, rfl⟩ := writes_of_write hstored hwrite
      have hmiddle : (store.awsClusters.insert after.key middle).get? after.key = some middle :=
        Table.get?_insert_self ..
      split
      next e hobject =>
        refine ⟨_, _, .halfway _ hstatus, hmiddle, fun other ho => ?_, rfl, rfl⟩
        exact Table.get?_insert_of_ne _ ho _
      next finalStore updated version' hwrite =>
        obtain ⟨hobject, rfl⟩ := writes_of_write hmiddle hwrite
        refine ⟨_, _, .done hstatus hobject, ?_⟩
        rw [Table.insert_insert, List.append_assoc, collect]
        split
        · refine ⟨Table.get?_erase_self .., fun other ho => ?_, rfl, rfl⟩
          rw [Table.get?_erase_of_ne _ ho, Table.get?_insert_of_ne _ ho]
        · exact ⟨Table.get?_insert_self .., fun other ho => Table.get?_insert_of_ne _ ho _, rfl, rfl⟩

end Store

end ClusterInfra
