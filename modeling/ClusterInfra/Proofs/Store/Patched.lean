import ClusterInfra.Proofs.Resource.Metadata
import ClusterInfra.Store.Memory
/-!
What a patch that persists a change does to the stored object.

Both patches begin with the test of the version that is expected. The patch of the status leaves the
metadata alone but for the version, and the patch of finalizer and spec moves the one finalizer of
this controller. Nothing is assumed about the object that is patched: it need not be the one that
the change started from.
-/

namespace ClusterInfra

open Json Record

namespace AwsCluster

/-- The two documents of metadata and spec are members of the document of an object. -/
theorem encode_eq_obj (object : AwsCluster) : ∃ members : Entries Json,
    Codec.encode object = .obj members ∧
    Entries.find? "metadata" members = some (Codec.encode object.metadata) ∧
    Entries.find? "spec" members = some (Codec.encode object.spec) := by
  refine ⟨_, rfl, ?_, ?_⟩ <;> simp [Entries.find?_append]

/-- The metadata and the spec of an object are read from the members of these names. -/
theorem members_of_decode {members : Entries Json} {read : AwsCluster}
    (h : Codec.decode? (.obj members) = some read) :
    (Entries.find? "metadata" members).bind Codec.decode? = some read.metadata ∧
    (Entries.find? "spec" members).bind Codec.decode? = some read.spec := by
  simp only [Codec.decode?, Option.bind_eq_bind, Option.bind_eq_some_iff, Option.pure_def,
    Option.some.injEq] at h
  obtain ⟨fields, hfields, metadata, hmetadata, spec, hspec, _, -, rfl⟩ := h
  rw [ofMembers?] at hfields
  split at hfields
  · cases hfields
    exact ⟨hmetadata, hspec⟩
  · cases hfields

theorem hasFinalizer_iff (object : AwsCluster) : object.hasFinalizer = true ↔
    ∃ finalizers, object.metadata.finalizers = some finalizers ∧ clusterFinalizer ∈ finalizers := by
  rw [hasFinalizer, Metadata.hasFinalizer]
  cases object.metadata.finalizers <;> simp

/-- Two states of one object, which agree on whether its deletion was requested. -/
structure SameObject (object updated : AwsCluster) : Prop where
  key : updated.key = object.key
  isDeleting : updated.metadata.isDeleting = object.metadata.isDeleting

/-- The same object one version later. -/
structure Follows (object updated : AwsCluster) : Prop extends SameObject object updated where
  version : updated.metadata.resourceVersion = some (nextVersion object.metadata.resourceVersion)

theorem SameObject.refl (object : AwsCluster) : object.SameObject object := ⟨rfl, rfl⟩

theorem SameObject.trans {a b c : AwsCluster} (h : a.SameObject b) (h' : b.SameObject c) :
    a.SameObject c :=
  ⟨h'.key.trans h.key, h'.isDeleting.trans h.isDeleting⟩

/-- A patch that leaves the document of the metadata behind, but for the finalizers, gives the next
version with these finalizers. -/
theorem follows_of_patched {object updated : AwsCluster} {patch : Json.Patch}
    {members : Entries Json} {finalizers : Option (List String)}
    (h : object.patched patch = .ok updated)
    (happly : patch.apply (Codec.encode object) = .ok (.obj members))
    (hmetadata : Entries.find? "metadata" members
      = some (Codec.encode (object.metadata.withFinalizers finalizers))) :
    object.Follows updated ∧ updated.metadata.finalizers = finalizers := by
  simp only [patched, happly] at h
  split at h
  next => cases h
  next read hread =>
    cases h
    have hread := (members_of_decode hread).1
    rw [hmetadata, Option.bind_some, Codec.Faithful.toLossless.decode?_encode] at hread
    obtain ⟨metadata, spec, status⟩ := read
    cases hread
    exact ⟨⟨⟨rfl, rfl⟩, rfl⟩, rfl⟩

/-- The patched object is the one that is read, one version later. -/
theorem patched_eq_ok {object updated : AwsCluster} {patch : Json.Patch} {document : Json}
    (happly : patch.apply (Codec.encode object) = .ok document)
    (hread : Codec.decode? document = some updated) : object.patched patch
      = .ok (updated.withVersion (some (nextVersion updated.metadata.resourceVersion))) := by
  simp only [patched, happly, hread]

theorem exists_apply_of_patched {object updated : AwsCluster} {patch : Json.Patch}
    (h : object.patched patch = .ok updated) :
    ∃ document, patch.apply (Codec.encode object) = .ok document := by
  rw [patched] at h
  split at h
  next => cases h
  next document hdocument => exact ⟨document, hdocument⟩

end AwsCluster

namespace Changes

variable {before after object updated : AwsCluster} {version : Option String} {patch : Patch}

/-- The version that a write expects is the one that it finds. -/
def Expects (version : Option String) (object : AwsCluster) : Prop :=
  ∀ expected, version = some expected → object.metadata.resourceVersion = some expected

/-- The guard lets the expected version through, and changes nothing. -/
theorem expects_of_apply_guard {document : Json}
    (h : (guard version).apply (Codec.encode object) = .ok document) :
    document = Codec.encode object ∧ Expects version object := by
  cases version with
  | none => exact ⟨(Patch.apply_nil_eq_ok_iff.1 h).symm, fun _ h => nomatch h⟩
  | some expected =>
    obtain ⟨next, hnext, hnil⟩ := Patch.apply_cons_eq_ok_iff.1 h
    cases Patch.apply_nil_eq_ok_iff.1 hnil
    obtain ⟨hget, hdocument⟩ := Operation.apply_test_eq_ok_iff.1 hnext
    refine ⟨hdocument, fun _ heq => ?_⟩
    cases heq
    obtain ⟨members, hmembers, hmetadata, -⟩ := object.encode_eq_obj
    rw [hmembers, get?, child?, hmetadata, Option.bind_some, get?] at hget
    have hversion : (object.metadata.resourceVersion.map Codec.encode).bind (get? [])
        = some (.str expected) := by
      rw [← Metadata.member?_resourceVersion]
      exact hget
    simpa [Option.bind_eq_some_iff, get?, Codec.encode] using hversion

/-! ### The status -/

theorem isBelow_statusOperations (before after : Option AwsClusterStatus) :
    Patch.IsBelow "status" (statusOperations before after) := by
  unfold statusOperations
  split
  · intro operation hmem
    cases List.mem_singleton.1 hmem
    rfl
  · rw [diff_single]
    exact Patch.isBelow_map_under _ _

/-- A patch of the status leaves a document with metadata and spec as they were. -/
theorem members_of_statusPatch {document : Json}
    (hpatch : statusPatch? before after version = some patch)
    (happly : patch.apply (Codec.encode object) = .ok document) :
    Expects version object ∧ ∃ members, document = .obj members ∧
      Entries.find? "metadata" members = some (Codec.encode object.metadata) ∧
      Entries.find? "spec" members = some (Codec.encode object.spec) := by
  rw [statusPatch?] at hpatch
  split at hpatch
  next => cases hpatch
  cases hpatch
  obtain ⟨middle, hguard, hstatus⟩ := Patch.apply_append_eq_ok_iff.1 happly
  obtain ⟨rfl, hexpects⟩ := expects_of_apply_guard hguard
  obtain ⟨members, hmembers, hmetadata, hspec⟩ := object.encode_eq_obj
  rw [hmembers] at hstatus
  obtain ⟨members', rfl, hsame⟩ := Patch.apply_obj (isBelow_statusOperations _ _) hstatus
  exact ⟨hexpects, members', rfl, (hsame.find? "metadata" (by decide)).trans hmetadata,
    (hsame.find? "spec" (by decide)).trans hspec⟩

/-- What is read afterwards has metadata and spec as they were. -/
theorem untouched_of_statusPatch {document : Json} {read : AwsCluster}
    (hpatch : statusPatch? before after version = some patch)
    (happly : patch.apply (Codec.encode object) = .ok document)
    (hread : Codec.decode? document = some read) :
    read.metadata = object.metadata ∧ read.spec = object.spec := by
  obtain ⟨-, members, rfl, hmetadata, hspec⟩ := members_of_statusPatch hpatch happly
  obtain ⟨hmetadata', hspec'⟩ := AwsCluster.members_of_decode hread
  rw [hmetadata, Option.bind_some, Codec.Faithful.toLossless.decode?_encode,
    Option.some.injEq] at hmetadata'
  rw [hspec, Option.bind_some, Codec.Faithful.toLossless.decode?_encode,
    Option.some.injEq] at hspec'
  exact ⟨hmetadata'.symm, hspec'.symm⟩

/-- A patch of the status changes nothing but the status and the version. -/
theorem eq_of_statusPatch (hpatch : statusPatch? before after version = some patch)
    (h : object.patched patch = .ok updated) :
    updated = { object with status := updated.status }.withVersion
      (some (nextVersion object.metadata.resourceVersion)) := by
  rw [AwsCluster.patched] at h
  split at h
  next => cases h
  next document happly =>
    split at h
    next => cases h
    next read hread =>
      cases h
      obtain ⟨hmetadata, hspec⟩ := untouched_of_statusPatch hpatch happly hread
      rw [← hmetadata, ← hspec]
      rfl

/-- A patch of the status gives the next version, with the finalizers as they were. -/
theorem follows_of_statusPatch (hpatch : statusPatch? before after version = some patch)
    (h : object.patched patch = .ok updated) :
    Expects version object ∧ object.Follows updated ∧
      updated.metadata.finalizers = object.metadata.finalizers := by
  obtain ⟨document, hdocument⟩ := AwsCluster.exists_apply_of_patched h
  obtain ⟨hexpects, members, rfl, hmetadata, -⟩ := members_of_statusPatch hpatch hdocument
  exact ⟨hexpects, AwsCluster.follows_of_patched h hdocument hmetadata⟩

/-! ### Finalizer and spec -/

theorem isBelow_specOperations (before after : AwsClusterSpec) :
    Patch.IsBelow "spec" (specOperations before after) := by
  unfold specOperations
  split
  · intro operation hmem
    cases hmem
  · rw [diff_single]
    exact Patch.isBelow_map_under _ _

/-- How the stored finalizers change when a change is persisted. -/
inductive MovesFinalizers (before after : AwsCluster) :
    Option (List String) → Option (List String) → Prop
  /-- The finalizer is added at the end of the stored list, where the change started from a list. -/
  | appended (hbefore : before.hasFinalizer = false) (hafter : after.hasFinalizer = true)
      (hlist : before.metadata.finalizers.isSome) (stored : List String) :
      MovesFinalizers before after (some stored) (some (stored ++ [clusterFinalizer]))
  /-- The finalizer is put into a list of its own, where the change started from no list. -/
  | created (hbefore : before.hasFinalizer = false) (hafter : after.hasFinalizer = true)
      (hlist : before.metadata.finalizers = none) (stored : Option (List String)) :
      MovesFinalizers before after stored (some [clusterFinalizer])
  /-- The finalizer is removed where the list that the change started from has it first. -/
  | removed (hbefore : before.hasFinalizer = true) (hafter : after.hasFinalizer = false)
      (stored : List String)
      (hfound : stored[finalizerIndex (before.metadata.finalizers.getD [])]?
        = some clusterFinalizer) :
      MovesFinalizers before after (some stored)
        (some (stored.eraseIdx (finalizerIndex (before.metadata.finalizers.getD []))))
  /-- Where the change is not about the finalizer, the stored list stays. -/
  | kept (hsame : before.hasFinalizer = after.hasFinalizer) (stored : Option (List String)) :
      MovesFinalizers before after stored stored

/-- A change that does not take the finalizer away leaves it in the stored list. -/
theorem MovesFinalizers.mem {stored updated : Option (List String)}
    (h : MovesFinalizers before after stored updated)
    (hkeep : before.hasFinalizer = true → after.hasFinalizer = true)
    (hmem : ∃ finalizers, stored = some finalizers ∧ clusterFinalizer ∈ finalizers) :
    ∃ finalizers, updated = some finalizers ∧ clusterFinalizer ∈ finalizers := by
  cases h with
  | appended _ _ _ stored => exact ⟨_, rfl, by simp⟩
  | created _ _ _ stored => exact ⟨_, rfl, by simp⟩
  | removed hbefore hafter => rw [hkeep hbefore] at hafter; cases hafter
  | kept _ stored => exact hmem

/-- A change that adds the finalizer leaves it in the stored list. -/
theorem MovesFinalizers.mem_of_added {stored updated : Option (List String)}
    (h : MovesFinalizers before after stored updated) (hbefore : before.hasFinalizer = false)
    (hafter : after.hasFinalizer = true) :
    ∃ finalizers, updated = some finalizers ∧ clusterFinalizer ∈ finalizers := by
  cases h with
  | appended _ _ _ stored => exact ⟨_, rfl, by simp⟩
  | created _ _ _ stored => exact ⟨_, rfl, by simp⟩
  | removed hbefore' => rw [hbefore] at hbefore'; cases hbefore'
  | kept hsame => rw [hbefore, hafter] at hsame; cases hsame

/-- A change that takes the finalizer away removes the first occurrence of the list it started from,
at the same place of the stored list. -/
theorem MovesFinalizers.eq_of_removed {stored updated : Option (List String)}
    (h : MovesFinalizers before after stored updated) (hbefore : before.hasFinalizer = true)
    (hafter : after.hasFinalizer = false) :
    ∃ finalizers, stored = some finalizers ∧ updated
      = some (finalizers.eraseIdx (finalizerIndex (before.metadata.finalizers.getD []))) := by
  cases h with
  | appended hbefore' => rw [hbefore] at hbefore'; cases hbefore'
  | created hbefore' => rw [hbefore] at hbefore'; cases hbefore'
  | removed _ _ stored => exact ⟨stored, rfl, rfl⟩
  | kept hsame => rw [hbefore, hafter] at hsame; cases hsame

/-- An operation on the finalizers, said of the document that holds the metadata. -/
theorem apply_under_metadata {metadata : Metadata} {members : Entries Json} {document : Json}
    (operation : Operation) (hpath : operation.path ≠ [])
    (hmetadata : Entries.find? "metadata" members = some (Codec.encode metadata))
    (h : (operation.under "metadata").apply (.obj members) = .ok document) :
    ∃ part members', operation.apply (Codec.encode metadata) = .ok part ∧ document = .obj members' ∧
      Entries.find? "metadata" members' = some part ∧ SameBut "metadata" members members' := by
  obtain ⟨found, part, members', hfind, happly, hdocument, hfind', hsame⟩ :=
    Operation.apply_under_obj (Operation.isLocal_of_ne_nil hpath) h
  cases hmetadata.symm.trans hfind
  exact ⟨part, members', happly, hdocument, hfind', hsame⟩

theorem movesFinalizers_of_apply {metadata : Metadata} {members : Entries Json} {document : Json}
    (hmetadata : Entries.find? "metadata" members = some (Codec.encode metadata))
    (h : (finalizerOperations before after).apply (.obj members) = .ok document) :
    ∃ members' finalizers, document = .obj members' ∧
      Entries.find? "metadata" members' = some (Codec.encode (metadata.withFinalizers finalizers)) ∧
      MovesFinalizers before after metadata.finalizers finalizers := by
  have hkept : before.hasFinalizer = after.hasFinalizer → Json.obj members = document →
      ∃ members' finalizers, document = .obj members' ∧ Entries.find? "metadata" members'
        = some (Codec.encode (metadata.withFinalizers finalizers)) ∧
        MovesFinalizers before after metadata.finalizers finalizers := fun hsame hdocument =>
    ⟨members, metadata.finalizers, hdocument.symm, hmetadata, .kept hsame _⟩
  cases hbefore : before.hasFinalizer <;> cases hafter : after.hasFinalizer <;>
    simp only [finalizerOperations, hbefore, hafter] at h
  · exact hkept (hbefore.trans hafter.symm) (Patch.apply_nil_eq_ok_iff.1 h)
  · cases hlist : before.metadata.finalizers with
    | some listed =>
      rw [hlist] at h
      obtain ⟨next, hadd, hnil⟩ := Patch.apply_cons_eq_ok_iff.1 h
      cases Patch.apply_nil_eq_ok_iff.1 hnil
      obtain ⟨part, members', happly, rfl, hfind, -⟩ :=
        apply_under_metadata (.add ["finalizers", "-"] (.str clusterFinalizer))
          (by simp [Operation.path]) hmetadata hadd
      obtain ⟨stored, hstored, rfl⟩ := Metadata.apply_add_finalizer happly
      refine ⟨members', _, rfl, hfind, ?_⟩
      rw [hstored]
      exact .appended hbefore hafter (by rw [hlist]; rfl) stored
    | none =>
      rw [hlist] at h
      obtain ⟨next, hadd, hnil⟩ := Patch.apply_cons_eq_ok_iff.1 h
      cases Patch.apply_nil_eq_ok_iff.1 hnil
      obtain ⟨part, members', happly, rfl, hfind, -⟩ :=
        apply_under_metadata (.add ["finalizers"] (Codec.encode [clusterFinalizer]))
          (by simp [Operation.path]) hmetadata hadd
      cases Metadata.apply_add_finalizers happly
      exact ⟨members', _, rfl, hfind, .created hbefore hafter hlist _⟩
  · obtain ⟨next, htest, hrest⟩ := Patch.apply_cons_eq_ok_iff.1 h
    obtain ⟨next', hremove, hnil⟩ := Patch.apply_cons_eq_ok_iff.1 hrest
    cases Patch.apply_nil_eq_ok_iff.1 hnil
    obtain ⟨part, middle, happly, rfl, hfind, -⟩ :=
      apply_under_metadata (.test ["finalizers", _] (.str clusterFinalizer))
        (by simp [Operation.path]) hmetadata htest
    obtain ⟨rfl, stored, hstored, hfound⟩ := Metadata.apply_test_finalizer happly
    obtain ⟨part, members', happly, rfl, hfind, -⟩ :=
      apply_under_metadata (.remove ["finalizers", _]) (by simp [Operation.path])
        hfind hremove
    obtain ⟨stored', hstored', rfl⟩ := Metadata.apply_remove_finalizer happly
    cases hstored.symm.trans hstored'
    refine ⟨members', _, rfl, hfind, ?_⟩
    rw [hstored]
    exact .removed hbefore hafter stored hfound
  · exact hkept (hbefore.trans hafter.symm) (Patch.apply_nil_eq_ok_iff.1 h)

/-- Where there is nothing to write, the change is not about the finalizer. -/
theorem movesFinalizers_of_objectPatch_eq_none (h : objectPatch? before after version = none)
    (stored : Option (List String)) : MovesFinalizers before after stored stored := by
  simp only [objectPatch?] at h
  split at h
  next hempty =>
    have hnil := (List.append_eq_nil_iff.1 (List.isEmpty_iff.1 hempty)).1
    refine .kept ?_ stored
    cases hbefore : before.hasFinalizer <;> cases hafter : after.hasFinalizer <;>
      simp only [finalizerOperations, hbefore, hafter] at hnil
    · rfl
    · split at hnil <;> cases hnil
    · cases hnil
    · rfl
  next => cases h

/-- A patch of finalizer and spec gives the next version, and moves the finalizer. -/
theorem follows_of_objectPatch (hpatch : objectPatch? before after version = some patch)
    (h : object.patched patch = .ok updated) :
    Expects version object ∧ object.Follows updated ∧
      MovesFinalizers before after object.metadata.finalizers updated.metadata.finalizers := by
  simp only [objectPatch?] at hpatch
  split at hpatch
  next => cases hpatch
  cases hpatch
  obtain ⟨document, hdocument⟩ := AwsCluster.exists_apply_of_patched h
  obtain ⟨middle, hguard, hrest⟩ := Patch.apply_append_eq_ok_iff.1 hdocument
  obtain ⟨rfl, hexpects⟩ := expects_of_apply_guard hguard
  obtain ⟨middle, hfinalizers, hspec⟩ := Patch.apply_append_eq_ok_iff.1 hrest
  obtain ⟨members, hmembers, hmetadata, -⟩ := object.encode_eq_obj
  rw [hmembers] at hfinalizers
  obtain ⟨members', finalizers, rfl, hmetadata', hmoves⟩ :=
    movesFinalizers_of_apply hmetadata hfinalizers
  obtain ⟨members'', rfl, hsame⟩ := Patch.apply_obj (isBelow_specOperations _ _) hspec
  have hmetadata'' := (hsame.find? "metadata" (by decide)).trans hmetadata'
  obtain ⟨hfollows, hupdated⟩ := AwsCluster.follows_of_patched h hdocument hmetadata''
  exact ⟨hexpects, hfollows, hupdated ▸ hmoves⟩

end Changes

end ClusterInfra
