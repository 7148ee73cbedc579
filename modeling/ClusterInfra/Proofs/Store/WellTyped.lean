import ClusterInfra.Proofs.Resource.Shaped
import ClusterInfra.Proofs.Store.RoundTrip
/-!
Patched documents are documents of objects.

A patch is made from two states of an object, and may be applied to a third one that has nothing to
do with them: lists may be longer or shorter there, members may be missing, and the status may have
been taken away. Whatever a patch that applies makes of the document, it can be read: every
operation leaves metadata of an object, and a spec and a status of their shapes. Between two patches
an absent status may stand there as `null`.
-/

namespace ClusterInfra

open Json Record
open Codec (Faithful Shaped)

namespace Changes

variable {before after object : AwsCluster} {version : Option String} {patch : Patch}
  {operation : Operation} {members members' : Entries Json} {document : Json}

/-- The patches that persist a change, one alone or both in a row, with any guards. -/
inductive PatchOf (before after : AwsCluster) : Patch → Prop
  | status {version : Option String} {patch : Patch}
      (h : statusPatch? before after version = some patch) : PatchOf before after patch
  | object {version : Option String} {patch : Patch}
      (h : objectPatch? before after version = some patch) : PatchOf before after patch
  | both {version version' : Option String} {front back : Patch}
      (hstatus : statusPatch? before after version = some front)
      (hobject : objectPatch? before after version' = some back) :
      PatchOf before after (front ++ back)

/-! ### The operations of these patches -/

/-- An operation of a patch that persists a change. -/
inductive Step (before after : AwsCluster) : Operation → Prop
  /-- Some value is tested. -/
  | test (path : Pointer) (value : Json) : Step before after (.test path value)
  /-- The first status is written as a whole. -/
  | firstStatus {status : AwsClusterStatus} (hbefore : before.status = none)
      (hafter : after.status = some status) : Step before after (.add ["status"] (Codec.encode status))
  /-- Something of the status changes, or it becomes `null`. -/
  | status {status : AwsClusterStatus} {operation : Operation} (hbefore : before.status = some status)
      (hmem : operation ∈ diff (Codec.encode status) (statusDocument after.status)) :
      Step before after (operation.under "status")
  /-- Something of the spec changes. -/
  | spec {operation : Operation}
      (hmem : operation ∈ diff (Codec.encode before.spec) (Codec.encode after.spec)) :
      Step before after (operation.under "spec")
  /-- The finalizer of this controller comes or goes. -/
  | finalizer {operation : Operation} (hmem : operation ∈ finalizerOperations before after) :
      Step before after operation

theorem step_of_mem_guard (h : operation ∈ guard version) : Step before after operation := by
  obtain ⟨v, -, rfl⟩ := List.mem_map.1 h
  exact .test _ _

theorem statusOperations_none : statusOperations none none = [] := by
  have hdiff := diff_single "status" .null .null
  rw [diff_null, if_pos rfl] at hdiff
  exact hdiff

theorem statusOperations_some (status : AwsClusterStatus) (after : Option AwsClusterStatus) :
    statusOperations (some status) after
      = (diff (Codec.encode status) (statusDocument after)).map (Operation.under "status") :=
  diff_single "status" _ _

theorem step_of_mem_statusOperations
    (h : operation ∈ statusOperations before.status after.status) : Step before after operation := by
  cases hbefore : before.status with
  | none =>
    cases hafter : after.status with
    | none =>
      rw [hbefore, hafter, statusOperations_none] at h
      cases h
    | some status =>
      rw [hbefore, hafter] at h
      cases List.mem_singleton.1 h
      exact .firstStatus hbefore hafter
  | some status =>
    rw [hbefore, statusOperations_some] at h
    obtain ⟨inner, hmem, rfl⟩ := List.mem_map.1 h
    exact .status hbefore hmem

theorem step_of_mem_specOperations (h : operation ∈ specOperations before.spec after.spec) :
    Step before after operation := by
  rw [specOperations] at h
  split at h
  · cases h
  · rw [diff_single] at h
    obtain ⟨inner, hmem, rfl⟩ := List.mem_map.1 h
    exact .spec hmem

theorem step_of_mem_statusPatch (hpatch : statusPatch? before after version = some patch)
    (h : operation ∈ patch) : Step before after operation := by
  rw [statusPatch?] at hpatch
  split at hpatch
  · cases hpatch
  · cases hpatch
    rcases List.mem_append.1 h with h | h
    · exact step_of_mem_guard h
    · exact step_of_mem_statusOperations h

theorem step_of_mem_objectPatch (hpatch : objectPatch? before after version = some patch)
    (h : operation ∈ patch) : Step before after operation := by
  simp only [objectPatch?] at hpatch
  split at hpatch
  · cases hpatch
  · cases hpatch
    rcases List.mem_append.1 h with h | h
    · exact step_of_mem_guard h
    · rcases List.mem_append.1 h with h | h
      · exact .finalizer h
      · exact step_of_mem_specOperations h

/-- Patches that persist a change are made of such operations. -/
theorem PatchOf.step (hpatch : PatchOf before after patch) (h : operation ∈ patch) :
    Step before after operation := by
  cases hpatch with
  | status hstatus => exact step_of_mem_statusPatch hstatus h
  | object hobject => exact step_of_mem_objectPatch hobject h
  | both hstatus hobject =>
    rcases List.mem_append.1 h with h | h
    · exact step_of_mem_statusPatch hstatus h
    · exact step_of_mem_objectPatch hobject h

/-- An operation about the finalizer works on the metadata, and leaves metadata with some finalizers
there. -/
theorem under_metadata_of_mem (hmem : operation ∈ finalizerOperations before after) :
    ∃ inner : Operation, operation = inner.under "metadata" ∧ inner.path ≠ [] ∧
      ∀ (metadata : Metadata) part, inner.apply (Codec.encode metadata) = .ok part →
        ∃ finalizers, part = Codec.encode (metadata.withFinalizers finalizers) := by
  rw [finalizerOperations] at hmem
  split at hmem
  · split at hmem
    · cases List.mem_singleton.1 hmem
      refine ⟨.add ["finalizers", "-"] _, rfl, by simp [Operation.path], ?_⟩
      intro metadata part happly
      obtain ⟨finalizers, -, rfl⟩ := Metadata.apply_add_finalizer happly
      exact ⟨_, rfl⟩
    · cases List.mem_singleton.1 hmem
      refine ⟨.add ["finalizers"] (Codec.encode [clusterFinalizer]), rfl,
        by simp [Operation.path], ?_⟩
      intro metadata part happly
      exact ⟨_, Metadata.apply_add_finalizers happly⟩
  · rcases List.mem_cons.1 hmem with rfl | hmem
    · refine ⟨.test ["finalizers", _] _, rfl, by simp [Operation.path], ?_⟩
      intro metadata part happly
      obtain ⟨rfl, -⟩ := Metadata.apply_test_finalizer happly
      exact ⟨metadata.finalizers, rfl⟩
    · cases List.mem_singleton.1 hmem
      refine ⟨.remove ["finalizers", _], rfl, by simp [Operation.path], ?_⟩
      intro metadata part happly
      obtain ⟨finalizers, -, rfl⟩ := Metadata.apply_remove_finalizer happly
      exact ⟨_, rfl⟩
  · cases hmem

theorem exists_finalizers_of_mem {metadata : Metadata}
    (hmem : operation ∈ finalizerOperations before after)
    (hmetadata : Entries.find? "metadata" members = some (Codec.encode metadata))
    (h : operation.apply (.obj members) = .ok document) :
    ∃ members' finalizers, document = .obj members' ∧ SameBut "metadata" members members' ∧
      Entries.find? "metadata" members'
        = some (Codec.encode (metadata.withFinalizers finalizers)) := by
  obtain ⟨inner, rfl, hpath, hinner⟩ := under_metadata_of_mem hmem
  obtain ⟨part, members', happly, rfl, hfind, hsame⟩ := apply_under_metadata inner hpath hmetadata h
  obtain ⟨finalizers, rfl⟩ := hinner metadata part happly
  exact ⟨members', finalizers, rfl, hsame, hfind⟩

end Changes

/-! ### Documents that can be read -/

namespace AwsCluster

/-- The members make a document of some object: metadata, a spec, and a status unless there is none
or a `null`. -/
structure Typed (members : Entries Json) : Prop where
  sorted : members.Sorted
  metadata : ∃ metadata : Metadata,
    Entries.find? "metadata" members = some (Codec.encode metadata)
  spec : ∃ document, Entries.find? "spec" members = some document ∧
    (Shaped.shape AwsClusterSpec).Fits document
  status : ∀ document, Entries.find? "status" members = some document →
    document = .null ∨ (Shaped.shape AwsClusterStatus).Fits document

theorem Shown.typed {object : AwsCluster} {members : Entries Json} (h : object.Shown members) :
    Typed members where
  sorted := h.sorted
  metadata := ⟨object.metadata, h.metadata⟩
  spec := ⟨_, h.spec, Shaped.fits object.spec⟩
  status document hfind := by
    have hstatus := h.status
    rw [hfind, Option.getD_some] at hstatus
    subst hstatus
    cases object.status with
    | none => exact .inl rfl
    | some status => exact .inr (Shaped.fits status)

namespace Typed

variable {before after : AwsCluster} {members members' : Entries Json} {document : Json}
  {operation : Operation} {patch : Patch}

/-- Such a document can be read. -/
theorem decode (h : Typed members) :
    ∃ object : AwsCluster, Codec.decode? (.obj members) = some object := by
  obtain ⟨metadata, hmetadata⟩ := h.metadata
  obtain ⟨document, hfind, hspec⟩ := h.spec
  obtain ⟨spec, hspec⟩ := Shaped.reads (α := AwsClusterSpec) document hspec
  have hstatus : ∃ status : Option AwsClusterStatus,
      Record.optional (fun name => Entries.find? name members) "status" = some status := by
    rw [Record.optional]
    split
    next => exact ⟨none, rfl⟩
    next => exact ⟨none, rfl⟩
    next found hne hfound =>
      rcases h.status found hfound with rfl | hfits
      · exact (hne rfl).elim
      · obtain ⟨status, hstatus⟩ := Shaped.reads (α := AwsClusterStatus) found hfits
        exact ⟨some status, by rw [hstatus]; rfl⟩
  obtain ⟨status, hstatus⟩ := hstatus
  refine ⟨{ metadata, spec, status }, ?_⟩
  refine read_next (ofMembers?_of_sorted h.sorted _) <| read_next (required_eq hmetadata) <|
    read_next ?_ <| read_next hstatus rfl
  rw [Record.required, hfind, Option.bind_some, hspec]

/-- A member of the right kind may be put in the place of the metadata. -/
theorem of_metadata (h : Typed members) {metadata : Metadata}
    (hsame : SameBut "metadata" members members')
    (hfind : Entries.find? "metadata" members' = some (Codec.encode metadata)) : Typed members' where
  sorted := hsame.sorted h.sorted
  metadata := ⟨metadata, hfind⟩
  spec := by
    rw [hsame.find? "spec" (by decide)]
    exact h.spec
  status := by
    rw [hsame.find? "status" (by decide)]
    exact h.status

theorem of_spec (h : Typed members) (hsame : SameBut "spec" members members')
    (hfind : Entries.find? "spec" members' = some document)
    (hfits : (Shaped.shape AwsClusterSpec).Fits document) : Typed members' where
  sorted := hsame.sorted h.sorted
  metadata := by
    rw [hsame.find? "metadata" (by decide)]
    exact h.metadata
  spec := ⟨document, hfind, hfits⟩
  status := by
    rw [hsame.find? "status" (by decide)]
    exact h.status

theorem of_status (h : Typed members) (hsame : SameBut "status" members members')
    (hfind : Entries.find? "status" members' = some document)
    (hfits : document = .null ∨ (Shaped.shape AwsClusterStatus).Fits document) : Typed members' where
  sorted := hsame.sorted h.sorted
  metadata := by
    rw [hsame.find? "metadata" (by decide)]
    exact h.metadata
  spec := by
    rw [hsame.find? "spec" (by decide)]
    exact h.spec
  status found hfound := by
    cases hfind.symm.trans hfound
    exact hfits

/-- An operation on the difference of two objects works on a status only if there is one. -/
theorem status_fits (h : Typed members) {old new : Entries Json} {part part' : Json}
    (hmem : operation ∈ diff (.obj old) (.obj new))
    (hfind : Entries.find? "status" members = some part) (happly : operation.apply part = .ok part') :
    (Shaped.shape AwsClusterStatus).Fits part := by
  rcases h.status part hfind with rfl | hfits
  · exact ((memberStep_of_mem_diff hmem).apply_null_ne_ok part' happly).elim
  · exact hfits

/-- One operation leaves a document that can be read. -/
theorem step (h : Typed members) (hstep : Changes.Step before after operation)
    (happly : operation.apply (.obj members) = .ok document) :
    ∃ members', document = .obj members' ∧ Typed members' := by
  cases hstep with
  | test path value =>
    obtain ⟨-, rfl⟩ := Operation.apply_test_eq_ok_iff.1 happly
    exact ⟨members, rfl, h⟩
  | @firstStatus status _ _ =>
    cases happly
    exact ⟨_, rfl, h.of_status (.insert _ _ _) (Entries.find?_insert_self _ _ _)
      (.inr (Shaped.fits status))⟩
  | @status status inner _ hmem =>
    obtain ⟨part, part', members', hfind, hpart, rfl, hfind', hsame⟩ :=
      Operation.apply_under_obj (isLocal_diff _ _ _ hmem) happly
    refine ⟨members', rfl, h.of_status hsame hfind' ?_⟩
    cases hafter : after.status with
    | none =>
      -- the status is replaced as a whole
      rw [hafter, Changes.statusDocument, Option.elim_none, diff_null,
        if_neg (Faithful.toLossless.encode_ne_null status)] at hmem
      cases List.mem_singleton.1 hmem
      cases hpart
      exact .inl rfl
    | some new =>
      rw [hafter] at hmem
      have hfits := h.status_fits hmem hfind hpart
      exact .inr (Shape.keeps_of_mem_diff (Shaped.fits status) (Shaped.fits new) hmem _ _ hfits hpart)
  | spec hmem =>
    obtain ⟨part, part', members', hfind, hpart, rfl, hfind', hsame⟩ :=
      Operation.apply_under_obj (isLocal_diff _ _ _ hmem) happly
    obtain ⟨found, hfound, hfits⟩ := h.spec
    cases hfind.symm.trans hfound
    exact ⟨members', rfl, h.of_spec hsame hfind'
      (Shape.keeps_of_mem_diff (Shaped.fits _) (Shaped.fits _) hmem _ _ hfits hpart)⟩
  | finalizer hmem =>
    obtain ⟨metadata, hmetadata⟩ := h.metadata
    obtain ⟨members', finalizers, rfl, hsame, hfind⟩ :=
      Changes.exists_finalizers_of_mem hmem hmetadata happly
    exact ⟨members', rfl, h.of_metadata hsame hfind⟩

/-- What each of the operations keeps of documents that can be read, a whole run of them keeps. -/
theorem run {P : Entries Json → Prop}
    (hkeep : ∀ operation members members', Changes.Step before after operation → Typed members →
      operation.apply (.obj members) = .ok (.obj members') → P members → P members') :
    ∀ {patch : Patch} {members : Entries Json},
      (∀ operation ∈ patch, Changes.Step before after operation) → Typed members → P members →
      patch.apply (.obj members) = .ok document →
      ∃ members', document = .obj members' ∧ Typed members' ∧ P members'
  | [], members, _, htyped, h, happly =>
    ⟨members, (Patch.apply_nil_eq_ok_iff.1 happly).symm, htyped, h⟩
  | operation :: rest, members, hsteps, htyped, h, happly => by
    obtain ⟨hstep, hrest⟩ := List.forall_mem_cons.1 hsteps
    obtain ⟨next, hnext, happly⟩ := Patch.apply_cons_eq_ok_iff.1 happly
    obtain ⟨middle, rfl, htyped'⟩ := htyped.step hstep hnext
    exact run hkeep hrest htyped' (hkeep _ _ _ hstep htyped hnext h) happly

end Typed

end AwsCluster

namespace Sample

/-- The object with the finalizer, ready or not, with true conditions of these types. -/
def conditioned (ready : Bool) (types : List String) : AwsCluster :=
  { object (some [clusterFinalizer]) with status := some {
      ready, conditions := types.map fun type => { type, status := .true } } }

end Sample

namespace Changes

variable {before after : AwsCluster} {patch : Patch}

/-- What such a patch makes of the document of an object can be read. -/
theorem PatchOf.reads (hpatch : PatchOf before after patch) {stored : AwsCluster} {document : Json}
    (happly : patch.apply (Codec.encode stored) = .ok document) :
    ∃ updated : AwsCluster, Codec.decode? document = some updated := by
  obtain ⟨members, hmembers, hshown⟩ := stored.exists_shown
  rw [hmembers] at happly
  obtain ⟨members', rfl, htyped, -⟩ := AwsCluster.Typed.run (P := fun _ => True)
    (fun _ _ _ _ _ _ _ => trivial) (fun _ hmem => hpatch.step hmem) hshown.typed trivial happly
  exact htyped.decode

/-- Whatever object a patch is applied to, the document that comes out of it can be read, so the
patched object is there. -/
theorem patched_documents_decode (hpatch : PatchOf before after patch) (stored : AwsCluster) :
    (∀ document, patch.apply (Codec.encode stored) = .ok document →
      ∃ updated : AwsCluster, Codec.decode? document = some updated ∧
        stored.patched patch
          = .ok (updated.withVersion (some (nextVersion updated.metadata.resourceVersion)))) ∧
    stored.patched patch ≠ .error .illTyped := by
  constructor
  · intro document happly
    obtain ⟨updated, hread⟩ := hpatch.reads happly
    exact ⟨updated, hread, AwsCluster.patched_eq_ok happly hread⟩
  · intro htyped
    cases happly : patch.apply (Codec.encode stored) with
    | error failure =>
      rw [AwsCluster.patched, happly] at htyped
      cases htyped
    | ok document =>
      obtain ⟨updated, hread⟩ := hpatch.reads happly
      rw [AwsCluster.patched_eq_ok happly hread] at htyped
      cases htyped

/-- A patch made from a list of two conditions, applied to a list of three other ones: one gets
another type, and another one is taken out. -/
theorem shifted_conditions_decode : ∃ patch, PatchOf (Sample.conditioned false ["A", "B"])
      (Sample.conditioned false ["C"]) patch ∧
    ∃ updated, (Sample.conditioned false ["X", "Y", "Z"]).patched patch = .ok updated ∧
      updated.status = (Sample.conditioned false ["C", "Z"]).status := by
  have hpatch : statusPatch? (Sample.conditioned false ["A", "B"]) (Sample.conditioned false ["C"]) none
      = some [.replace ["status", "conditions", "0", "type"] (.str "C"),
        .remove ["status", "conditions", "1"]] := by
    decide +kernel
  have happly : Patch.apply [.replace ["status", "conditions", "0", "type"] (.str "C"),
        .remove ["status", "conditions", "1"]] (Codec.encode (Sample.conditioned false ["X", "Y", "Z"]))
      = .ok (Codec.encode (Sample.conditioned false ["C", "Z"])) := by
    decide +kernel
  refine ⟨_, .status hpatch, ?_⟩
  obtain ⟨updated, hread, hpatched⟩ :=
    (patched_documents_decode (.status hpatch) (Sample.conditioned false ["X", "Y", "Z"])).1 _ happly
  rw [Faithful.toLossless.decode?_encode] at hread
  cases hread
  exact ⟨_, hpatched, rfl⟩

end Changes

end ClusterInfra
