import ClusterInfra.Proofs.Json.Rebuild
import ClusterInfra.Proofs.Resource.Faithful
import ClusterInfra.Proofs.Sample
import ClusterInfra.Proofs.Store.Patched
/-!
A change is written by its patches.

The patch of the status, and then the one of finalizer and spec, take the document of the object
before a change to a document of the object after it. Documents are followed by their members: in
each step one member is put in the place of another, and the rest stays. A status that was taken
away is left behind as `null`, which reads as no status.
-/

namespace ClusterInfra

open Json Record
open Codec (Faithful)

namespace AwsCluster

/-- The members make a document of the object; for want of a status there may be a `null`. -/
structure Shown (object : AwsCluster) (members : Entries Json) : Prop where
  sorted : members.Sorted
  metadata : Entries.find? "metadata" members = some (Codec.encode object.metadata)
  spec : Entries.find? "spec" members = some (Codec.encode object.spec)
  status : (Entries.find? "status" members).getD .null = Changes.statusDocument object.status

theorem exists_shown (object : AwsCluster) :
    ∃ members, Codec.encode object = .obj members ∧ object.Shown members := by
  obtain ⟨members, hmembers, hmetadata, hspec⟩ := object.encode_eq_obj
  have hordered := Faithful.ordered object
  rw [hmembers] at hordered
  cases hordered with
  | obj hsorted =>
    refine ⟨members, hmembers, hsorted, hmetadata, hspec, ?_⟩
    cases hmembers
    cases hstatus : object.status <;> simp [Entries.find?_append, Changes.statusDocument]

namespace Shown

variable {object : AwsCluster} {members : Entries Json}

/-- A document of an object reads as the object. -/
theorem decode (h : object.Shown members) : Codec.decode? (.obj members) = some object :=
  read_next (ofMembers?_of_sorted h.sorted _) <|
  read_next (required_eq h.metadata) <|
  read_next (required_eq h.spec) <|
  read_next (optional_eq_of_getD h.status) rfl

theorem find?_status (h : object.Shown members) {status : AwsClusterStatus}
    (hstatus : object.status = some status) :
    Entries.find? "status" members = some (Codec.encode status) := by
  refine eq_some_of_getD (Faithful.toLossless.encode_ne_null status) ?_
  rw [h.status, hstatus]
  rfl

theorem insert_status (h : object.Shown members) (status : Option AwsClusterStatus) :
    { object with status }.Shown (members.insert "status" (Changes.statusDocument status)) where
  sorted := h.sorted.insert _ _
  metadata := (Entries.find?_insert_of_ne (by decide) _ _).trans h.metadata
  spec := (Entries.find?_insert_of_ne (by decide) _ _).trans h.spec
  status := by rw [Entries.find?_insert_self]; rfl

theorem insert_spec (h : object.Shown members) (spec : AwsClusterSpec) :
    { object with spec }.Shown (members.insert "spec" (Codec.encode spec)) where
  sorted := h.sorted.insert _ _
  metadata := (Entries.find?_insert_of_ne (by decide) _ _).trans h.metadata
  spec := Entries.find?_insert_self _ _ _
  status := by rw [Entries.find?_insert_of_ne (by decide), h.status]

theorem insert_metadata (h : object.Shown members) (metadata : Metadata) :
    { object with metadata }.Shown (members.insert "metadata" (Codec.encode metadata)) where
  sorted := h.sorted.insert _ _
  metadata := Entries.find?_insert_self _ _ _
  spec := (Entries.find?_insert_of_ne (by decide) _ _).trans h.spec
  status := by rw [Entries.find?_insert_of_ne (by decide), h.status]

/-- An operation on the metadata, said of the document of the object. -/
theorem apply_under_metadata (h : object.Shown members) {metadata : Metadata}
    (operation : Operation) (hpath : operation.path ≠ [])
    (happly : operation.apply (Codec.encode object.metadata) = .ok (Codec.encode metadata)) :
    (operation.under "metadata").apply (.obj members)
      = .ok (.obj (members.insert "metadata" (Codec.encode metadata))) := by
  have hset : ∀ part, setChild? "metadata" part (.obj members)
      = some (.obj (members.insert "metadata" part)) := fun part => by
    simp [setChild?, h.metadata]
  have hself := hset (Codec.encode object.metadata)
  rw [h.sorted.insert_eq_self h.metadata] at hself
  exact Operation.apply_under (fun hnil => absurd hnil hpath) h.metadata hself (hset _) happly

end Shown

end AwsCluster

namespace Metadata

theorem encode_finalizers (finalizers : List String) :
    Codec.encode finalizers = .arr (finalizers.map .str) :=
  rfl

/-- An operation on the list of finalizers, said of the document of the metadata. -/
theorem apply_under_finalizers_eq_ok {metadata : Metadata} {finalizers finalizers' : List String}
    (operation : Operation) (hpath : operation.path ≠ [])
    (hfinalizers : metadata.finalizers = some finalizers)
    (happly : operation.apply (Codec.encode finalizers) = .ok (Codec.encode finalizers')) :
    (operation.under "finalizers").apply (Codec.encode metadata)
      = .ok (Codec.encode (metadata.withFinalizers (some finalizers'))) := by
  obtain ⟨members, hmembers, hsorted⟩ := encode_eq_obj metadata
  have hfind : Entries.find? "finalizers" members = some (Codec.encode finalizers) := by
    have hmember := member?_finalizers metadata
    rw [hmembers, member?, hfinalizers] at hmember
    exact hmember
  have hset : ∀ part, setChild? "finalizers" part (.obj members)
      = some (.obj (members.insert "finalizers" part)) := fun part => by
    simp [setChild?, hfind]
  have hself := hset (Codec.encode finalizers)
  rw [hsorted.insert_eq_self hfind] at hself
  have hresult := encode_withFinalizers hmembers (.insert "finalizers" _ members)
    (Entries.find?_insert_self "finalizers" (Codec.encode finalizers') members)
  rw [hresult, hmembers]
  exact Operation.apply_under (fun hnil => absurd hnil hpath) hfind hself (hset _) happly

theorem apply_add_finalizer_eq_ok {metadata : Metadata} {finalizers : List String}
    (finalizer : String) (hfinalizers : metadata.finalizers = some finalizers) :
    (Operation.add ["finalizers", "-"] (.str finalizer)).apply (Codec.encode metadata)
      = .ok (Codec.encode (metadata.withFinalizers (some (finalizers ++ [finalizer])))) := by
  refine apply_under_finalizers_eq_ok (.add ["-"] (.str finalizer)) (by simp [Operation.path])
    hfinalizers ?_
  simp [Operation.apply, encode_finalizers, add?, addChild?]

theorem apply_add_finalizers_eq_ok (metadata : Metadata) (finalizers : List String) :
    (Operation.add ["finalizers"] (Codec.encode finalizers)).apply (Codec.encode metadata)
      = .ok (Codec.encode (metadata.withFinalizers (some finalizers))) := by
  obtain ⟨members, hmembers, -⟩ := encode_eq_obj metadata
  have hresult := encode_withFinalizers hmembers (.insert "finalizers" _ members)
    (Entries.find?_insert_self "finalizers" (Codec.encode finalizers) members)
  rw [hresult, hmembers]
  rfl

theorem apply_test_finalizer_eq_ok {metadata : Metadata} {finalizers : List String} {index : Nat}
    {finalizer : String} (hfinalizers : metadata.finalizers = some finalizers)
    (hfound : finalizers[index]? = some finalizer) :
    (Operation.test ["finalizers", toString index] (.str finalizer)).apply (Codec.encode metadata)
      = .ok (Codec.encode metadata) := by
  refine Operation.apply_test_eq_ok_iff.2 ⟨?_, rfl⟩
  obtain ⟨members, hmembers, -⟩ := encode_eq_obj metadata
  have hmember := member?_finalizers metadata
  rw [hmembers, member?, hfinalizers] at hmember
  rw [hmembers, get?, child?, hmember, Option.map_some, Option.bind_some, get?, encode_finalizers,
    child?, index?_toString]
  simp [hfound, get?]

theorem apply_remove_finalizer_eq_ok {metadata : Metadata} {finalizers : List String} {index : Nat}
    (hfinalizers : metadata.finalizers = some finalizers) (hindex : index < finalizers.length) :
    (Operation.remove ["finalizers", toString index]).apply (Codec.encode metadata)
      = .ok (Codec.encode (metadata.withFinalizers (some (finalizers.eraseIdx index)))) := by
  refine apply_under_finalizers_eq_ok (.remove [toString index])
    (by simp [Operation.path]) hfinalizers ?_
  rw [Operation.apply, remove?, encode_finalizers, removeChild?, index?_toString]
  simp [hindex, encode_finalizers, List.eraseIdx_eq_take_drop_succ]

end Metadata

namespace Changes

variable {before after object : AwsCluster} {version : Option String} {members : Entries Json}

/-! ### One part after the other -/

/-- The list of finalizers that is stored when a change has been persisted: the one from before the
change, with the finalizer of this controller added or its first occurrence taken out. -/
def storedFinalizers (before after : AwsCluster) : Option (List String) :=
  match before.hasFinalizer, after.hasFinalizer with
  | false, true => some (before.metadata.finalizers.getD [] ++ [clusterFinalizer])
  | true, false => before.metadata.finalizers.map (·.erase clusterFinalizer)
  | _, _ => before.metadata.finalizers

theorem expects_self (object : AwsCluster) : Expects object.metadata.resourceVersion object :=
  fun _ h => h

/-- The guard lets an object of the expected version through. -/
theorem apply_guard (h : object.Shown members) (hversion : Expects version object) :
    (guard version).apply (.obj members) = .ok (.obj members) := by
  cases version with
  | none => rfl
  | some expected =>
    refine Patch.apply_cons_eq_ok_iff.2 ⟨_, Operation.apply_test_eq_ok_iff.2 ⟨?_, rfl⟩, rfl⟩
    have hmember := Metadata.member?_resourceVersion object.metadata
    rw [hversion expected rfl] at hmember
    obtain ⟨inner, hinner, -⟩ := object.metadata.encode_eq_obj
    rw [get?, child?, h.metadata, Option.bind_some, get?, hinner, child?]
    rw [hinner, member?] at hmember
    rw [hmember]
    rfl

/-- The operations on the status put the new status in the place of the old one. -/
theorem apply_statusOperations (h : object.Shown members) (hstatus : object.status = before.status)
    (hne : before.status ≠ after.status) :
    (statusOperations before.status after.status).apply (.obj members)
      = .ok (.obj (members.insert "status" (statusDocument after.status))) := by
  have hordered : ∀ status, (statusDocument status).Ordered := fun status => by
    cases status with
    | none => exact .null
    | some status => exact Faithful.ordered status
  cases hbefore : before.status with
  | none =>
    cases hafter : after.status with
    | none => exact absurd (hbefore.trans hafter.symm) hne
    | some status => rfl
  | some status =>
    rw [statusOperations]
    · exact apply_diff_single h.sorted (h.find?_status (hstatus.trans hbefore)) (hordered _)
        (hordered _)
    · exact fun _ h => nomatch h

/-- The operations on the spec put the new spec in the place of the old one. -/
theorem apply_specOperations (after : AwsCluster) (h : object.Shown members)
    (hspec : object.spec = before.spec) :
    ∃ members', (specOperations before.spec after.spec).apply (.obj members) = .ok (.obj members') ∧
      { object with spec := after.spec }.Shown members' := by
  rw [specOperations]
  split
  next heq =>
    refine ⟨members, rfl, ?_⟩
    rw [← heq, ← hspec]
    exact h
  next =>
    refine ⟨_, ?_, h.insert_spec after.spec⟩
    exact apply_diff_single h.sorted (hspec ▸ h.spec) (Faithful.ordered _) (Faithful.ordered _)

/-- The operations on the finalizer put the stored list in the place of the old one. -/
theorem apply_finalizerOperations (after : AwsCluster) (h : object.Shown members)
    (hfinalizers : object.metadata.finalizers = before.metadata.finalizers) :
    ∃ members', (finalizerOperations before after).apply (.obj members) = .ok (.obj members') ∧
      { object with metadata :=
        object.metadata.withFinalizers (storedFinalizers before after) }.Shown members' := by
  have hkept : storedFinalizers before after = before.metadata.finalizers →
      object = { object with metadata :=
        object.metadata.withFinalizers (storedFinalizers before after) } := fun hsame => by
    rw [hsame, ← hfinalizers]
    rfl
  cases hbefore : before.hasFinalizer <;> cases hafter : after.hasFinalizer
  case false.false | true.true =>
    have hsame : storedFinalizers before after = before.metadata.finalizers := by
      simp only [storedFinalizers, hbefore, hafter]
    refine ⟨members, ?_, ?_⟩
    · simp only [finalizerOperations, hbefore, hafter]
      rfl
    · rw [← hkept hsame]
      exact h
  case false.true =>
    simp only [finalizerOperations, storedFinalizers, hbefore, hafter]
    refine ⟨_, ?_, h.insert_metadata _⟩
    cases hlist : before.metadata.finalizers with
    | some finalizers =>
      have happly := h.apply_under_metadata (.add ["finalizers", "-"] _) (by simp [Operation.path])
        (Metadata.apply_add_finalizer_eq_ok clusterFinalizer (hfinalizers.trans hlist))
      exact Patch.apply_cons_eq_ok_iff.2 ⟨_, happly, Patch.apply_nil_eq_ok_iff.2 rfl⟩
    | none =>
      have happly := h.apply_under_metadata (.add ["finalizers"] _) (by simp [Operation.path])
        (Metadata.apply_add_finalizers_eq_ok object.metadata [clusterFinalizer])
      exact Patch.apply_cons_eq_ok_iff.2 ⟨_, happly, Patch.apply_nil_eq_ok_iff.2 rfl⟩
  case true.false =>
    obtain ⟨finalizers, hlist, hmem⟩ := (AwsCluster.hasFinalizer_iff before).1 hbefore
    have hlist' := hfinalizers.trans hlist
    have hindex : finalizerIndex finalizers < finalizers.length := List.idxOf_lt_length_of_mem hmem
    have hfound : finalizers[finalizerIndex finalizers]? = some clusterFinalizer := by
      rw [List.getElem?_eq_getElem hindex]
      exact congrArg some (List.getElem_idxOf hindex)
    have hstored : storedFinalizers before after
        = some (finalizers.eraseIdx (finalizerIndex finalizers)) := by
      simp only [storedFinalizers, hbefore, hafter, hlist, Option.map_some, finalizerIndex,
        List.erase_eq_eraseIdx_of_idxOf rfl]
    refine ⟨_, ?_, h.insert_metadata _⟩
    simp only [finalizerOperations, hbefore, hafter, hlist, Option.getD_some]
    have htest := h.apply_under_metadata (.test ["finalizers", _] _) (by simp [Operation.path])
      (Metadata.apply_test_finalizer_eq_ok hlist' hfound)
    have hremove := h.apply_under_metadata (.remove ["finalizers", _]) (by simp [Operation.path])
      (Metadata.apply_remove_finalizer_eq_ok hlist' hindex)
    rw [h.sorted.insert_eq_self h.metadata] at htest
    rw [← hstored] at hremove
    exact Patch.apply_cons_eq_ok_iff.2
      ⟨_, htest, Patch.apply_cons_eq_ok_iff.2 ⟨_, hremove, rfl⟩⟩

/-! ### Both patches -/

/-- The patch of the status, where there is one, leaves a document with the new status. -/
theorem apply_statusPatch (before after : AwsCluster) (h : object.Shown members)
    (hstatus : object.status = before.status) (hversion : Expects version object) :
    ∃ members', ((statusPatch? before after version).getD []).apply (.obj members)
        = .ok (.obj members') ∧ { object with status := after.status }.Shown members' := by
  rw [statusPatch?]
  split
  next heq =>
    refine ⟨members, rfl, ?_⟩
    rw [← heq, ← hstatus]
    exact h
  next hne =>
    refine ⟨_, ?_, h.insert_status after.status⟩
    exact Patch.apply_append_eq_ok_iff.2
      ⟨_, apply_guard h hversion, apply_statusOperations h hstatus hne⟩

/-- The patch of finalizer and spec, where there is one, leaves a document with the new spec and the
finalizers that are stored with it. -/
theorem apply_objectPatch (before after : AwsCluster) (h : object.Shown members)
    (hspec : object.spec = before.spec)
    (hfinalizers : object.metadata.finalizers = before.metadata.finalizers)
    (hversion : Expects version object) :
    ∃ members', ((objectPatch? before after version).getD []).apply (.obj members)
        = .ok (.obj members') ∧
      { object with
        metadata := object.metadata.withFinalizers (storedFinalizers before after)
        spec := after.spec }.Shown members' := by
  obtain ⟨middle, hmiddle, hshown⟩ := apply_finalizerOperations after h hfinalizers
  obtain ⟨members', hmembers', hshown'⟩ := apply_specOperations after hshown hspec
  have happly := Patch.apply_append_eq_ok_iff.2 ⟨_, hmiddle, hmembers'⟩
  simp only [objectPatch?]
  split
  next hempty =>
    rw [List.isEmpty_iff.1 hempty] at happly
    exact ⟨members', happly, hshown'⟩
  next =>
    have hguard := apply_guard h hversion
    exact ⟨members', Patch.apply_append_eq_ok_iff.2 ⟨_, hguard, happly⟩, hshown'⟩

theorem statusOperations_ne_nil (h : before.status ≠ after.status) :
    statusOperations before.status after.status ≠ [] := by
  obtain ⟨members, -, hshown⟩ := before.exists_shown
  intro hnil
  have happly := apply_statusOperations hshown rfl h
  rw [hnil, Patch.apply_nil_eq_ok_iff] at happly
  -- without operations the document would read as both objects
  have hread := (hshown.insert_status after.status).decode
  rw [← happly, hshown.decode, Option.some.injEq] at hread
  have hstatus := congrArg AwsCluster.status hread
  exact h hstatus

theorem specOperations_eq_nil_iff : specOperations before.spec after.spec = [] ↔
    before.spec = after.spec := by
  refine ⟨fun hnil => ?_, fun h => if_pos h⟩
  obtain ⟨members, -, hshown⟩ := before.exists_shown
  obtain ⟨members', happly, hshown'⟩ := apply_specOperations after hshown rfl
  rw [hnil, Patch.apply_nil_eq_ok_iff] at happly
  have hread := hshown'.decode
  rw [← happly, hshown.decode, Option.some.injEq] at hread
  have hspec := congrArg AwsCluster.spec hread
  exact hspec

theorem finalizerOperations_eq_nil_iff : finalizerOperations before after = [] ↔
    before.hasFinalizer = after.hasFinalizer := by
  cases hbefore : before.hasFinalizer <;> cases hafter : after.hasFinalizer <;>
    simp only [finalizerOperations, hbefore, hafter]
  case false.true => cases before.metadata.finalizers <;> simp
  all_goals simp

theorem statusPatch?_eq_none_iff : statusPatch? before after version = none ↔
    before.status = after.status := by
  rw [statusPatch?]
  split
  next h => simp [h]
  next h => simp [h]

theorem objectPatch?_eq_none_iff : objectPatch? before after version = none ↔
    before.spec = after.spec ∧ before.hasFinalizer = after.hasFinalizer := by
  rw [and_comm, ← finalizerOperations_eq_nil_iff, ← specOperations_eq_nil_iff,
    ← List.append_eq_nil_iff, ← List.isEmpty_iff]
  simp only [objectPatch?]
  split
  next h => simp [h]
  next h => simp [h]

theorem operations_of_statusPatch {patch : Patch}
    (h : statusPatch? before after version = some patch) :
    ∃ operations ≠ [], patch = guard version ++ operations := by
  rw [statusPatch?] at h
  split at h
  next => cases h
  next hne =>
    cases h
    exact ⟨_, statusOperations_ne_nil hne, rfl⟩

theorem operations_of_objectPatch {patch : Patch}
    (h : objectPatch? before after version = some patch) :
    ∃ operations ≠ [], patch = guard version ++ operations := by
  simp only [objectPatch?] at h
  split at h
  next => cases h
  next hne =>
    cases h
    exact ⟨_, fun hnil => hne (List.isEmpty_iff.2 hnil), rfl⟩

/-- A change of finalizers that is about the one of this controller only: it is added at the end of
a list that lacks it, or taken out of a list that has it once, or nothing changes. -/
inductive OwnFinalizerOnly : Option (List String) → Option (List String) → Prop
  | kept (finalizers : Option (List String)) : OwnFinalizerOnly finalizers finalizers
  | added {finalizers : Option (List String)} (h : clusterFinalizer ∉ finalizers.getD []) :
      OwnFinalizerOnly finalizers (some (finalizers.getD [] ++ [clusterFinalizer]))
  | removed {finalizers : List String} (h : finalizers.count clusterFinalizer = 1) :
      OwnFinalizerOnly (some finalizers) (some (finalizers.filter (· ≠ clusterFinalizer)))

theorem hasFinalizer_eq (object : AwsCluster) :
    object.hasFinalizer = decide (clusterFinalizer ∈ object.metadata.finalizers.getD []) := by
  rw [AwsCluster.hasFinalizer, Metadata.hasFinalizer]
  cases object.metadata.finalizers <;> simp

/-- Such a change is stored as it is, and no other one is. -/
theorem storedFinalizers_eq_iff : storedFinalizers before after = after.metadata.finalizers ↔
    OwnFinalizerOnly before.metadata.finalizers after.metadata.finalizers := by
  rw [storedFinalizers, hasFinalizer_eq, hasFinalizer_eq]
  generalize before.metadata.finalizers = old
  generalize after.metadata.finalizers = new
  constructor
  · intro h
    split at h
    next hold hnew =>
      rw [← h]
      exact .added (of_decide_eq_false hold)
    next hold hnew =>
      cases old with
      | none => simp at hold
      | some finalizers =>
        have hmem : clusterFinalizer ∈ finalizers := of_decide_eq_true hold
        rw [Option.map_some] at h
        subst h
        have hgone : clusterFinalizer ∉ finalizers.erase clusterFinalizer :=
          of_decide_eq_false hnew
        have honce : finalizers.count clusterFinalizer = 1 := by
          have hcount := List.count_erase_self (a := clusterFinalizer) (l := finalizers)
          rw [List.count_eq_zero.2 hgone] at hcount
          have hpos := List.count_pos_iff.2 hmem
          omega
        rw [(erase_eq_filter_iff hmem).2 honce]
        exact .removed honce
    next =>
      rw [h]
      exact .kept new
  · intro h
    cases h with
    | kept => split <;> simp_all
    | added h => simp [h]
    | @removed finalizers h =>
      have hmem : clusterFinalizer ∈ finalizers := List.count_pos_iff.1 (by omega)
      simp [hmem, (erase_eq_filter_iff hmem).2 h]

/-- The step by which a server gives a stored document another version, if it does. -/
def stamp (version : Option String) : Patch :=
  version.toList.map fun v => .add ["metadata", "resourceVersion"] (.str v)

theorem apply_stamp (h : object.Shown members) (version : Option String) :
    ∃ members', (stamp version).apply (.obj members) = .ok (.obj members') ∧
      (object.withVersion (version.or object.metadata.resourceVersion)).Shown members' := by
  cases version with
  | none => exact ⟨members, rfl, h⟩
  | some v =>
    obtain ⟨inner, hinner, -⟩ := object.metadata.encode_eq_obj
    have hencode : Codec.encode { object.metadata with resourceVersion := some v }
        = .obj (inner.insert "resourceVersion" (.str v)) := by
      refine Metadata.encode_eq_of_sameBut hinner (.insert "resourceVersion" _ inner) ?_ ?_
      · rw [Entries.find?_insert_self, Metadata.member?_resourceVersion]
        rfl
      · intro other hother
        simp only [Codec.encode, member?, Entries.find?_append, find?_memberIfSome,
          if_neg hother.symm]
    have hadd : (Operation.add ["resourceVersion"] (.str v)).apply (Codec.encode object.metadata)
        = .ok (Codec.encode { object.metadata with resourceVersion := some v }) := by
      rw [hencode, hinner]
      rfl
    have happly := h.apply_under_metadata _ (by simp [Operation.path]) hadd
    exact ⟨_, Patch.apply_cons_eq_ok_iff.2 ⟨_, happly, Patch.apply_nil_eq_ok_iff.2 rfl⟩,
      h.insert_metadata _⟩

/-- The patch of the status, and then the patch of finalizer and spec, each guarded by the version
that the document has at that time, take a document of the object before the change to one of the
object after it. There is a patch exactly if its part changed, and it does not only test. -/
theorem patches_persist_change (before after : AwsCluster) (bumped : Option String)
    (h : OwnFinalizerOnly before.metadata.finalizers after.metadata.finalizers) :
    (∃ middle current updated,
      ((statusPatch? before after before.metadata.resourceVersion).getD []).apply
        (Codec.encode before) = .ok middle ∧
      (stamp bumped).apply middle = .ok current ∧
      ((objectPatch? before after (bumped.or before.metadata.resourceVersion)).getD []).apply current
        = .ok updated ∧
      Codec.decode? middle = some { before with status := after.status } ∧
      Codec.decode? updated = some {
        metadata := { before.metadata with
          finalizers := after.metadata.finalizers
          resourceVersion := bumped.or before.metadata.resourceVersion }
        spec := after.spec
        status := after.status : AwsCluster }) ∧
    ∀ version,
      (statusPatch? before after version = none ↔ before.status = after.status) ∧
      (objectPatch? before after version = none ↔
        before.spec = after.spec ∧ before.hasFinalizer = after.hasFinalizer) ∧
      ∀ patch, statusPatch? before after version = some patch ∨
          objectPatch? before after version = some patch →
        ∃ operations ≠ [], patch = guard version ++ operations := by
  refine ⟨?_, fun version => ⟨statusPatch?_eq_none_iff, objectPatch?_eq_none_iff, ?_⟩⟩
  · obtain ⟨members, hmembers, hshown⟩ := before.exists_shown
    obtain ⟨middle, hmiddle, hstatus⟩ := apply_statusPatch before after hshown rfl (expects_self before)
    obtain ⟨current, hcurrent, hstamped⟩ := apply_stamp hstatus bumped
    obtain ⟨updated, hupdated, hobject⟩ := apply_objectPatch before after hstamped rfl rfl
      (expects_self _)
    rw [storedFinalizers_eq_iff.2 h] at hobject
    exact ⟨_, _, _, hmembers ▸ hmiddle, hcurrent, hupdated, hstatus.decode, hobject.decode⟩
  · rintro patch (hpatch | hpatch)
    · exact operations_of_statusPatch hpatch
    · exact operations_of_objectPatch hpatch

/-- A status and the finalizer are written to an object that had neither, with a version given in
between. -/
theorem patches_persist_first_change :
    OwnFinalizerOnly none (some [clusterFinalizer]) ∧
    ∃ middle current updated,
      ((statusPatch? (Sample.object none)
        { Sample.object (some [clusterFinalizer]) with status := some { ready := true } }
        (some "1")).getD []).apply (Codec.encode (Sample.object none)) = .ok middle ∧
      (stamp (some "2")).apply middle = .ok current ∧
      ((objectPatch? (Sample.object none)
        { Sample.object (some [clusterFinalizer]) with status := some { ready := true } }
        (some "2")).getD []).apply current = .ok updated ∧
      Codec.decode? middle = some { Sample.object none with status := some { ready := true } } ∧
      Codec.decode? updated = some ({ Sample.object (some [clusterFinalizer]) with
        status := some { ready := true } }.withVersion (some "2")) := by
  have hchange : OwnFinalizerOnly none (some [clusterFinalizer]) := .added (by decide)
  exact ⟨hchange, (patches_persist_change (Sample.object none)
    { Sample.object (some [clusterFinalizer]) with status := some { ready := true } }
    (some "2") hchange).1⟩

end Changes

end ClusterInfra
