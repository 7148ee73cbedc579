import ClusterInfra.Proofs.Resource.NormalForm
import ClusterInfra.Proofs.Store.WellTyped
/-!
Patches touch only what changed.

A patch is made from the state before a change and the one after it, and the object that is stored
may have been edited by others in between. Where the two states agree, the patch leaves what is
stored: this holds of every path through members of the two documents, also of one that leads into
the status or the spec. Outside of status, spec and finalizers nothing changes at all.
-/

namespace ClusterInfra

open Json Record
open Codec (Faithful Shaped)

/-- The value at a path through another member of the metadata does not depend on the finalizers. -/
theorem Metadata.get?_withFinalizers (metadata : Metadata) (finalizers : Option (List String))
    {name : String} (hname : name ≠ "finalizers") (rest : Pointer) :
    get? (name :: rest) (Codec.encode (metadata.withFinalizers finalizers))
      = get? (name :: rest) (Codec.encode metadata) := by
  have hmember := metadata.member?_withFinalizers finalizers hname
  obtain ⟨members, hmembers, -⟩ := metadata.encode_eq_obj
  obtain ⟨members', hmembers', -⟩ := (metadata.withFinalizers finalizers).encode_eq_obj
  rw [hmembers, hmembers', member?, member?] at hmember
  rw [hmembers, hmembers', get?, get?, child?, child?, hmember]

/-- Metadata that agrees on a path through the finalizers has the same finalizers. -/
theorem Metadata.finalizers_eq_of_isMemberPath {a b : Metadata} {rest : Pointer}
    (ha : IsMemberPath ("finalizers" :: rest) (Codec.encode a))
    (hsame : get? ("finalizers" :: rest) (Codec.encode a)
      = get? ("finalizers" :: rest) (Codec.encode b)) : a.finalizers = b.finalizers := by
  have hfind := a.member?_finalizers
  have hfind' := b.member?_finalizers
  obtain ⟨members, hmembers, hrest⟩ := ha
  obtain ⟨members', hmembers', -⟩ := b.encode_eq_obj
  rw [hmembers, member?] at hfind
  rw [hmembers', member?] at hfind'
  rcases hrest with rfl | ⟨part, hpart, hrest⟩
  · rw [hmembers, hmembers', get?, get?, child?, child?, hfind, hfind'] at hsame
    cases hold : a.finalizers with
    | none => cases hnew : b.finalizers with
      | none => rfl
      | some => rw [hold, hnew] at hsame; cases hsame
    | some => cases hnew : b.finalizers with
      | none => rw [hold, hnew] at hsame; cases hsame
      | some =>
        rw [hold, hnew] at hsame
        exact congrArg some (Faithful.encode_injective (Option.some.inj hsame))
  · -- the list of finalizers has no members
    obtain ⟨finalizers, -, rfl⟩ := Option.map_eq_some_iff.1 (hfind.symm.trans hpart)
    cases rest with
    | nil => exact hrest.elim
    | cons name rest =>
      obtain ⟨_, h, -⟩ := hrest
      cases h

namespace AwsCluster

theorem find?_status_of_encode {object : AwsCluster} {members : Entries Json}
    (h : Codec.encode object = .obj members) :
    Entries.find? "status" members = object.status.map Codec.encode := by
  cases h
  simp [Entries.find?_append]

end AwsCluster

namespace Changes

variable {before after : AwsCluster} {operation : Operation} {patch : Patch}
  {members olds news : Entries Json} {document : Json} {name : String} {rest path : Pointer}

/-! ### Members on which the two states agree -/

theorem hasFinalizer_ne_of_mem (hmem : operation ∈ finalizerOperations before after) :
    before.hasFinalizer ≠ after.hasFinalizer := by
  intro hsame
  rw [finalizerOperations_eq_nil_iff.2 hsame] at hmem
  cases hmem

/-- An operation about the finalizer leaves a path through another member of the metadata alone. -/
theorem get?_metadata_eq {metadata : Metadata} (hmem : operation ∈ finalizerOperations before after)
    (hmetadata : Entries.find? "metadata" members = some (Codec.encode metadata))
    (hname : name ≠ "finalizers") (happly : operation.apply (.obj members) = .ok document) :
    get? ("metadata" :: name :: rest) document
      = get? ("metadata" :: name :: rest) (.obj members) := by
  obtain ⟨members', finalizers, rfl, -, hfind⟩ := exists_finalizers_of_mem hmem hmetadata happly
  rw [get?, get?, child?, child?, hmetadata, hfind, Option.bind_some, Option.bind_some,
    metadata.get?_withFinalizers finalizers hname]

/-- An operation leaves a path alone on which the two states agree. -/
theorem Step.get?_eq (hstep : Step before after operation) (htyped : AwsCluster.Typed members)
    (holds : Codec.encode before = .obj olds) (hnews : Codec.encode after = .obj news)
    (hagree : AgreeOn name rest olds news) (happly : operation.apply (.obj members) = .ok document) :
    get? (name :: rest) document = get? (name :: rest) (.obj members) := by
  have hold := AwsCluster.find?_status_of_encode holds
  have hnew := AwsCluster.find?_status_of_encode hnews
  obtain ⟨_, holds', holdMetadata, holdSpec⟩ := before.encode_eq_obj
  obtain ⟨_, hnews', hnewMetadata, hnewSpec⟩ := after.encode_eq_obj
  cases holds.symm.trans holds'
  cases hnews.symm.trans hnews'
  cases hstep with
  | test path value =>
    obtain ⟨-, rfl⟩ := Operation.apply_test_eq_ok_iff.1 happly
    rfl
  | firstStatus hbefore hafter =>
    refine get?_eq_of_path rfl (fun hname => ?_) happly
    subst hname
    refine not_agreeOn ?_ hagree
    simp [hold, hnew, hbefore, hafter]
  | @status status inner hbefore hmem =>
    by_cases hname : name = "status"
    · subst hname
      rw [hbefore] at hold
      cases hafter : after.status with
      | none =>
        refine (not_agreeOn ?_ hagree).elim
        simp [hold, hnew, hafter]
      | some status' =>
        rw [hafter] at hnew hmem
        refine hagree.get?_eq hold hnew (Shape.diff_self (Shaped.fits status)) hmem happly
          fun hrestOld hrestNew hrest part part' hfind hpart => ?_
        exact Shape.get?_eq_of_mem_diff (Shaped.fits status) (Shaped.fits status')
          (htyped.status_fits hmem hfind hpart) hrestOld hrestNew hrest hmem hpart
    · exact get?_eq_of_path (Operation.path_under "status" inner) hname happly
  | @spec inner hmem =>
    by_cases hname : name = "spec"
    · subst hname
      obtain ⟨found, hfound, hfits⟩ := htyped.spec
      refine hagree.get?_eq holdSpec hnewSpec (Shape.diff_self (Shaped.fits before.spec)) hmem happly
        fun hrestOld hrestNew hrest part part' hfind hpart => ?_
      cases hfind.symm.trans hfound
      exact Shape.get?_eq_of_mem_diff (Shaped.fits before.spec) (Shaped.fits after.spec) hfits
        hrestOld hrestNew hrest hmem hpart
    · exact get?_eq_of_path (Operation.path_under "spec" inner) hname happly
  | finalizer hmem =>
    obtain ⟨metadata, hmetadata⟩ := htyped.metadata
    by_cases hname : name = "metadata"
    · subst hname
      have hmoved : before.metadata.finalizers ≠ after.metadata.finalizers := fun hsame =>
        hasFinalizer_ne_of_mem hmem (by rw [hasFinalizer_eq, hasFinalizer_eq, hsame])
      rcases hagree with heq | ⟨_, _, hold, hnew, hrestOld, hrestNew, hrest⟩
      · have hsame := holdMetadata.symm.trans (heq.trans hnewMetadata)
        have hsame := Faithful.encode_injective (Option.some.inj hsame)
        exact (hmoved (congrArg Metadata.finalizers hsame)).elim
      · cases holdMetadata.symm.trans hold
        cases hnewMetadata.symm.trans hnew
        cases rest with
        | nil => exact hrestOld.elim
        | cons field rest =>
          refine get?_metadata_eq hmem hmetadata (fun hfield => ?_) happly
          subst hfield
          exact hmoved (Metadata.finalizers_eq_of_isMemberPath hrestOld hrest)
    · obtain ⟨members', _, rfl, hsame, -⟩ := exists_finalizers_of_mem hmem hmetadata happly
      exact hsame.get?_eq hname

/-! ### Outside of status, spec and finalizers -/

/-- What the patches are about. -/
def touched : List Pointer := [["status"], ["spec"], ["metadata", "finalizers"]]

/-- The path is on no way to what the patches are about, nor does it lead into it. -/
def Outside (path : Pointer) : Prop :=
  ∀ place ∈ touched, ¬path <+: place ∧ ¬place <+: path

instance (path : Pointer) : Decidable (Outside path) :=
  inferInstanceAs (Decidable (∀ place ∈ touched, ¬path <+: place ∧ ¬place <+: path))

theorem Outside.cases (h : Outside path) : ∃ name rest, path = name :: rest ∧
    name ≠ "status" ∧ name ≠ "spec" ∧
    (name = "metadata" → ∃ field fields, rest = field :: fields ∧ field ≠ "finalizers") := by
  cases path with
  | nil => exact ((h ["status"] (by decide)).1 List.nil_prefix).elim
  | cons name rest =>
    refine ⟨name, rest, rfl, ?_, ?_, ?_⟩
    · rintro rfl
      exact (h ["status"] (by decide)).2 ⟨rest, rfl⟩
    · rintro rfl
      exact (h ["spec"] (by decide)).2 ⟨rest, rfl⟩
    · rintro rfl
      obtain ⟨hinto, hthrough⟩ := h ["metadata", "finalizers"] (by decide)
      cases rest with
      | nil => exact (hinto ⟨["finalizers"], rfl⟩).elim
      | cons field fields =>
        refine ⟨field, fields, rfl, ?_⟩
        rintro rfl
        exact hthrough ⟨fields, rfl⟩

/-- An operation leaves a path outside of status, spec and finalizers alone. -/
theorem Step.get?_eq_of_outside (hstep : Step before after operation)
    (htyped : AwsCluster.Typed members) (hpath : Outside path)
    (happly : operation.apply (.obj members) = .ok document) :
    get? path document = get? path (.obj members) := by
  obtain ⟨name, rest, rfl, hstatus, hspec, hmetadata⟩ := hpath.cases
  cases hstep with
  | test path value =>
    obtain ⟨-, rfl⟩ := Operation.apply_test_eq_ok_iff.1 happly
    rfl
  | firstStatus => exact get?_eq_of_path rfl hstatus happly
  | @status _ inner _ _ => exact get?_eq_of_path (Operation.path_under "status" inner) hstatus happly
  | @spec inner _ => exact get?_eq_of_path (Operation.path_under "spec" inner) hspec happly
  | finalizer hmem =>
    obtain ⟨metadata, hfind⟩ := htyped.metadata
    by_cases hname : name = "metadata"
    · subst hname
      obtain ⟨field, fields, rfl, hfield⟩ := hmetadata rfl
      exact get?_metadata_eq hmem hfind hfield happly
    · obtain ⟨members', _, rfl, hsame, -⟩ := exists_finalizers_of_mem hmem hfind happly
      exact hsame.get?_eq hname

/-! ### Whole patches -/

/-- What every operation leaves alone, a patch leaves as it is stored. -/
theorem PatchOf.get?_eq {stored : AwsCluster} (hpatch : PatchOf before after patch)
    (happly : patch.apply (Codec.encode stored) = .ok document)
    (hkeep : ∀ operation members document, Step before after operation →
      AwsCluster.Typed members → operation.apply (.obj members) = .ok document →
      get? path document = get? path (.obj members)) :
    get? path document = get? path (Codec.encode stored) := by
  obtain ⟨members, hmembers, hshown⟩ := stored.exists_shown
  rw [hmembers] at happly ⊢
  obtain ⟨members', rfl, -, h⟩ := AwsCluster.Typed.run
    (P := fun members' => get? path (.obj members') = get? path (.obj members))
    (fun operation _ _ hstep htyped hnext h => (hkeep operation _ _ hstep htyped hnext).trans h)
    (fun _ hmem => hpatch.step hmem) hshown.typed rfl happly
  exact h

/-- A patch leaves alone every path through members on which the two states agree, and every path
outside of status, spec and finalizers. -/
theorem patches_touch_only_changes (hpatch : PatchOf before after patch) {stored : AwsCluster}
    (happly : patch.apply (Codec.encode stored) = .ok document) :
    (∀ path, IsMemberPath path (Codec.encode before) → IsMemberPath path (Codec.encode after) →
      get? path (Codec.encode before) = get? path (Codec.encode after) →
      get? path document = get? path (Codec.encode stored)) ∧
    ∀ path, Outside path → get? path document = get? path (Codec.encode stored) := by
  constructor
  · intro path hpathOld hpathNew hsame
    cases path with
    | nil => exact hpathOld.elim
    | cons name rest =>
      obtain ⟨olds, holds, -⟩ := id hpathOld
      obtain ⟨news, hnews, -⟩ := id hpathNew
      rw [holds] at hpathOld hsame
      rw [hnews] at hpathNew hsame
      have hagree := agreeOn_of_isMemberPath hpathOld hpathNew hsame
      exact hpatch.get?_eq happly fun _ _ _ hstep htyped happly =>
        hstep.get?_eq htyped holds hnews hagree happly
  · intro path hpath
    exact hpatch.get?_eq happly fun _ _ _ hstep htyped happly =>
      hstep.get?_eq_of_outside htyped hpath happly

/-- Readiness is written to an object whose conditions someone else has replaced: they stay. -/
theorem replaced_conditions_stay : ∃ patch document, PatchOf (Sample.conditioned false ["A", "B"])
      (Sample.conditioned true ["A", "B"]) patch ∧
    patch.apply (Codec.encode (Sample.conditioned false ["X"])) = .ok document ∧
    get? ["status", "ready"] document = some (.bool true) ∧
    get? ["status", "conditions"] document
      = get? ["status", "conditions"] (Codec.encode (Sample.conditioned false ["X"])) ∧
    get? ["metadata"] document
      = get? ["metadata"] (Codec.encode (Sample.conditioned false ["X"])) ∧
    get? ["metadata", "resourceVersion"] document
      = get? ["metadata", "resourceVersion"] (Codec.encode (Sample.conditioned false ["X"])) := by
  have hpatch : statusPatch? (Sample.conditioned false ["A", "B"])
      (Sample.conditioned true ["A", "B"]) none
        = some [.replace ["status", "ready"] (.bool true)] := by
    decide +kernel
  have happly : Patch.apply [.replace ["status", "ready"] (.bool true)]
        (Codec.encode (Sample.conditioned false ["X"]))
      = .ok (Codec.encode (Sample.conditioned true ["X"])) := by
    decide +kernel
  obtain ⟨hagree, houtside⟩ := patches_touch_only_changes (.status hpatch) happly
  refine ⟨_, _, .status hpatch, happly, by decide +kernel, ?_, ?_, ?_⟩
  · exact hagree ["status", "conditions"] ⟨_, rfl, .inr ⟨_, rfl, _, rfl, .inl rfl⟩⟩
      ⟨_, rfl, .inr ⟨_, rfl, _, rfl, .inl rfl⟩⟩ (by decide +kernel)
  · exact hagree ["metadata"] ⟨_, rfl, .inl rfl⟩ ⟨_, rfl, .inl rfl⟩ (by decide +kernel)
  · exact houtside ["metadata", "resourceVersion"] (by decide)

end Changes

end ClusterInfra
