import ClusterInfra.Proofs.Store.WellTyped
/-!
Finalizers of others.

The patch of finalizer and spec is about the finalizer of this controller, and may meet a list that
others have changed. Added at the end of the list that is there, or taken out at an index where it
is found, the finalizer leaves the other ones as they are. Not so where the change started from an
object without a list: then a list of one is written over whatever list there is by now.
-/

namespace ClusterInfra

open Json

/-- The finalizers that belong to others, in the order in which they are listed. -/
def foreignFinalizers (finalizers : Option (List String)) : List String :=
  (finalizers.getD []).filter (· ≠ clusterFinalizer)

@[simp] theorem foreignFinalizers_own : foreignFinalizers (some [clusterFinalizer]) = [] := by
  simp [foreignFinalizers]

/-- Adding the finalizer of this controller adds nothing to the others. -/
theorem foreignFinalizers_append (finalizers : List String) :
    foreignFinalizers (some (finalizers ++ [clusterFinalizer]))
      = foreignFinalizers (some finalizers) := by
  simp [foreignFinalizers]

/-- Taking out the finalizer of this controller takes nothing from the others. -/
theorem foreignFinalizers_eraseIdx {finalizers : List String} {index : Nat}
    (h : finalizers[index]? = some clusterFinalizer) :
    foreignFinalizers (some (finalizers.eraseIdx index)) = foreignFinalizers (some finalizers) := by
  obtain ⟨hindex, hfound⟩ := List.getElem?_eq_some_iff.1 h
  have hsplit : finalizers.take index ++ clusterFinalizer :: finalizers.drop (index + 1)
      = finalizers := by
    rw [← hfound, List.getElem_cons_drop, List.take_append_drop]
  calc foreignFinalizers (some (finalizers.eraseIdx index))
      = foreignFinalizers
          (some (finalizers.take index ++ clusterFinalizer :: finalizers.drop (index + 1))) := by
        simp [foreignFinalizers, List.eraseIdx_eq_take_drop_succ]
    _ = foreignFinalizers (some finalizers) := by rw [hsplit]

namespace Changes

variable {before after : AwsCluster} {version : Option String} {patch : Patch} {document : Json}

/-- The finalizer is new, and the change started from an object without a list of finalizers. -/
def CreatesList (before after : AwsCluster) : Prop :=
  before.metadata.finalizers = none ∧ after.hasFinalizer = true

theorem CreatesList.hasFinalizer_eq_false (h : CreatesList before after) :
    before.hasFinalizer = false := by
  rw [hasFinalizer_eq, h.1]
  decide

/-- The finalizers of others stay, unless a list is created: then there are none. -/
theorem MovesFinalizers.foreign_eq {stored updated : Option (List String)}
    (h : MovesFinalizers before after stored updated) (hlist : ¬CreatesList before after) :
    foreignFinalizers updated = foreignFinalizers stored := by
  cases h with
  | appended _ _ _ stored => exact foreignFinalizers_append stored
  | created _ hafter hnone => exact (hlist ⟨hnone, hafter⟩).elim
  | removed _ _ stored hfound => exact foreignFinalizers_eraseIdx hfound
  | kept => rfl

theorem MovesFinalizers.eq_of_createsList {stored updated : Option (List String)}
    (h : MovesFinalizers before after stored updated) (hlist : CreatesList before after) :
    updated = some [clusterFinalizer] := by
  have hbefore := hlist.hasFinalizer_eq_false
  cases h with
  | appended _ _ hsome =>
    rw [hlist.1] at hsome
    cases hsome
  | created => rfl
  | removed hbefore' =>
    rw [hbefore] at hbefore'
    cases hbefore'
  | kept hsame =>
    rw [hbefore, hlist.2] at hsame
    cases hsame

/-- A patch of finalizer and spec leaves the finalizers of others as they are, in number and order,
unless the change creates the list of finalizers: what is stored then is the finalizer of this
controller alone. -/
theorem foreign_finalizers_stay_iff (hpatch : objectPatch? before after version = some patch)
    {stored : AwsCluster} (happly : patch.apply (Codec.encode stored) = .ok document) :
    ∃ updated : AwsCluster, Codec.decode? document = some updated ∧
      (foreignFinalizers updated.metadata.finalizers = foreignFinalizers stored.metadata.finalizers ↔
        (CreatesList before after → foreignFinalizers stored.metadata.finalizers = [])) ∧
      (CreatesList before after → updated.metadata.finalizers = some [clusterFinalizer]) := by
  obtain ⟨updated, hread⟩ := (PatchOf.object hpatch).reads happly
  obtain ⟨-, -, hmoves⟩ := follows_of_objectPatch hpatch (AwsCluster.patched_eq_ok happly hread)
  have hmoves : MovesFinalizers before after stored.metadata.finalizers
      updated.metadata.finalizers := hmoves
  refine ⟨updated, hread, ⟨fun hsame hlist => ?_, fun hnone => ?_⟩, hmoves.eq_of_createsList⟩
  · rw [← hsame, hmoves.eq_of_createsList hlist, foreignFinalizers_own]
  · by_cases hlist : CreatesList before after
    · rw [hmoves.eq_of_createsList hlist, hnone hlist, foreignFinalizers_own]
    · exact hmoves.foreign_eq hlist

/-- The finalizer is added to a list to which someone else has added another one. -/
theorem late_finalizer_stays : ∃ patch document updated,
    objectPatch? (Sample.object (some [])) (Sample.object (some [clusterFinalizer])) none
      = some patch ∧
    patch.apply (Codec.encode (Sample.object (some ["late.io/cleanup"]))) = .ok document ∧
    Codec.decode? document = some (updated : AwsCluster) ∧
    foreignFinalizers updated.metadata.finalizers = ["late.io/cleanup"] := by
  have hpatch : objectPatch? (Sample.object (some [])) (Sample.object (some [clusterFinalizer])) none
      = some [.add ["metadata", "finalizers", "-"] (.str clusterFinalizer)] := by
    decide +kernel
  have happly : Patch.apply [.add ["metadata", "finalizers", "-"] (.str clusterFinalizer)]
        (Codec.encode (Sample.object (some ["late.io/cleanup"])))
      = .ok (Codec.encode (Sample.object (some ["late.io/cleanup", clusterFinalizer]))) := by
    decide +kernel
  obtain ⟨updated, hread, hstay, -⟩ := foreign_finalizers_stay_iff hpatch happly
  exact ⟨_, _, updated, hpatch, happly, hread, hstay.2 fun hlist => nomatch hlist.1⟩

/-- The finalizer of someone else is lost: the change started from an object without a list. -/
theorem late_finalizer_lost : ¬∀ (before after stored updated : AwsCluster)
    (version : Option String) (patch : Patch) (document : Json),
    objectPatch? before after version = some patch →
    patch.apply (Codec.encode stored) = .ok document → Codec.decode? document = some updated →
    foreignFinalizers updated.metadata.finalizers
      = foreignFinalizers stored.metadata.finalizers := by
  intro h
  have hlost := h (Sample.object none) (Sample.object (some [clusterFinalizer]))
    (Sample.object (some ["late.io/cleanup"])) (Sample.object (some [clusterFinalizer])) none
    [.add ["metadata", "finalizers"] (.arr [.str clusterFinalizer])]
    (Codec.encode (Sample.object (some [clusterFinalizer])))
    (by decide +kernel) (by decide +kernel) (Codec.Faithful.toLossless.decode?_encode _)
  revert hlost
  decide

end Changes

end ClusterInfra
