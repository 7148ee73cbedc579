import ClusterInfra.Proofs.Json.Below
import ClusterInfra.Proofs.Resource.Faithful
import ClusterInfra.Proofs.Text.Numbers
/-!
The document of metadata.

Members are written in the order of their names, so metadata with other finalizers has the same
document but for one member, and what an operation on the finalizers does to the document is said
by metadata again.
-/

namespace ClusterInfra

/-- Taking out the first occurrence takes out all of them exactly if there is just one. -/
theorem erase_eq_filter_iff {finalizer : String} : ∀ {finalizers : List String},
    finalizer ∈ finalizers →
    (finalizers.erase finalizer = finalizers.filter (· ≠ finalizer) ↔
      finalizers.count finalizer = 1)
  | first :: rest, hmem => by
    by_cases hfirst : first = finalizer
    · subst hfirst
      have hcount : rest.count first = 0 ↔ rest.filter (· ≠ first) = rest := by
        rw [List.count_eq_zero, List.filter_eq_self]
        simp only [ne_eq, decide_not, Bool.not_eq_true', decide_eq_false_iff_not]
        exact ⟨fun h other hother heq => h (heq ▸ hother), fun h hmem => h first hmem rfl⟩
      rw [List.erase_cons_head, List.filter_cons_of_neg (by simp), List.count_cons_self,
        Nat.add_eq_right, hcount]
      exact eq_comm
    · have hrest := erase_eq_filter_iff (List.mem_of_ne_of_mem (Ne.symm hfirst) hmem)
      rw [List.erase_cons_tail (by simpa using hfirst), List.filter_cons_of_pos (by simpa using hfirst),
        List.count_cons_of_ne hfirst, List.cons_inj_right, hrest]

namespace Metadata

open Json Record

/-- Metadata with other finalizers. -/
def withFinalizers (metadata : Metadata) (finalizers : Option (List String)) : Metadata :=
  { metadata with finalizers }

/-- The document of metadata is an object with sorted members. -/
theorem encode_eq_obj (metadata : Metadata) : ∃ members : Entries Json,
    Codec.encode metadata = .obj members ∧ members.Sorted := by
  have hordered := Codec.Faithful.ordered metadata
  cases hmembers : Codec.encode metadata with
  | obj members =>
    rw [hmembers] at hordered
    cases hordered with
    | obj hsorted => exact ⟨members, rfl, hsorted⟩
  | _ => cases hmembers

/-- Only one member depends on the finalizers. -/
theorem member?_withFinalizers (metadata : Metadata) (finalizers : Option (List String))
    {name : String} (h : name ≠ "finalizers") :
    member? name (Codec.encode (metadata.withFinalizers finalizers))
      = member? name (Codec.encode metadata) := by
  simp only [Codec.encode, member?, Entries.find?_append, find?_memberIfSome, withFinalizers,
    if_neg h.symm]

theorem member?_finalizers (metadata : Metadata) :
    member? "finalizers" (Codec.encode metadata) = metadata.finalizers.map Codec.encode := by
  simp [Codec.encode, member?, Entries.find?_append]

theorem member?_resourceVersion (metadata : Metadata) :
    member? "resourceVersion" (Codec.encode metadata)
      = metadata.resourceVersion.map Codec.encode := by
  simp [Codec.encode, member?, Entries.find?_append]

/-- Metadata whose documents agree but for one member: putting that member in its place makes one
document the other. -/
theorem encode_eq_of_sameBut {a b : Metadata} {name : String} {before after : Entries Json}
    (hbefore : Codec.encode a = .obj before) (hsame : SameBut name before after)
    (hname : Entries.find? name after = member? name (Codec.encode b))
    (hothers : ∀ other, other ≠ name →
      member? other (Codec.encode b) = member? other (Codec.encode a)) :
    Codec.encode b = .obj after := by
  obtain ⟨members, hmembers, hsorted⟩ := encode_eq_obj a
  obtain ⟨members', hmembers', hsorted'⟩ := encode_eq_obj b
  cases hbefore.symm.trans hmembers
  rw [hmembers'] at hname hothers ⊢
  rw [hbefore] at hothers
  congr 1
  refine hsorted'.ext (hsame.sorted hsorted) fun other => ?_
  by_cases h : other = name
  · rw [h, hname, member?]
  · rw [hsame.find? other h]
    exact hothers other h

/-- A document that differs from the one of metadata in the finalizers only, and holds finalizers in
their place, is the document of that metadata with these finalizers. -/
theorem encode_withFinalizers {metadata : Metadata} {before after : Entries Json}
    {finalizers : List String} (hbefore : Codec.encode metadata = .obj before)
    (hsame : SameBut "finalizers" before after)
    (hfind : Entries.find? "finalizers" after = some (Codec.encode finalizers)) :
    Codec.encode (metadata.withFinalizers (some finalizers)) = .obj after := by
  refine encode_eq_of_sameBut hbefore hsame ?_ fun _ => member?_withFinalizers metadata _
  rw [hfind, member?_finalizers]
  rfl

/-! ### Operations on the finalizers -/

/-- An operation below the finalizers, on a document of metadata, works on the list of finalizers.
-/
theorem apply_under_finalizers {metadata : Metadata} {document : Json} (operation : Operation)
    (hpath : operation.path ≠ [])
    (h : (operation.under "finalizers").apply (Codec.encode metadata) = .ok document) :
    ∃ finalizers part, metadata.finalizers = some finalizers ∧
      operation.apply (Codec.encode finalizers) = .ok part ∧
      ∀ finalizers', part = Codec.encode finalizers' →
        document = Codec.encode (metadata.withFinalizers (some finalizers')) := by
  obtain ⟨before, hbefore, -⟩ := encode_eq_obj metadata
  rw [hbefore] at h
  obtain ⟨part, part', after, hfind, happly, rfl, hafter, hsame⟩ :=
    Operation.apply_under_obj (Operation.isLocal_of_ne_nil hpath) h
  have hpart : metadata.finalizers.map Codec.encode = some part := by
    rw [← member?_finalizers, hbefore, member?, hfind]
  obtain ⟨finalizers, hfinalizers, rfl⟩ := Option.map_eq_some_iff.1 hpart
  refine ⟨finalizers, part', hfinalizers, happly, fun finalizers' heq => ?_⟩
  exact (encode_withFinalizers hbefore hsame (heq ▸ hafter)).symm

/-- Adding at the end needs a list of finalizers. -/
theorem apply_add_finalizer {metadata : Metadata} {finalizer : String} {document : Json}
    (h : (Operation.add ["finalizers", "-"] (.str finalizer)).apply (Codec.encode metadata)
      = .ok document) :
    ∃ finalizers, metadata.finalizers = some finalizers ∧
      document = Codec.encode (metadata.withFinalizers (some (finalizers ++ [finalizer]))) := by
  obtain ⟨finalizers, part, hfinalizers, happly, hdocument⟩ :=
    apply_under_finalizers (.add ["-"] (.str finalizer)) (by simp [Operation.path]) h
  refine ⟨finalizers, hfinalizers, hdocument _ ?_⟩
  simp only [Operation.apply, Operation.elim_eq_ok_iff, Codec.encode, add?, addChild?, if_true,
    Option.some.injEq] at happly
  simp [← happly, Codec.encode]

/-- Adding the list replaces whatever list there is. -/
theorem apply_add_finalizers {metadata : Metadata} {finalizers : List String} {document : Json}
    (h : (Operation.add ["finalizers"] (Codec.encode finalizers)).apply (Codec.encode metadata)
      = .ok document) :
    document = Codec.encode (metadata.withFinalizers (some finalizers)) := by
  obtain ⟨before, hbefore, -⟩ := encode_eq_obj metadata
  rw [hbefore, Operation.apply, Operation.elim_eq_ok_iff, add?, addChild?, Option.some.injEq] at h
  subst h
  exact (encode_withFinalizers hbefore (.insert _ _ before) (Entries.find?_insert_self ..)).symm

/-- A test of one finalizer leaves the document as it is. -/
theorem apply_test_finalizer {metadata : Metadata} {index : Nat} {finalizer : String}
    {document : Json}
    (h : (Operation.test ["finalizers", toString index] (.str finalizer)).apply
      (Codec.encode metadata) = .ok document) :
    document = Codec.encode metadata ∧
      ∃ finalizers, metadata.finalizers = some finalizers ∧ finalizers[index]? = some finalizer := by
  refine ⟨(Operation.apply_test_eq_ok_iff.1 h).2, ?_⟩
  obtain ⟨finalizers, part, hfinalizers, happly, -⟩ :=
    apply_under_finalizers (.test [toString index] (.str finalizer))
      (by simp [Operation.path]) h
  refine ⟨finalizers, hfinalizers, ?_⟩
  have hget := (Operation.apply_test_eq_ok_iff.1 happly).1
  simp only [get?, child?, Codec.encode, index?_toString, Option.bind_some, List.getElem?_map] at hget
  simpa using hget

/-- Removing takes out the finalizer at an index. -/
theorem apply_remove_finalizer {metadata : Metadata} {index : Nat} {document : Json}
    (h : (Operation.remove ["finalizers", toString index]).apply (Codec.encode metadata)
      = .ok document) :
    ∃ finalizers, metadata.finalizers = some finalizers ∧
      document = Codec.encode (metadata.withFinalizers (some (finalizers.eraseIdx index))) := by
  obtain ⟨finalizers, part, hfinalizers, happly, hdocument⟩ :=
    apply_under_finalizers (.remove [toString index]) (by simp [Operation.path]) h
  refine ⟨finalizers, hfinalizers, hdocument _ ?_⟩
  simp only [Operation.apply, Operation.elim_eq_ok_iff, Codec.encode, remove?, removeChild?,
    index?_toString, Option.bind_some, List.length_map] at happly
  split at happly
  · simp only [Option.some.injEq] at happly
    simp [← happly, Codec.encode, List.eraseIdx_eq_take_drop_succ]
  · cases happly

end Metadata

end ClusterInfra
