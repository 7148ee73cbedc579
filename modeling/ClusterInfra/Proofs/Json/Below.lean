import ClusterInfra.Json.Diff
import ClusterInfra.Proofs.Json.Members
/-!
Patches that work below one member of an object.

Whatever such a patch does, the result is an object whose other members are the ones from before.
An operation below a member does to that member what the operation without the first token does to
a document of its own. The difference of two objects with the same single member is of this kind.
-/

namespace ClusterInfra.Json

/-- Members after a change of the one called `name`: the others read as before, and names that
increased strictly still do. -/
structure SameBut (name : String) (before after : Entries Json) : Prop where
  find? : ∀ other, other ≠ name → Entries.find? other after = Entries.find? other before
  sorted : before.Sorted → after.Sorted

namespace SameBut

variable {name : String} {before middle after members : Entries Json}

theorem refl (name : String) (members : Entries Json) : SameBut name members members :=
  ⟨fun _ _ => rfl, id⟩

theorem trans (h : SameBut name before middle) (h' : SameBut name middle after) :
    SameBut name before after :=
  ⟨fun other ho => (h'.find? other ho).trans (h.find? other ho), fun hs => h'.sorted (h.sorted hs)⟩

theorem insert (name : String) (value : Json) (members : Entries Json) :
    SameBut name members (Entries.insert name value members) :=
  ⟨fun _ ho => Entries.find?_insert_of_ne ho value members, fun hs => hs.insert name value⟩

theorem erase (name : String) (members : Entries Json) :
    SameBut name members (Entries.erase name members) :=
  ⟨fun _ ho => Entries.find?_erase_of_ne ho members, fun hs => hs.erase name⟩

end SameBut

/-- A change below a member of an object puts the changed part in its place. -/
theorem descend?_obj {token : String} {change : Json → Option Json} {members : Entries Json}
    {document : Json} (h : descend? token change (.obj members) = some document) :
    ∃ part part', Entries.find? token members = some part ∧ change part = some part' ∧
      document = .obj (Entries.insert token part' members) := by
  simp only [descend?, child?, Option.bind_eq_bind, Option.bind_eq_some_iff] at h
  obtain ⟨part, hfind, part', hchange, hset⟩ := h
  simp only [setChild?, hfind, Option.isSome_some, if_true, Option.some.injEq] at hset
  exact ⟨part, part', hfind, hchange, hset.symm⟩

namespace Operation

variable {operation : Operation} {token : String} {members : Entries Json} {document : Json}

@[simp] theorem path_under (token : String) (operation : Operation) :
    (operation.under token).path = token :: operation.path := by
  cases operation <;> rfl

theorem elim_eq_ok_iff {found : Option Json} :
    found.elim (.error .noSuchPath) .ok = (.ok document : Except Refusal Json)
      ↔ found = some document := by
  cases found <;> simp

theorem apply_test_eq_ok_iff {path : Pointer} {value : Json} {document' : Json} :
    (Operation.test path value).apply document = .ok document'
      ↔ get? path document = some value ∧ document' = document := by
  rw [apply]
  cases get? path document with
  | none => simp
  | some found =>
    by_cases hv : found = value
    · simp [hv, eq_comm]
    · simp [hv]

/-- An operation at or below a member of an object leaves the other members alone. -/
theorem apply_obj {rest : Pointer} (hpath : operation.path = token :: rest)
    (h : operation.apply (.obj members) = .ok document) :
    ∃ after, document = .obj after ∧ SameBut token members after := by
  have hdescend : ∀ {change}, descend? token change (.obj members) = some document →
      ∃ after, document = .obj after ∧ SameBut token members after := fun hd => by
    obtain ⟨_, part', -, -, rfl⟩ := descend?_obj hd
    exact ⟨_, rfl, .insert token part' members⟩
  cases operation with
  | add path value =>
    cases hpath
    rw [apply, elim_eq_ok_iff] at h
    cases rest with
    | nil =>
      simp only [add?, addChild?, Option.some.injEq] at h
      exact ⟨_, h.symm, .insert token value members⟩
    | cons next rest => exact hdescend h
  | remove path =>
    cases hpath
    rw [apply, elim_eq_ok_iff] at h
    cases rest with
    | nil =>
      simp only [remove?, removeChild?] at h
      split at h
      · exact ⟨_, (Option.some.inj h).symm, .erase token members⟩
      · cases h
    | cons next rest => exact hdescend h
  | replace path value =>
    cases hpath
    rw [apply, elim_eq_ok_iff] at h
    exact hdescend h
  | test path value =>
    rw [apply_test_eq_ok_iff] at h
    exact ⟨members, h.2, .refl token members⟩

/-- The operation works inside a document, or replaces it as a whole. -/
def IsLocal (operation : Operation) : Prop :=
  operation.path = [] → ∃ value, operation = .replace [] value

theorem isLocal_of_ne_nil {operation : Operation} (h : operation.path ≠ []) : operation.IsLocal :=
  fun hnil => absurd hnil h

theorem isLocal_under (token : String) (operation : Operation) :
    (operation.under token).IsLocal := by
  intro h
  rw [path_under] at h
  cases h

/-- An operation on a part that a token selects, said of the whole: it changes the part, and puts
the changed one in its place. -/
theorem part_of_apply_under {document' : Json} (hlocal : operation.IsLocal)
    (h : (operation.under token).apply document = .ok document') :
    ∃ part part', child? token document = some part ∧ operation.apply part = .ok part' ∧
      (setChild? token part' document = some document' ∨ part' = part ∧ document' = document) := by
  have hdescend : ∀ {change : Json → Option Json}, descend? token change document = some document' →
      ∃ part part', child? token document = some part ∧ change part = some part' ∧
        setChild? token part' document = some document' := fun hd => by
    simpa only [descend?, Option.bind_eq_bind, Option.bind_eq_some_iff, exists_and_left] using hd
  cases operation with
  | add path value =>
    obtain ⟨next, rest, rfl⟩ := List.exists_cons_of_ne_nil fun hnil => by
      obtain ⟨_, hreplace⟩ := hlocal hnil
      cases hreplace
    rw [under, apply, elim_eq_ok_iff] at h
    obtain ⟨part, part', hchild, hchange, hset⟩ := hdescend h
    exact ⟨part, part', hchild, elim_eq_ok_iff.2 hchange, .inl hset⟩
  | remove path =>
    obtain ⟨next, rest, rfl⟩ := List.exists_cons_of_ne_nil fun hnil => by
      obtain ⟨_, hreplace⟩ := hlocal hnil
      cases hreplace
    rw [under, apply, elim_eq_ok_iff] at h
    obtain ⟨part, part', hchild, hchange, hset⟩ := hdescend h
    exact ⟨part, part', hchild, elim_eq_ok_iff.2 hchange, .inl hset⟩
  | replace path value =>
    rw [under, apply, elim_eq_ok_iff] at h
    obtain ⟨part, part', hchild, hchange, hset⟩ := hdescend h
    exact ⟨part, part', hchild, elim_eq_ok_iff.2 hchange, .inl hset⟩
  | test path value =>
    rw [under, apply_test_eq_ok_iff] at h
    obtain ⟨hget, rfl⟩ := h
    obtain ⟨part, hchild, hget⟩ := Option.bind_eq_some_iff.1 hget
    exact ⟨part, part, hchild, apply_test_eq_ok_iff.2 ⟨hget, rfl⟩, .inr ⟨rfl, rfl⟩⟩

/-- An operation below a member of an object does to it what it does to a document of its own. -/
theorem apply_under_obj (hlocal : operation.IsLocal)
    (h : (operation.under token).apply (.obj members) = .ok document) :
    ∃ part part' after, Entries.find? token members = some part ∧ operation.apply part = .ok part' ∧
      document = .obj after ∧ Entries.find? token after = some part' ∧
      SameBut token members after := by
  obtain ⟨part, part', hfind, happly, hset | ⟨rfl, rfl⟩⟩ := part_of_apply_under hlocal h
  · have hfound : Entries.find? token members = some part := hfind
    simp only [setChild?, hfound, Option.isSome_some, if_true, Option.some.injEq] at hset
    exact ⟨part, part', _, hfound, happly, hset.symm,
      Entries.find?_insert_self token part' members, .insert token part' members⟩
  · exact ⟨part', part', members, hfind, happly, rfl, hfind, .refl token members⟩

end Operation

namespace Patch

variable {patch front back : Patch} {operation : Operation} {document document' : Json}

/-- Where the count of operations begins matters for failures only. -/
theorem applyFrom_eq_ok_iff : ∀ {patch : Patch} {document : Json} (index : Nat),
    applyFrom index patch document = .ok document' ↔ apply patch document = .ok document'
  | [], _, _ => Iff.rfl
  | operation :: rest, document, index => by
    rw [apply, applyFrom, applyFrom]
    cases operation.apply document with
    | error refusal => simp
    | ok next => exact (applyFrom_eq_ok_iff _).trans (applyFrom_eq_ok_iff _).symm

theorem apply_nil_eq_ok_iff : apply [] document = .ok document' ↔ document = document' := by
  simp [apply, applyFrom]

theorem apply_cons_eq_ok_iff : apply (operation :: patch) document = .ok document' ↔
    ∃ next, operation.apply document = .ok next ∧ apply patch next = .ok document' := by
  rw [apply, applyFrom]
  cases operation.apply document with
  | error refusal => simp
  | ok next => simpa using applyFrom_eq_ok_iff _

theorem apply_append_eq_ok_iff : ∀ {front : Patch} {document : Json},
    apply (front ++ back) document = .ok document' ↔
      ∃ middle, apply front document = .ok middle ∧ apply back middle = .ok document'
  | [], document => by simp [apply_nil_eq_ok_iff]
  | operation :: rest, document => by
    simp only [List.cons_append, apply_cons_eq_ok_iff, apply_append_eq_ok_iff]
    constructor
    · rintro ⟨next, hnext, middle, hmiddle, hback⟩
      exact ⟨middle, ⟨next, hnext, hmiddle⟩, hback⟩
    · rintro ⟨middle, ⟨next, hnext, hmiddle⟩, hback⟩
      exact ⟨next, hnext, middle, hmiddle, hback⟩

/-- Every operation works at or below a member. -/
def IsBelow (token : String) (patch : Patch) : Prop :=
  ∀ operation ∈ patch, operation.path.head? = some token

theorem isBelow_map_under (token : String) (patch : Patch) :
    IsBelow token (patch.map (Operation.under token)) := by
  intro operation hmem
  obtain ⟨inner, -, rfl⟩ := List.mem_map.1 hmem
  rw [Operation.path_under, List.head?_cons]

/-- A patch below a member of an object leaves the other members alone. -/
theorem apply_obj {token : String} : ∀ {patch : Patch} {members : Entries Json},
    IsBelow token patch → apply patch (.obj members) = .ok document →
      ∃ after, document = .obj after ∧ SameBut token members after
  | [], members, _, h => ⟨members, (apply_nil_eq_ok_iff.1 h).symm, .refl token members⟩
  | operation :: rest, members, hbelow, h => by
    obtain ⟨next, hnext, hrest⟩ := apply_cons_eq_ok_iff.1 h
    obtain ⟨path, hpath⟩ := List.head?_eq_some_iff.1 (hbelow operation List.mem_cons_self)
    obtain ⟨middle, rfl, hmiddle⟩ := Operation.apply_obj hpath hnext
    obtain ⟨after, hafter, hsame⟩ :=
      apply_obj (fun op hop => hbelow op (List.mem_cons_of_mem operation hop)) hrest
    exact ⟨after, hafter, hmiddle.trans hsame⟩

end Patch

/-- Objects with one member of the same name differ below it. -/
theorem diff_single (name : String) (old new : Json) :
    diff (.obj [(name, old)]) (.obj [(name, new)]) = (diff old new).map (Operation.under name) := by
  simp [diff, diffMembers, removedMembers, Entries.find?]

end ClusterInfra.Json
