import ClusterInfra.Proofs.Json.Below
import ClusterInfra.Proofs.Text.Numbers
/-!
The difference of two documents takes the old one to the new one.

This holds of documents in key order. An object is rebuilt member by member: the members of the new
object are put in their places, and then the ones that are gone are taken out, so that in the end
every name is looked up as in the new object. A list is rebuilt from the front: what lies before an
index is new already, and what lies behind it is old still.
-/

namespace ClusterInfra.Json

/-! ### Operations on a part -/

namespace Operation

variable {operation : Operation} {token : String} {document document' part part' : Json}

/-- An operation on a part does to the whole what putting the changed part in its place does. -/
theorem apply_under (hlocal : operation.IsLocal) (hchild : child? token document = some part)
    (hself : setChild? token part document = some document)
    (hset : setChild? token part' document = some document')
    (h : operation.apply part = .ok part') :
    (operation.under token).apply document = .ok document' := by
  have hdescend : ∀ {change : Json → Option Json}, change part = some part' →
      descend? token change document = some document' := fun hchange => by
    simp [descend?, hchild, hchange, hset]
  cases operation with
  | add path value =>
    cases path with
    | nil =>
      obtain ⟨_, hreplace⟩ := hlocal rfl
      cases hreplace
    | cons next rest =>
      rw [apply, elim_eq_ok_iff] at h
      rw [under, apply, elim_eq_ok_iff]
      exact hdescend h
  | remove path =>
    cases path with
    | nil =>
      obtain ⟨_, hreplace⟩ := hlocal rfl
      cases hreplace
    | cons next rest =>
      rw [apply, elim_eq_ok_iff] at h
      rw [under, apply, elim_eq_ok_iff]
      exact hdescend h
  | replace path value =>
    rw [apply, elim_eq_ok_iff] at h
    rw [under, apply, elim_eq_ok_iff]
    exact hdescend h
  | test path value =>
    obtain ⟨hget, rfl⟩ := apply_test_eq_ok_iff.1 h
    rw [under, apply_test_eq_ok_iff, get?, hchild]
    exact ⟨hget, Option.some.inj (hset.symm.trans hself)⟩

end Operation

namespace Patch

/-- Every operation works inside the document or replaces it. -/
def IsLocal (patch : Patch) : Prop := ∀ operation ∈ patch, operation.IsLocal

theorem isLocal_map_under (token : String) (patch : Patch) :
    IsLocal (patch.map (Operation.under token)) := by
  intro operation hmem
  obtain ⟨inner, -, rfl⟩ := List.mem_map.1 hmem
  exact Operation.isLocal_under token inner

theorem isLocal_append {front back : Patch} (h : IsLocal front) (h' : IsLocal back) :
    IsLocal (front ++ back) := fun operation hmem =>
  (List.mem_append.1 hmem).elim (h operation) (h' operation)

/-- A patch of a member of an object puts the patched member in its place. -/
theorem apply_under_obj {token : String} : ∀ {patch : Patch} {members : Entries Json}
    {part part' : Json}, IsLocal patch → Entries.Sorted members →
      Entries.find? token members = some part → apply patch part = .ok part' →
      apply (patch.map (Operation.under token)) (.obj members)
        = .ok (.obj (members.insert token part'))
  | [], members, part, part', _, hsorted, hfind, h => by
    cases apply_nil_eq_ok_iff.1 h
    rw [List.map_nil, apply_nil_eq_ok_iff, hsorted.insert_eq_self hfind]
  | operation :: rest, members, part, part', hlocal, hsorted, hfind, h => by
    obtain ⟨next, hnext, hrest⟩ := apply_cons_eq_ok_iff.1 h
    have hset : ∀ value, setChild? token value (.obj members)
        = some (.obj (members.insert token value)) := fun value => by
      simp [setChild?, hfind]
    have hself := hset part
    rw [hsorted.insert_eq_self hfind] at hself
    refine apply_cons_eq_ok_iff.2 ⟨_, Operation.apply_under (hlocal operation List.mem_cons_self)
      hfind hself (hset next) hnext, ?_⟩
    have happly := apply_under_obj (fun other hmem => hlocal other (List.mem_cons_of_mem _ hmem))
      (hsorted.insert token next) (Entries.find?_insert_self token next members) hrest
    rw [happly, hsorted.insert_insert]

/-- A patch of an item of a list puts the patched item in its place. -/
theorem apply_under_arr (front back : List Json) : ∀ {patch : Patch} {part part' : Json},
    IsLocal patch → apply patch part = .ok part' →
      apply (patch.map (Operation.under (toString front.length))) (.arr (front ++ part :: back))
        = .ok (.arr (front ++ part' :: back))
  | [], part, part', _, h => by
    cases apply_nil_eq_ok_iff.1 h
    exact apply_nil_eq_ok_iff.2 rfl
  | operation :: rest, part, part', hlocal, h => by
    obtain ⟨next, hnext, hrest⟩ := apply_cons_eq_ok_iff.1 h
    have hchild : child? (toString front.length) (.arr (front ++ part :: back)) = some part := by
      rw [child?, index?_toString]
      simp
    have hset : ∀ value, setChild? (toString front.length) value (.arr (front ++ part :: back))
        = some (.arr (front ++ value :: back)) := fun value => by
      rw [setChild?, index?_toString]
      simp
    refine apply_cons_eq_ok_iff.2 ⟨_, Operation.apply_under (hlocal operation List.mem_cons_self)
      hchild (hset part) (hset next) hnext, ?_⟩
    exact apply_under_arr front back
      (fun other hmem => hlocal other (List.mem_cons_of_mem _ hmem)) hrest

end Patch

/-! ### Differences are local -/

theorem isLocal_diffMembers (old : List (String × Json)) : ∀ new : List (String × Json),
    Patch.IsLocal (diffMembers old new)
  | [] => fun _ hmem => nomatch hmem
  | (name, value) :: rest => by
    rw [diffMembers]
    refine Patch.isLocal_append ?_ (isLocal_diffMembers old rest)
    split
    · exact Patch.isLocal_map_under name _
    · intro operation hmem
      cases List.mem_singleton.1 hmem
      exact Operation.isLocal_of_ne_nil (List.cons_ne_nil name [])

theorem isLocal_removedMembers (old new : List (String × Json)) :
    Patch.IsLocal (removedMembers old new) := by
  intro operation hmem
  obtain ⟨member, -, rfl⟩ := List.mem_map.1 hmem
  exact Operation.isLocal_of_ne_nil (List.cons_ne_nil member.1 [])

theorem isLocal_addedItems : ∀ (index : Nat) (items : List Json),
    Patch.IsLocal (addedItems index items)
  | _, [] => fun _ hmem => nomatch hmem
  | index, item :: rest => by
    intro operation hmem
    rcases List.mem_cons.1 hmem with rfl | hmem
    · exact Operation.isLocal_of_ne_nil (List.cons_ne_nil _ [])
    · exact isLocal_addedItems (index + 1) rest operation hmem

theorem isLocal_diffItems : ∀ (new : List Json) (index : Nat) (old : List Json),
    Patch.IsLocal (diffItems index old new)
  | [], index, old => by
    intro operation hmem
    obtain ⟨item, -, rfl⟩ := List.mem_map.1 (by simpa only [diffItems] using hmem)
    exact fun h => nomatch h
  | item :: rest, index, [] => by
    rw [diffItems]
    exact isLocal_addedItems index (item :: rest)
  | item :: rest, index, before :: old => by
    rw [diffItems]
    exact Patch.isLocal_append (Patch.isLocal_map_under _ _) (isLocal_diffItems rest (index + 1) old)

theorem isLocal_diff (old new : Json) : Patch.IsLocal (diff old new) := by
  have hreplace : ∀ value, Patch.IsLocal [.replace [] value] := fun value operation hmem => by
    cases List.mem_singleton.1 hmem
    exact fun _ => ⟨value, rfl⟩
  have hleaf : Patch.IsLocal (if old = new then [] else [.replace [] new]) := by
    split
    · exact fun _ hmem => nomatch hmem
    · exact hreplace new
  cases new with
  | obj new =>
    cases old with
    | obj old =>
      exact Patch.isLocal_append (isLocal_diffMembers old new) (isLocal_removedMembers old new)
    | _ => exact hreplace _
  | arr new =>
    cases old with
    | arr old => exact isLocal_diffItems new 0 old
    | _ => exact hreplace _
  | _ => exact hleaf

/-! ### Rebuilding -/

/-- Taking members out that are there leaves the others. -/
theorem apply_removals : ∀ (gone : Entries Json) {current : Entries Json},
    Entries.Sorted gone → Entries.Sorted current →
    (∀ member ∈ gone, (Entries.find? member.1 current).isSome) →
      ∃ updated, Patch.apply (gone.map fun member => .remove [member.1]) (.obj current)
          = .ok (.obj updated) ∧ Entries.Sorted updated ∧
        ∀ name, Entries.find? name updated
          = if name ∈ gone.map (·.1) then none else Entries.find? name current
  | [], current, _, hsorted, _ => ⟨current, rfl, hsorted, fun _ => by simp⟩
  | (first, value) :: rest, current, hgone, hsorted, hfound => by
    obtain ⟨hlt, hrest⟩ := List.pairwise_cons.1 hgone
    have hfirst : (Entries.find? first current).isSome := hfound (first, value) List.mem_cons_self
    have hne : ∀ member ∈ rest, member.1 ≠ first := fun member hmem heq =>
      String.lt_irrefl first (heq ▸ hlt member hmem)
    obtain ⟨updated, happly, hupdated, hfind⟩ := apply_removals rest hrest (hsorted.erase first)
      fun member hmem => by
        rw [Entries.find?_erase_of_ne (hne member hmem)]
        exact hfound member (List.mem_cons_of_mem _ hmem)
    refine ⟨updated, ?_, hupdated, fun name => ?_⟩
    · refine Patch.apply_cons_eq_ok_iff.2 ⟨.obj (current.erase first), ?_, happly⟩
      simp [Operation.apply, remove?, removeChild?, hfirst]
    · rw [hfind name]
      by_cases hname : name = first
      · subst hname
        simp [Entries.find?_erase_self]
      · rw [Entries.find?_erase_of_ne hname, List.map_cons]
        simp only [List.mem_cons, hname, false_or]

/-- Items beyond the end of a list are added to it one after the other. -/
theorem apply_addedItems : ∀ (added front : List Json),
    Patch.apply (addedItems front.length added) (.arr front) = .ok (.arr (front ++ added))
  | [], front => by rw [addedItems, Patch.apply_nil_eq_ok_iff, List.append_nil]
  | item :: rest, front => by
    have htoken : toString front.length ≠ "-" := fun h => by
      have hindex := index?_toString front.length
      rw [h, show index? "-" = none by decide] at hindex
      cases hindex
    refine Patch.apply_cons_eq_ok_iff.2 ⟨.arr (front ++ [item]), ?_, ?_⟩
    · rw [Operation.apply, add?, addChild?, if_neg htoken, index?_toString]
      simp
    · have hrest := apply_addedItems rest (front ++ [item])
      rw [List.length_append, List.length_singleton, List.append_assoc] at hrest
      exact hrest

/-- Items from an index on are taken out at this index, one after the other. -/
theorem apply_removedItems (front : List Json) : ∀ old : List Json,
    Patch.apply (old.map fun _ => .remove [toString front.length]) (.arr (front ++ old))
      = .ok (.arr front)
  | [] => by rw [List.map_nil, Patch.apply_nil_eq_ok_iff, List.append_nil]
  | item :: rest => by
    refine Patch.apply_cons_eq_ok_iff.2 ⟨.arr (front ++ rest), ?_, apply_removedItems front rest⟩
    rw [Operation.apply, remove?, removeChild?, index?_toString]
    simp [List.eraseIdx_append_of_length_le]

theorem ordered_find? {name : String} {value : Json} : ∀ {members : List (String × Json)},
    (∀ member ∈ members, Ordered member.2) → Entries.find? name members = some value →
      value.Ordered
  | first :: rest, h, hfind => by
    rw [Entries.find?] at hfind
    split at hfind
    · cases hfind
      exact h first List.mem_cons_self
    · exact ordered_find? (fun member hmem => h member (List.mem_cons_of_mem _ hmem)) hfind

theorem apply_replace (old new : Json) : Patch.apply [.replace [] new] old = .ok new := rfl

theorem apply_replaceUnless (old new : Json) :
    Patch.apply (if old = new then [] else [.replace [] new]) old = .ok new := by
  split
  next heq => rw [heq, Patch.apply_nil_eq_ok_iff]
  next => rfl

/-- Once every member of the new object is in its place, the members that are gone are taken out. -/
theorem apply_removedMembers {old new middle : Entries Json} (hold : old.Sorted) (hnew : new.Sorted)
    (hmiddle : middle.Sorted) (hfind : ∀ name, Entries.find? name middle
      = (Entries.find? name new).or (Entries.find? name old)) :
    Patch.apply (removedMembers old new) (.obj middle) = .ok (.obj new) := by
  have hgone : Entries.Sorted (old.filter fun member => (Entries.find? member.1 new).isNone) :=
    hold.filter _
  have hmem : ∀ name, name ∈ (old.filter fun member =>
      (Entries.find? member.1 new).isNone).map (·.1) ↔
        name ∈ old.map (·.1) ∧ Entries.find? name new = none := by
    intro name
    simp only [List.mem_map, List.mem_filter, Option.isNone_iff_eq_none]
    constructor
    · rintro ⟨member, ⟨hold, hnone⟩, rfl⟩
      exact ⟨⟨member, hold, rfl⟩, hnone⟩
    · rintro ⟨⟨member, hold, rfl⟩, hnone⟩
      exact ⟨member, ⟨hold, hnone⟩, rfl⟩
  obtain ⟨updated, happly, hupdated, hfind'⟩ := apply_removals _ hgone hmiddle fun member h => by
    obtain ⟨hmember, hnone⟩ := (hmem member.1).1 (List.mem_map_of_mem h)
    rw [hfind, hnone, Option.none_or, Option.isSome_iff_ne_none, ne_eq, Entries.find?_eq_none_iff]
    exact not_not_intro hmember
  suffices hsame : updated = new by rw [removedMembers, happly, hsame]
  refine hupdated.ext hnew fun name => ?_
  rw [hfind' name, hfind name]
  cases hname : Entries.find? name new with
  | some value =>
    rw [if_neg fun h => by rw [((hmem name).1 h).2] at hname; cases hname]
    rfl
  | none =>
    split
    next => rfl
    next hkept =>
      rw [Option.none_or, Entries.find?_eq_none_iff]
      exact fun h => hkept ((hmem name).2 ⟨h, hname⟩)

mutual

/-- The difference of two documents in key order takes the old one to the new one. -/
theorem apply_diff : ∀ new old : Json, old.Ordered → new.Ordered →
    Patch.apply (diff old new) old = .ok new
  | .null, old, _, _ => apply_replaceUnless old .null
  | .bool value, old, _, _ => apply_replaceUnless old (.bool value)
  | .int value, old, _, _ => apply_replaceUnless old (.int value)
  | .decimal mantissa exponent, old, _, _ => apply_replaceUnless old (.decimal mantissa exponent)
  | .str value, old, _, _ => apply_replaceUnless old (.str value)
  | .arr new, .arr old, .arr hold, .arr hnew => apply_diffItems new old [] hold hnew
  | .obj new, .obj old, .obj holdSorted hold, .obj hnewSorted hnew => by
    obtain ⟨middle, hmembers, hmiddle, hfind⟩ :=
      apply_diffMembers new old old hold hnewSorted hnew holdSorted fun _ _ => rfl
    rw [diff]
    exact Patch.apply_append_eq_ok_iff.2
      ⟨_, hmembers, apply_removedMembers holdSorted hnewSorted hmiddle hfind⟩
  | .arr new, .null, _, _ | .arr new, .bool _, _, _ | .arr new, .int _, _, _
  | .arr new, .decimal _ _, _, _ | .arr new, .str _, _, _ | .arr new, .obj _, _, _ =>
    apply_replace _ _
  | .obj new, .null, _, _ | .obj new, .bool _, _, _ | .obj new, .int _, _, _
  | .obj new, .decimal _ _, _, _ | .obj new, .str _, _, _ | .obj new, .arr _, _, _ =>
    apply_replace _ _

/-- The members of the new object are put into one that has the old values at their names. -/
theorem apply_diffMembers : ∀ (new old : List (String × Json)) (current : Entries Json),
    (∀ member ∈ old, Ordered member.2) → Entries.Sorted new → (∀ member ∈ new, Ordered member.2) →
      current.Sorted → (∀ member ∈ new, Entries.find? member.1 current
        = Entries.find? member.1 old) →
      ∃ updated : Entries Json, Patch.apply (diffMembers old new) (.obj current)
          = .ok (.obj updated) ∧ updated.Sorted ∧
        ∀ name, Entries.find? name updated
          = (Entries.find? name new).or (Entries.find? name current)
  | [], _, current, _, _, _, hcurrent, _ => ⟨current, rfl, hcurrent, fun _ => rfl⟩
  | (name, value) :: rest, old, current, hold, hsorted, hnew, hcurrent, hfound => by
    obtain ⟨hlt, hrest⟩ := List.pairwise_cons.1 hsorted
    have hne : ∀ member ∈ rest, member.1 ≠ name := fun member hmem heq =>
      String.lt_irrefl name (heq ▸ hlt member hmem)
    have hvalue : value.Ordered := hnew (name, value) List.mem_cons_self
    have hname := hfound (name, value) List.mem_cons_self
    -- Whether the name is new or not, its value is put in its place.
    have hfirst : Patch.apply (match Entries.find? name old with
        | some before => (diff before value).map (Operation.under name)
        | none => [.add [name] value]) (.obj current)
          = .ok (.obj (current.insert name value)) := by
      cases hbefore : Entries.find? name old with
      | some before =>
        have happly := apply_diff value before (ordered_find? hold hbefore) hvalue
        exact Patch.apply_under_obj (isLocal_diff before value) hcurrent (hname.trans hbefore) happly
      | none => rfl
    obtain ⟨updated, happly, hupdated, hfind⟩ := apply_diffMembers rest old
      (current.insert name value) hold hrest
      (fun member hmem => hnew member (List.mem_cons_of_mem _ hmem)) (hcurrent.insert name value)
      fun member hmem => by
        rw [Entries.find?_insert_of_ne (hne member hmem)]
        exact hfound member (List.mem_cons_of_mem _ hmem)
    refine ⟨updated, ?_, hupdated, fun other => ?_⟩
    · rw [diffMembers]
      exact Patch.apply_append_eq_ok_iff.2 ⟨_, hfirst, happly⟩
    · rw [hfind other, Entries.find?]
      by_cases ho : name = other
      · subst ho
        have hnone : Entries.find? name rest = none := Entries.find?_eq_none_of_lt hlt
        rw [if_pos rfl, hnone, Entries.find?_insert_self]
        rfl
      · rw [if_neg ho, Entries.find?_insert_of_ne (Ne.symm ho)]

/-- Behind items that are new already, the old items are replaced by the new ones. -/
theorem apply_diffItems : ∀ new old front : List Json, (∀ item ∈ old, item.Ordered) →
    (∀ item ∈ new, item.Ordered) →
      Patch.apply (diffItems front.length old new) (.arr (front ++ old)) = .ok (.arr (front ++ new))
  | [], old, front, _, _ => by
    rw [diffItems, apply_removedItems, List.append_nil]
  | item :: rest, [], front, _, _ => by
    rw [diffItems, List.append_nil]
    exact apply_addedItems (item :: rest) front
  | item :: rest, before :: old, front, hold, hnew => by
    have hitem := apply_diff item before (hold before List.mem_cons_self)
      (hnew item List.mem_cons_self)
    have hrest := apply_diffItems rest old (front ++ [item])
      (fun other hmem => hold other (List.mem_cons_of_mem _ hmem))
      (fun other hmem => hnew other (List.mem_cons_of_mem _ hmem))
    simp only [List.length_append, List.length_singleton, List.append_assoc,
      List.singleton_append] at hrest
    rw [diffItems]
    exact Patch.apply_append_eq_ok_iff.2
      ⟨_, Patch.apply_under_arr front old (isLocal_diff before item) hitem, hrest⟩

end

/-- The difference of objects with one member puts the new value in the place of the old one. -/
theorem apply_diff_single {name : String} {members : Entries Json} {old new : Json}
    (hsorted : members.Sorted) (hfind : Entries.find? name members = some old)
    (hold : old.Ordered) (hnew : new.Ordered) :
    Patch.apply (diff (.obj [(name, old)]) (.obj [(name, new)])) (.obj members)
      = .ok (.obj (members.insert name new)) := by
  rw [diff_single]
  exact Patch.apply_under_obj (isLocal_diff old new) hsorted hfind (apply_diff new old hold hnew)

end ClusterInfra.Json
