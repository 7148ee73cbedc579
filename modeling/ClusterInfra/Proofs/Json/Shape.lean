import ClusterInfra.Proofs.Json.Rebuild
/-!
Shapes of documents.

A shape says what may stand where in a document: values without parts, lists of items that are all
of one shape, and objects with a shape for the value at each name, some of which may not be missing.
Differences respect shapes. Take any two documents of a shape: every operation of their difference
keeps every document in this shape, however little it has in common with the two, for what the
operation writes belongs where it is written, and what it takes out may be missing. And it leaves
alone every member on which the two documents agree.
-/

namespace ClusterInfra.Json

/-- A document without parts. -/
def IsLeaf : Json → Prop
  | .arr _ | .obj _ => False
  | _ => True

/-- What a document may look like. -/
inductive Shape
  /-- One of some values, none of which has parts. -/
  | leaf (values : Json → Prop)
  /-- A list of items of one shape. -/
  | list (item : Shape)
  /-- An object with a shape for the value at each name; the required names may not be missing. -/
  | object (required : List String) (part : String → Shape)

namespace Shape

/-- The document has the shape. -/
inductive Fits : Shape → Json → Prop
  | leaf {values : Json → Prop} {document : Json} (h : values document)
      (hleaf : document.IsLeaf) : Fits (.leaf values) document
  | list {item : Shape} {items : List Json} (h : ∀ value ∈ items, Fits item value) :
      Fits (.list item) (.arr items)
  | object {required : List String} {part : String → Shape} {members : Entries Json}
      (sorted : members.Sorted) (parts : ∀ member ∈ members, Fits (part member.1) member.2)
      (complete : ∀ name ∈ required, (Entries.find? name members).isSome) :
      Fits (.object required part) (.obj members)

/-- The shape of the parts that a token selects. -/
def part? (token : String) : Shape → Option Shape
  | leaf _ => none
  | list item => some item
  | object _ part => some (part token)

end Shape

/-! ### What a difference is made of -/

/-- An operation of the difference of two objects. -/
inductive MemberStep (old new : Entries Json) : Operation → Prop
  | changed {name : String} {before value : Json} {inner : Operation}
      (hold : Entries.find? name old = some before) (hnew : (name, value) ∈ new)
      (hmem : inner ∈ diff before value) : MemberStep old new (inner.under name)
  | added {name : String} {value : Json} (hold : Entries.find? name old = none)
      (hnew : (name, value) ∈ new) : MemberStep old new (.add [name] value)
  | removed {name : String} {before : Json} (hold : (name, before) ∈ old)
      (hnew : Entries.find? name new = none) : MemberStep old new (.remove [name])

/-- An operation of the difference of two lists. -/
inductive ItemStep (old new : List Json) : Operation → Prop
  | changed (token : String) {before item : Json} {inner : Operation} (hold : before ∈ old)
      (hnew : item ∈ new) (hmem : inner ∈ diff before item) : ItemStep old new (inner.under token)
  | added (token : String) {item : Json} (hnew : item ∈ new) :
      ItemStep old new (.add [token] item)
  | removed (token : String) : ItemStep old new (.remove [token])

theorem memberStep_of_mem_diffMembers {old new : Entries Json} {operation : Operation} :
    ∀ {rest : Entries Json}, (∀ member ∈ rest, member ∈ new) →
      operation ∈ diffMembers old rest → MemberStep old new operation
  | [], _, h => nomatch h
  | (name, value) :: rest, hrest, h => by
    obtain ⟨hnew, hrest⟩ := List.forall_mem_cons.1 hrest
    rw [diffMembers] at h
    rcases List.mem_append.1 h with h | h
    · split at h
      next before hold =>
        obtain ⟨inner, hmem, rfl⟩ := List.mem_map.1 h
        exact .changed hold hnew hmem
      next hold =>
        cases List.mem_singleton.1 h
        exact .added hold hnew
    · exact memberStep_of_mem_diffMembers hrest h

theorem memberStep_of_mem_diff {old new : Entries Json} {operation : Operation}
    (h : operation ∈ diff (.obj old) (.obj new)) : MemberStep old new operation := by
  rw [diff] at h
  rcases List.mem_append.1 h with h | h
  · exact memberStep_of_mem_diffMembers (fun _ hmem => hmem) h
  · obtain ⟨⟨name, before⟩, hmem, rfl⟩ := List.mem_map.1 h
    obtain ⟨hold, hnew⟩ := List.mem_filter.1 hmem
    exact .removed hold (Option.isNone_iff_eq_none.1 hnew)

/-- No such operation works on `null`. -/
theorem MemberStep.apply_null_ne_ok {old new : Entries Json} {operation : Operation}
    (h : MemberStep old new operation) (document : Json) : operation.apply .null ≠ .ok document := by
  intro happly
  cases h with
  | changed _ _ hmem =>
    obtain ⟨part, part', hchild, -⟩ :=
      Operation.part_of_apply_under (isLocal_diff _ _ _ hmem) happly
    cases hchild
  | added => cases happly
  | removed => cases happly

theorem itemStep_of_mem_addedItems {old new : List Json} {operation : Operation} :
    ∀ {index : Nat} {rest : List Json}, (∀ item ∈ rest, item ∈ new) →
      operation ∈ addedItems index rest → ItemStep old new operation
  | _, [], _, h => nomatch h
  | index, item :: rest, hrest, h => by
    obtain ⟨hnew, hrest⟩ := List.forall_mem_cons.1 hrest
    rcases List.mem_cons.1 h with rfl | h
    · exact .added _ hnew
    · exact itemStep_of_mem_addedItems hrest h

theorem itemStep_of_mem_diffItems {old new : List Json} {operation : Operation} :
    ∀ {index : Nat} {before rest : List Json}, (∀ item ∈ before, item ∈ old) →
      (∀ item ∈ rest, item ∈ new) → operation ∈ diffItems index before rest →
      ItemStep old new operation
  | index, before, [], _, _, h => by
    rw [diffItems] at h
    obtain ⟨_, -, rfl⟩ := List.mem_map.1 h
    exact .removed _
  | index, [], item :: rest, _, hrest, h => by
    rw [diffItems] at h
    exact itemStep_of_mem_addedItems hrest h
  | index, first :: before, item :: rest, hbefore, hrest, h => by
    obtain ⟨hold, hbefore⟩ := List.forall_mem_cons.1 hbefore
    obtain ⟨hnew, hrest⟩ := List.forall_mem_cons.1 hrest
    rw [diffItems] at h
    rcases List.mem_append.1 h with h | h
    · obtain ⟨inner, hmem, rfl⟩ := List.mem_map.1 h
      exact .changed _ hold hnew hmem
    · exact itemStep_of_mem_diffItems hbefore hrest h

theorem itemStep_of_mem_diff {old new : List Json} {operation : Operation}
    (h : operation ∈ diff (.arr old) (.arr new)) : ItemStep old new operation := by
  rw [diff] at h
  exact itemStep_of_mem_diffItems (fun _ hmem => hmem) (fun _ hmem => hmem) h

theorem diff_of_isLeaf (old : Json) {new : Json} (h : new.IsLeaf) :
    diff old new = if old = new then [] else [.replace [] new] := by
  cases new with
  | arr => exact h.elim
  | obj => exact h.elim
  | _ => rw [diff] <;> simp

/-- What becomes `null` is replaced as a whole. -/
theorem diff_null (old : Json) : diff old .null = if old = .null then [] else [.replace [] .null] :=
  have hleaf : Json.null.IsLeaf := trivial
  diff_of_isLeaf old hleaf

/-! ### Paths through members -/

/-- The path is made of names of members, and its parent is an object of the document. -/
def IsMemberPath : Pointer → Json → Prop
  | [], _ => False
  | name :: rest, document => ∃ members, document = .obj members ∧
      (rest = [] ∨ ∃ part, Entries.find? name members = some part ∧ IsMemberPath rest part)

section AgreeOn

variable {name token : String} {rest tokens : Pointer} {olds news members : Entries Json}
  {before value document' : Json} {operation : Operation}

/-- The members of two objects agree on a path that goes through the one called `name`: they hold
the same there, or each holds a part, and the parts hold the same on the rest of the path. -/
def AgreeOn (name : String) (rest : Pointer) (olds news : Entries Json) : Prop :=
  Entries.find? name olds = Entries.find? name news ∨
    ∃ before value, Entries.find? name olds = some before ∧ Entries.find? name news = some value ∧
      IsMemberPath rest before ∧ IsMemberPath rest value ∧ get? rest before = get? rest value

theorem agreeOn_of_isMemberPath (hold : IsMemberPath (name :: rest) (.obj olds))
    (hnew : IsMemberPath (name :: rest) (.obj news))
    (hsame : get? (name :: rest) (.obj olds) = get? (name :: rest) (.obj news)) :
    AgreeOn name rest olds news := by
  obtain ⟨_, holds, hold⟩ := hold
  obtain ⟨_, hnews, hnew⟩ := hnew
  cases holds
  cases hnews
  simp only [get?, child?] at hsame
  rcases hold with rfl | ⟨before, hbefore, hpathOld⟩
  · left
    cases hbefore : Entries.find? name olds <;> cases hvalue : Entries.find? name news <;>
      simp_all [get?]
  · rcases hnew with rfl | ⟨value, hvalue, hpathNew⟩
    · exact hpathOld.elim
    · rw [hbefore, hvalue] at hsame
      exact .inr ⟨before, value, hbefore, hvalue, hpathOld, hpathNew, hsame⟩

/-- An operation on the difference of two parts leaves what the objects agree on alone, if it does
so within the part that it is applied to. -/
theorem AgreeOn.get?_eq (h : AgreeOn name rest olds news)
    (hbefore : Entries.find? name olds = some before)
    (hvalue : Entries.find? name news = some value) (hself : diff before before = [])
    (hmem : operation ∈ diff before value)
    (happly : (operation.under name).apply (.obj members) = .ok document')
    (hrest : IsMemberPath rest before → IsMemberPath rest value →
      get? rest before = get? rest value → ∀ part part', Entries.find? name members = some part →
        operation.apply part = .ok part' → get? rest part' = get? rest part) :
    get? (name :: rest) document' = get? (name :: rest) (.obj members) := by
  rcases h with heq | ⟨_, _, hbefore', hvalue', hpathOld, hpathNew, hsame⟩
  · cases hbefore.symm.trans (heq.trans hvalue)
    rw [hself] at hmem
    cases hmem
  · cases hbefore.symm.trans hbefore'
    cases hvalue.symm.trans hvalue'
    obtain ⟨part, part', after, hfind, hpart, rfl, hfind', -⟩ :=
      Operation.apply_under_obj (isLocal_diff _ _ _ hmem) happly
    rw [get?, get?, child?, child?, hfind, hfind']
    exact hrest hpathOld hpathNew hsame part part' hfind hpart

/-- Where an object gains or loses a member, the two do not agree on a path through it. -/
theorem not_agreeOn
    (h : (Entries.find? name olds).isSome ≠ (Entries.find? name news).isSome) :
    ¬AgreeOn name rest olds news := by
  rintro (heq | ⟨_, _, hbefore, hvalue, -⟩)
  · exact h (by rw [heq])
  · exact h (by rw [hbefore, hvalue]; rfl)

/-- A change of another member leaves the path alone. -/
theorem SameBut.get?_eq {after : Entries Json} (h : SameBut token members after)
    (hne : name ≠ token) : get? (name :: rest) (.obj after) = get? (name :: rest) (.obj members) := by
  rw [get?, get?, child?, child?, h.find? name hne]

theorem get?_eq_of_path (hpath : operation.path = token :: tokens)
    (hne : name ≠ token) (happly : operation.apply (.obj members) = .ok document') :
    get? (name :: rest) document' = get? (name :: rest) (.obj members) := by
  obtain ⟨after, rfl, hafter⟩ := Operation.apply_obj hpath happly
  exact hafter.get?_eq hne

end AgreeOn

namespace Shape

variable {shape inner item : Shape} {required : List String} {part : String → Shape}
  {token name : String} {members : Entries Json} {value document document' : Json}
  {operation : Operation} {patch : Patch}

/-! ### Documents that stay in their shape -/

theorem Fits.eq_object (h : shape.Fits (.obj members)) :
    ∃ required part, shape = .object required part := by
  cases h with
  | leaf _ hleaf => exact hleaf.elim
  | object => exact ⟨_, _, rfl⟩

theorem Fits.eq_obj (h : (Shape.object required part).Fits document) :
    ∃ members : Entries Json, document = .obj members := by
  cases h
  exact ⟨_, rfl⟩

theorem Fits.child (h : shape.Fits document) (hinner : shape.part? token = some inner)
    (hchild : child? token document = some value) : inner.Fits value := by
  cases h with
  | leaf => cases hinner
  | list h =>
    cases hinner
    obtain ⟨index, -, hget⟩ := Option.bind_eq_some_iff.1 hchild
    exact h value (List.mem_of_getElem? hget)
  | object _ hparts =>
    cases hinner
    exact hparts (token, value) (Entries.mem_of_find? hchild)

/-- A member of the right shape may be put in. -/
theorem Fits.insert (h : (Shape.object required part).Fits (.obj members))
    (hvalue : (part name).Fits value) :
    (Shape.object required part).Fits (.obj (members.insert name value)) := by
  cases h with
  | object hsorted hparts hcomplete =>
    refine .object (hsorted.insert name value) (fun member hmem => ?_) fun other hother => ?_
    · rcases Entries.mem_insert hmem with rfl | hmem
      · exact hvalue
      · exact hparts member hmem
    · by_cases ho : other = name
      · rw [ho, Entries.find?_insert_self]
        rfl
      · rw [Entries.find?_insert_of_ne ho]
        exact hcomplete other hother

/-- A member that is not required may be taken out. -/
theorem Fits.erase (h : (Shape.object required part).Fits (.obj members))
    (hname : name ∉ required) :
    (Shape.object required part).Fits (.obj (members.erase name)) := by
  cases h with
  | object hsorted hparts hcomplete =>
    refine .object (hsorted.erase name) (fun member hmem => ?_) fun other hother => ?_
    · exact hparts member (List.mem_filter.1 hmem).1
    · have hne : other ≠ name := fun heq => hname (heq ▸ hother)
      rw [Entries.find?_erase_of_ne hne]
      exact hcomplete other hother

/-- A part of the right shape may be put in the place of another one. -/
theorem Fits.setChild (h : shape.Fits document) (hinner : shape.part? token = some inner)
    (hvalue : inner.Fits value) (hset : setChild? token value document = some document') :
    shape.Fits document' := by
  cases shape with
  | leaf => cases hinner
  | list item =>
    cases hinner
    cases h with
    | list h =>
      simp only [setChild?, Option.bind_eq_some_iff] at hset
      obtain ⟨index, -, hset⟩ := hset
      split at hset
      · cases hset
        refine .list fun other hmem => ?_
        rcases List.mem_or_eq_of_mem_set hmem with hmem | rfl
        · exact h other hmem
        · exact hvalue
      · cases hset
  | object required part =>
    cases hinner
    obtain ⟨members, rfl⟩ := h.eq_obj
    simp only [setChild?] at hset
    split at hset
    · cases hset
      exact h.insert hvalue
    · cases hset

/-- The operation leaves every document of the shape in it. -/
def Keeps (shape : Shape) (operation : Operation) : Prop :=
  ∀ document document' : Json, shape.Fits document → operation.apply document = .ok document' →
    shape.Fits document'

theorem keeps_replace (h : shape.Fits value) : shape.Keeps (.replace [] value) :=
  fun document document' _ happly => by
    rw [Operation.apply, Operation.elim_eq_ok_iff, replace?] at happly
    cases happly
    exact h

theorem Keeps.under (h : inner.Keeps operation) (hlocal : operation.IsLocal)
    (hinner : shape.part? token = some inner) : shape.Keeps (operation.under token) := by
  intro document document' hfits happly
  obtain ⟨value, value', hchild, happly, hset⟩ := Operation.part_of_apply_under hlocal happly
  rcases hset with hset | ⟨-, rfl⟩
  · exact hfits.setChild hinner (h _ _ (hfits.child hinner hchild) happly) hset
  · exact hfits

theorem keeps_add_member (h : (part name).Fits value) :
    (object required part).Keeps (.add [name] value) := by
  intro document document' hfits happly
  cases hfits with
  | object hsorted hparts hcomplete =>
    rw [Operation.apply, Operation.elim_eq_ok_iff, add?, addChild?] at happly
    cases happly
    exact Fits.insert (.object hsorted hparts hcomplete) h

theorem keeps_remove_member (h : name ∉ required) :
    (object required part).Keeps (.remove [name]) := by
  intro document document' hfits happly
  cases hfits with
  | object hsorted hparts hcomplete =>
    have hremove := Operation.elim_eq_ok_iff.1 happly
    simp only [remove?, removeChild?] at hremove
    split at hremove
    · cases hremove
      exact Fits.erase (.object hsorted hparts hcomplete) h
    · cases hremove

theorem keeps_add_item (token : String) (h : item.Fits value) :
    (list item).Keeps (.add [token] value) := by
  intro document document' hfits happly
  cases hfits with
  | @list _ items hitems =>
    have hadd := Operation.elim_eq_ok_iff.1 happly
    simp only [add?, addChild?] at hadd
    split at hadd
    · cases hadd
      refine .list fun other hmem => ?_
      rcases List.mem_append.1 hmem with hmem | hmem
      · exact hitems other hmem
      · cases List.mem_singleton.1 hmem
        exact h
    · obtain ⟨index, -, hadd⟩ := Option.bind_eq_some_iff.1 hadd
      split at hadd
      · cases hadd
        refine .list fun other hmem => ?_
        rcases List.mem_append.1 hmem with hmem | hmem
        · exact hitems other (List.mem_of_mem_take hmem)
        · rcases List.mem_cons.1 hmem with rfl | hmem
          · exact h
          · exact hitems other (List.mem_of_mem_drop hmem)
      · cases hadd

theorem keeps_remove_item (token : String) : (list item).Keeps (.remove [token]) := by
  intro document document' hfits happly
  cases hfits with
  | @list _ items hitems =>
    have hremove := Operation.elim_eq_ok_iff.1 happly
    simp only [remove?, removeChild?] at hremove
    obtain ⟨index, -, hremove⟩ := Option.bind_eq_some_iff.1 hremove
    split at hremove
    · cases hremove
      exact .list fun other hmem => hitems other (List.mem_of_mem_eraseIdx hmem)
    · cases hremove

/-- The operations of a difference of two documents of a shape keep every document in it. -/
theorem keeps_of_mem_diff {old new : Json} (hold : shape.Fits old) (hnew : shape.Fits new)
    (hmem : operation ∈ diff old new) : shape.Keeps operation := by
  induction shape generalizing old new operation with
  | leaf values =>
    cases hnew with
    | leaf h hleaf =>
      rw [diff_of_isLeaf old hleaf] at hmem
      split at hmem
      · cases hmem
      · cases List.mem_singleton.1 hmem
        exact keeps_replace (.leaf h hleaf)
  | list item ih =>
    cases hold with
    | list hold =>
      cases hnew with
      | list hnew =>
        cases itemStep_of_mem_diff hmem with
        | @changed token before after inner hbefore hafter hinner =>
          exact (ih (hold before hbefore) (hnew after hafter) hinner).under
            (isLocal_diff before after inner hinner) rfl
        | @added token after hafter => exact keeps_add_item token (hnew after hafter)
        | removed token => exact keeps_remove_item token
  | object required part ih =>
    cases hold with
    | object _ hold =>
      cases hnew with
      | object _ hnew hcomplete =>
        cases memberStep_of_mem_diff hmem with
        | @changed name before after inner hbefore hafter hinner =>
          exact (ih name (hold _ (Entries.mem_of_find? hbefore)) (hnew _ hafter) hinner).under
            (isLocal_diff before after inner hinner) rfl
        | added _ hafter => exact keeps_add_member (hnew _ hafter)
        | @removed name _ _ hgone =>
          refine keeps_remove_member fun hname => ?_
          have hfound := hcomplete name hname
          rw [hgone] at hfound
          cases hfound

/-! ### Members on which two documents agree -/

/-- Between equal documents there is no difference. -/
theorem diff_self (h : shape.Fits document) : diff document document = [] := by
  induction shape generalizing document with
  | leaf =>
    cases h with
    | leaf _ hleaf => rw [diff_of_isLeaf document hleaf, if_pos rfl]
  | list item ih =>
    cases h with
    | @list _ items h =>
      have hitems : ∀ (rest : List Json) (index : Nat), (∀ value ∈ rest, item.Fits value) →
          diffItems index rest rest = [] := by
        intro rest
        induction rest with
        | nil => intro index _; rfl
        | cons value rest ihr =>
          intro index hrest
          obtain ⟨hvalue, hrest⟩ := List.forall_mem_cons.1 hrest
          rw [diffItems, ih hvalue, ihr _ hrest]
          rfl
      rw [diff]
      exact hitems items 0 h
  | object required part ih =>
    cases h with
    | @object _ _ members hsorted hparts =>
      refine List.eq_nil_iff_forall_not_mem.2 fun operation hmem => ?_
      cases memberStep_of_mem_diff hmem with
      | @changed name before value inner hbefore hvalue hinner =>
        cases hbefore.symm.trans (hsorted.find?_of_mem hvalue)
        rw [ih name (hparts _ hvalue)] at hinner
        cases hinner
      | added hnone hvalue => cases hnone.symm.trans (hsorted.find?_of_mem hvalue)
      | removed hvalue hnone => cases hnone.symm.trans (hsorted.find?_of_mem hvalue)

/-- Where two documents of a shape agree on a member, or both have none, an operation of their
difference leaves that member of any document of the shape as it is. -/
theorem get?_eq_of_mem_diff {path : Pointer} {old new : Json} (hold : shape.Fits old)
    (hnew : shape.Fits new) (hfits : shape.Fits document) (hpathOld : IsMemberPath path old)
    (hpathNew : IsMemberPath path new) (hsame : get? path old = get? path new)
    (hmem : operation ∈ diff old new) (happly : operation.apply document = .ok document') :
    get? path document' = get? path document := by
  induction path generalizing shape old new document document' operation with
  | nil => exact hpathOld.elim
  | cons name rest ih =>
    obtain ⟨olds, rfl, -⟩ := id hpathOld
    obtain ⟨news, rfl, -⟩ := id hpathNew
    have hagree := agreeOn_of_isMemberPath hpathOld hpathNew hsame
    obtain ⟨required, part, rfl⟩ := hold.eq_object
    obtain ⟨members, rfl⟩ := hfits.eq_obj
    cases hold with
    | object hsortedOld hold =>
    cases hnew with
    | object hsorted hnew =>
    cases hfits with
    | object _ hparts =>
    cases memberStep_of_mem_diff hmem with
    | @changed token before value inner hbefore hvalue hinner =>
      by_cases hname : name = token
      · subst hname
        have hfitsOld := hold _ (Entries.mem_of_find? hbefore)
        refine hagree.get?_eq hbefore (hsorted.find?_of_mem hvalue) (diff_self hfitsOld) hinner
          happly fun hrestOld hrestNew hrest found found' hfind hfound => ?_
        have hfitsNew := hnew _ hvalue
        exact ih hfitsOld hfitsNew (hparts _ (Entries.mem_of_find? hfind)) hrestOld hrestNew hrest
          hinner hfound
      · exact get?_eq_of_path (Operation.path_under token inner) hname happly
    | @added token value hnone hvalue =>
      refine get?_eq_of_path rfl (fun hname => ?_) happly
      subst hname
      refine not_agreeOn ?_ hagree
      simp [hnone, hsorted.find?_of_mem hvalue]
    | @removed token before hbefore hnone =>
      refine get?_eq_of_path rfl (fun hname => ?_) happly
      subst hname
      refine not_agreeOn ?_ hagree
      simp [hnone, hsortedOld.find?_of_mem hbefore]

end Shape

end ClusterInfra.Json
