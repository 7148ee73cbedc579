import ClusterInfra.Json.Codec
/-!
Members of objects.

Look-up is by the first entry of a name, and where names strictly increase it is the same from the
end. The members that a record writes are in the order of its field names, so they can be looked up
field by field, and reading an optional field gives back the value that was written.
-/

namespace ClusterInfra.Entries

variable {α : Type}

theorem find?_append (key : String) : ∀ (front back : Entries α),
    find? key (front ++ back) = (find? key front).or (find? key back)
  | [], _ => by simp [find?]
  | (k, v) :: rest, back => by
    rw [List.cons_append, find?, find?]
    split
    · rfl
    · exact find?_append key rest back

theorem erase_cons (key k : String) (v : α) (rest : Entries α) :
    erase key ((k, v) :: rest) = if k = key then erase key rest else (k, v) :: erase key rest := by
  by_cases hk : k = key <;> simp [erase, hk]

theorem find?_erase_self (key : String) : ∀ entries : Entries α, find? key (erase key entries) = none
  | [] => rfl
  | (k, v) :: rest => by
    rw [erase_cons]
    split
    next => exact find?_erase_self key rest
    next hk =>
      rw [find?, if_neg hk]
      exact find?_erase_self key rest

theorem find?_erase_of_ne {key other : String} (h : other ≠ key) : ∀ entries : Entries α,
    find? other (erase key entries) = find? other entries
  | [] => rfl
  | (k, v) :: rest => by
    rw [erase_cons]
    split
    next hk =>
      rw [find?, if_neg (hk ▸ h.symm)]
      exact find?_erase_of_ne h rest
    next => rw [find?, find?, find?_erase_of_ne h rest]

/-- Where names strictly increase, it does not matter from which end a name is looked up. -/
theorem Sorted.find?_reverse {key : String} : ∀ {entries : Entries α}, entries.Sorted →
    find? key entries.reverse = find? key entries
  | [], _ => rfl
  | (k, v) :: rest, h => by
    obtain ⟨hlt, hrest⟩ := List.pairwise_cons.1 h
    rw [List.reverse_cons, find?_append, Sorted.find?_reverse hrest, find?]
    split
    next hk =>
      rw [find?_eq_none_of_lt (hk ▸ hlt)]
      simp [find?, hk]
    next hk => simp [find?, hk]

/-- Entries with increasing names are known by their look-ups. -/
theorem Sorted.ext : ∀ {a b : Entries α}, a.Sorted → b.Sorted →
    (∀ key, find? key a = find? key b) → a = b
  | [], [], _, _, _ => rfl
  | [], (k, v) :: rest, _, _, h => by simpa [find?] using h k
  | (k, v) :: rest, [], _, _, h => by simpa [find?] using h k
  | (k, v) :: rest, (k', v') :: rest', ha, hb, h => by
    obtain ⟨hlt, hrest⟩ := List.pairwise_cons.1 ha
    obtain ⟨hlt', hrest'⟩ := List.pairwise_cons.1 hb
    -- the smaller of the two first names would be found on its own side only
    have hkey : k = k' := by
      by_cases hk : k < k'
      · have hnone : find? k ((k', v') :: rest') = none := find?_eq_none_of_lt fun entry he =>
          (List.mem_cons.1 he).elim (fun he => he ▸ hk) fun he => String.lt_trans hk (hlt' entry he)
        have hk := h k
        rw [hnone] at hk
        simp [find?] at hk
      by_cases hk' : k' < k
      · have hnone : find? k' ((k, v) :: rest) = none := find?_eq_none_of_lt fun entry he =>
          (List.mem_cons.1 he).elim (fun he => he ▸ hk') fun he => String.lt_trans hk' (hlt entry he)
        have hk := h k'
        rw [hnone] at hk
        simp [find?] at hk
      · exact String.le_antisymm (String.not_lt.1 hk') (String.not_lt.1 hk)
    subst hkey
    have hvalue : v = v' := by simpa [find?] using h k
    subst hvalue
    congr 1
    refine Sorted.ext hrest hrest' fun key => ?_
    by_cases hk : k = key
    · subst hk
      rw [find?_eq_none_of_lt hlt, find?_eq_none_of_lt hlt']
    · simpa [find?, hk] using h key

theorem find?_eq_none_iff {key : String} : ∀ {entries : Entries α},
    find? key entries = none ↔ key ∉ entries.map (·.1)
  | [] => by simp [find?]
  | (k, v) :: rest => by
    by_cases hk : k = key
    · simp [find?, hk]
    · have hrest : find? key rest = none ↔ key ∉ rest.map (·.1) := find?_eq_none_iff
      simp [find?, hk, Ne.symm hk, hrest]

theorem mem_of_find? {key : String} {value : α} : ∀ {entries : Entries α},
    find? key entries = some value → (key, value) ∈ entries
  | (k, v) :: rest, h => by
    rw [find?] at h
    split at h
    next hk =>
      cases h
      rw [hk]
      exact List.mem_cons_self
    next => exact List.mem_cons_of_mem _ (mem_of_find? h)

/-- Where names strictly increase, every entry is found. -/
theorem Sorted.find?_of_mem {key : String} {value : α} : ∀ {entries : Entries α},
    entries.Sorted → (key, value) ∈ entries → find? key entries = some value
  | (k, v) :: rest, h, hmem => by
    obtain ⟨hlt, hrest⟩ := List.pairwise_cons.1 h
    rw [find?]
    rcases List.mem_cons.1 hmem with heq | hmem
    · cases heq
      rw [if_pos rfl]
    · have hne : k ≠ key := fun heq => String.lt_irrefl key (heq ▸ hlt (key, value) hmem)
      rw [if_neg hne]
      exact Sorted.find?_of_mem hrest hmem

/-- Putting a value where it is changes nothing. -/
theorem Sorted.insert_eq_self {key : String} {value : α} {entries : Entries α}
    (h : entries.Sorted) (hfind : find? key entries = some value) :
    Entries.insert key value entries = entries := by
  refine Sorted.ext (h.insert key value) h fun other => ?_
  by_cases ho : other = key
  · rw [ho, find?_insert_self, hfind]
  · rw [find?_insert_of_ne ho]

/-- Of two values put at one name the later counts. -/
theorem Sorted.insert_insert {entries : Entries α} (h : entries.Sorted) (key : String)
    (value value' : α) :
    Entries.insert key value' (Entries.insert key value entries)
      = Entries.insert key value' entries := by
  refine Sorted.ext ((h.insert key value).insert key value') (h.insert key value') fun other => ?_
  by_cases ho : other = key
  · rw [ho, find?_insert_self, find?_insert_self]
  · rw [find?_insert_of_ne ho, find?_insert_of_ne ho, find?_insert_of_ne ho]

theorem insert_eq_append {key : String} {value : α} : ∀ {entries : Entries α},
    (∀ entry ∈ entries, entry.1 < key) → Entries.insert key value entries = entries ++ [(key, value)]
  | [], _ => rfl
  | (k, v) :: rest, h => by
    have hk : k < key := h (k, v) List.mem_cons_self
    have hne : k ≠ key := fun heq => String.lt_irrefl key (heq ▸ hk)
    rw [Entries.insert, if_neg (fun hlt => String.lt_irrefl k (String.lt_trans hk hlt)), if_neg hne,
      insert_eq_append fun entry he => h entry (List.mem_cons_of_mem _ he), List.cons_append]

/-- Sorting entries into smaller ones appends them, if they are sorted already. -/
theorem foldl_insert_eq_append : ∀ (entries front : Entries α), Sorted (front ++ entries) →
    entries.foldl (fun sorted entry => Entries.insert entry.1 entry.2 sorted) front
      = front ++ entries
  | [], front, _ => (List.append_nil front).symm
  | (k, v) :: rest, front, h => by
    have hlast : ∀ entry ∈ front, entry.1 < k := fun entry he =>
      (List.pairwise_append.1 h).2.2 entry he (k, v) List.mem_cons_self
    rw [List.append_cons] at h ⊢
    rw [List.foldl_cons, insert_eq_append hlast]
    exact foldl_insert_eq_append rest _ h

/-- Entries whose names are some of an increasing list of names are sorted. -/
theorem sorted_of_sublist {entries : Entries α} {names : List String}
    (h : (entries.map (·.1)).Sublist names) (hnames : names.Pairwise (· < ·)) : entries.Sorted := by
  have := hnames.sublist h
  rwa [List.pairwise_map] at this

end ClusterInfra.Entries

namespace ClusterInfra.Codec

/-- Every value is read back from its document, and no document is `null`. -/
structure Lossless (α : Type) [Codec α] : Prop where
  decode?_encode : ∀ value : α, (decode? (encode value) : Option α) = some value
  encode_ne_null : ∀ value : α, encode value ≠ .null

theorem lossless_string : Lossless String := ⟨fun _ => rfl, fun _ => by simp [encode]⟩

theorem lossless_list {α : Type} [Codec α] (hα : Lossless α) : Lossless (List α) where
  decode?_encode values := by
    induction values with
    | nil => rfl
    | cons value rest ih =>
      simp only [encode, decode?] at ih
      simp [encode, decode?, hα.decode?_encode, ih]
  encode_ne_null _ := by simp [encode]

end ClusterInfra.Codec

namespace ClusterInfra.Record

variable {α : Type} [Codec α]

@[simp] theorem find?_member (key name : String) (value : α) :
    Entries.find? key (member name value) = if name = key then some (Codec.encode value) else none :=
  rfl

@[simp] theorem find?_memberIfSome (key name : String) (value : Option α) :
    Entries.find? key (memberIfSome name value)
      = if name = key then value.map Codec.encode else none := by
  cases value with
  | none => simp [memberIfSome, Entries.find?]
  | some value => simp [memberIfSome]

@[simp] theorem find?_memberUnless (key name : String) (skip : Bool) (value : α) :
    Entries.find? key (memberUnless skip name value)
      = if name = key then (if skip then none else some (Codec.encode value)) else none := by
  cases skip <;> simp [memberUnless, Entries.find?]

theorem names_member (name : String) (value : α) :
    ((member name value).map (·.1)).Sublist [name] :=
  List.Sublist.refl _

/-- Names of members that stand one after the other. -/
theorem names_append {front back : List (String × Json)} {names names' : List String}
    (h : (front.map (·.1)).Sublist names) (h' : (back.map (·.1)).Sublist names') :
    ((front ++ back).map (·.1)).Sublist (names ++ names') := by
  rw [List.map_append]
  exact h.append h'

/-- An optional field reads back as the value that was written. -/
theorem optional_of_find? (hα : Codec.Lossless α) {fields : Fields} {name : String}
    {value : Option α} (hfind : fields name = value.map Codec.encode) :
    optional fields name = some value := by
  cases value with
  | none => simp [optional, hfind]
  | some v =>
    rw [optional, hfind, Option.map_some]
    split
    next h => cases h
    next h => exact absurd (Option.some.inj h) (hα.encode_ne_null v)
    next document _ h =>
      cases h
      rw [hα.decode?_encode, Option.map_some]

end ClusterInfra.Record
