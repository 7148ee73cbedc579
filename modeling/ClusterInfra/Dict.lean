/-!
Dictionaries with text keys, kept in strictly increasing key order.

`Entries` are association lists; `insert` keeps them sorted, replacing an entry that has the key
already. A `Dict` is a sorted list of entries together with the proof, so two dictionaries that
hold the same entries are equal, and writing one out lists its keys in order.
-/

namespace ClusterInfra

/-- Entries of a dictionary or of a JSON object, as they stand. -/
abbrev Entries (α : Type) := List (String × α)

namespace Entries

variable {α β : Type}

/-- The value at a key: the first entry that has it. -/
def find? (key : String) : Entries α → Option α
  | [] => none
  | (k, v) :: rest => if k = key then some v else find? key rest

/-- Puts a value at a key, in key order, in place of the value that was there. -/
def insert (key : String) (value : α) : Entries α → Entries α
  | [] => [(key, value)]
  | (k, v) :: rest =>
    if key < k then (key, value) :: (k, v) :: rest
    else if k = key then (key, value) :: rest
    else (k, v) :: insert key value rest

/-- Takes every entry of a key out. -/
def erase (key : String) (entries : Entries α) : Entries α :=
  entries.filter fun entry => entry.1 ≠ key

/-- The entries in key order; of two entries with one key the later counts. -/
def sort (entries : Entries α) : Entries α :=
  entries.foldl (fun sorted entry => insert entry.1 entry.2 sorted) []

/-- Keys strictly increase. -/
def Sorted (entries : Entries α) : Prop :=
  entries.Pairwise fun a b => a.1 < b.1

instance (entries : Entries α) : Decidable (Sorted entries) :=
  inferInstanceAs (Decidable (entries.Pairwise _))

theorem mem_insert {key : String} {value : α} {entry : String × α} {entries : Entries α}
    (h : entry ∈ insert key value entries) : entry = (key, value) ∨ entry ∈ entries := by
  induction entries with
  | nil => simpa [insert] using h
  | cons head rest ih => grind [insert]

theorem sorted_nil : Sorted ([] : Entries α) := List.Pairwise.nil

theorem Sorted.insert {entries : Entries α} (h : Sorted entries) (key : String) (value : α) :
    Sorted (Entries.insert key value entries) := by
  induction entries with
  | nil => simp [Entries.insert, Sorted]
  | cons head rest ih =>
    obtain ⟨k, v⟩ := head
    obtain ⟨hk, hrest⟩ := List.pairwise_cons.1 h
    rw [Entries.insert]
    split
    next lt =>
      exact List.pairwise_cons.2 ⟨fun e he => (List.mem_cons.1 he).elim (fun h => h ▸ lt)
        (fun h => String.lt_trans lt (hk e h)), h⟩
    next notLt =>
      split
      next eq => exact List.pairwise_cons.2 ⟨fun e he => eq ▸ hk e he, hrest⟩
      next ne =>
        have gt : k < key := by
          rcases String.le_total k key with le | le
          · exact String.not_le.1 fun ge => ne (String.le_antisymm le ge)
          · exact absurd (String.le_antisymm (String.not_lt.1 notLt) le) ne
        exact List.pairwise_cons.2 ⟨fun e he => (mem_insert he).elim (fun h => h ▸ gt) (hk e ·),
          ih hrest⟩

theorem Sorted.erase {entries : Entries α} (h : Sorted entries) (key : String) :
    Sorted (Entries.erase key entries) :=
  h.filter _

theorem sorted_foldl_insert (entries sorted : Entries α) (h : Sorted sorted) :
    Sorted (entries.foldl (fun s e => Entries.insert e.1 e.2 s) sorted) := by
  induction entries generalizing sorted with
  | nil => exact h
  | cons head rest ih => exact ih _ (h.insert head.1 head.2)

theorem sorted_sort (entries : Entries α) : Sorted (sort entries) :=
  sorted_foldl_insert entries [] sorted_nil

theorem find?_insert_self (key : String) (value : α) (entries : Entries α) :
    find? key (insert key value entries) = some value := by
  induction entries with
  | nil => simp [insert, find?]
  | cons head rest ih => grind [insert, find?]

theorem find?_insert_of_ne {key other : String} (h : other ≠ key) (value : α)
    (entries : Entries α) : find? other (insert key value entries) = find? other entries := by
  induction entries with
  | nil => simp [insert, find?, h.symm]
  | cons head rest ih => grind [insert, find?]

/-- A key below all keys of the entries has no value. -/
theorem find?_eq_none_of_lt {key : String} : ∀ {entries : Entries α},
    (∀ entry ∈ entries, key < entry.1) → find? key entries = none
  | [], _ => rfl
  | (k, v) :: rest, h => by
    have hk : k ≠ key := fun hk => String.lt_irrefl key (hk ▸ h (k, v) List.mem_cons_self)
    rw [find?, if_neg hk]
    exact find?_eq_none_of_lt fun entry he => h entry (List.mem_cons_of_mem _ he)

end Entries

/-- A dictionary with text keys. -/
structure Dict (α : Type) where
  entries : Entries α
  sorted : entries.Sorted
  deriving DecidableEq

namespace Dict

variable {α : Type}

/-- The dictionary without entries. -/
def empty : Dict α := ⟨[], Entries.sorted_nil⟩

instance : Inhabited (Dict α) := ⟨empty⟩
instance : EmptyCollection (Dict α) := ⟨empty⟩

/-- Reads a list of entries, in any order; a later entry of a key replaces an earlier one. -/
def ofEntries (entries : Entries α) : Dict α := ⟨entries.sort, entries.sorted_sort⟩

/-- The value at a key. -/
def find? (dict : Dict α) (key : String) : Option α := dict.entries.find? key

/-- Whether a key has a value. -/
def contains (dict : Dict α) (key : String) : Bool := (dict.find? key).isSome

/-- Puts a value at a key, in place of the value that was there. -/
def insert (dict : Dict α) (key : String) (value : α) : Dict α :=
  ⟨dict.entries.insert key value, dict.sorted.insert key value⟩

/-- Whether there is no entry. -/
def isEmpty (dict : Dict α) : Bool := dict.entries.isEmpty

@[simp] theorem find?_insert_self (dict : Dict α) (key : String) (value : α) :
    (dict.insert key value).find? key = some value :=
  Entries.find?_insert_self ..

theorem find?_insert_of_ne (dict : Dict α) {key other : String} (h : other ≠ key) (value : α) :
    (dict.insert key value).find? other = dict.find? other :=
  Entries.find?_insert_of_ne h ..

end Dict

end ClusterInfra
