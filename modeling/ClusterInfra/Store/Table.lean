/-!
Finite tables: a value at some keys and none at the others.

A table is its look-up function, so two tables with the same values at every key are equal.
-/

namespace ClusterInfra

/-- Values by key. -/
structure Table (κ α : Type) where
  get? : κ → Option α

namespace Table

variable {κ α : Type} [DecidableEq κ]

/-- The table without values. -/
def empty : Table κ α := ⟨fun _ => none⟩

instance : Inhabited (Table κ α) := ⟨empty⟩

/-- Puts a value at a key, in place of the value that was there. -/
def insert (table : Table κ α) (key : κ) (value : α) : Table κ α :=
  ⟨fun k => if k = key then some value else table.get? k⟩

/-- Takes the value at a key out. -/
def erase (table : Table κ α) (key : κ) : Table κ α :=
  ⟨fun k => if k = key then none else table.get? k⟩

omit [DecidableEq κ] in
theorem ext {a b : Table κ α} (h : ∀ key, a.get? key = b.get? key) : a = b := by
  cases a
  cases b
  exact congrArg mk (funext h)

@[simp] theorem get?_insert_self (table : Table κ α) (key : κ) (value : α) :
    (table.insert key value).get? key = some value := by
  simp [insert]

theorem get?_insert_of_ne (table : Table κ α) {key other : κ} (h : other ≠ key) (value : α) :
    (table.insert key value).get? other = table.get? other := by
  simp [insert, h]

@[simp] theorem get?_erase_self (table : Table κ α) (key : κ) :
    (table.erase key).get? key = none := by
  simp [erase]

theorem get?_erase_of_ne (table : Table κ α) {key other : κ} (h : other ≠ key) :
    (table.erase key).get? other = table.get? other := by
  simp [erase, h]

end Table

end ClusterInfra
