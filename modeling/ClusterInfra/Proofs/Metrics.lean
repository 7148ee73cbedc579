import ClusterInfra.Metrics.Basic
import Mathlib.Algebra.Ring.Nat
/-!
Sums of what is counted.

Counting a label adds one to the sum of all counts, whether it was counted before or not: the count
that is put in takes the place of the one that was there.
-/

namespace ClusterInfra

namespace Entries

/-- The sum of the values. -/
def total (entries : Entries Nat) : Nat := (entries.map (·.2)).sum

/-- A value that is put in takes the place of the one that was there. -/
theorem total_insert {entries : Entries Nat} (h : entries.Sorted) (key : String) (n : Nat) :
    (Entries.insert key n entries).total + (entries.find? key).getD 0 = entries.total + n := by
  induction entries with
  | nil => simp [Entries.insert, Entries.find?, total]
  | cons head rest ih =>
    obtain ⟨k, v⟩ := head
    obtain ⟨hk, hrest⟩ := List.pairwise_cons.1 h
    have hih := ih hrest
    simp only [total, List.map_cons, List.sum_cons] at hih ⊢
    rw [Entries.insert, Entries.find?]
    split
    next hlt =>
      have hnone : Entries.find? key rest = none := find?_eq_none_of_lt fun entry hmem =>
        String.lt_trans hlt (hk entry hmem)
      have hne : k ≠ key := fun heq => String.lt_irrefl key (heq ▸ hlt)
      simp [hne, hnone]
      omega
    next =>
      split
      next => simp; omega
      next => simp only [List.map_cons, List.sum_cons]; omega

end Entries

namespace Tally

/-- The sum of the counts. -/
def total (tally : Tally) : Nat := tally.entries.total

theorem total_bump (tally : Tally) (label : String) :
    (tally.bump label).total = tally.total + 1 := by
  have hinsert := Entries.total_insert tally.sorted label (tally.count label + 1)
  have hcount : (tally.entries.find? label).getD 0 = tally.count label := rfl
  rw [hcount, ← Nat.add_assoc, Nat.add_right_comm] at hinsert
  exact Nat.add_right_cancel hinsert

end Tally

/-- How many failed deletions have been counted. -/
def Metrics.deletionFailures (metrics : Metrics) : Nat :=
  (Subsystem.deletionOrder.map (metrics.failureCount · "delete")).sum

end ClusterInfra
