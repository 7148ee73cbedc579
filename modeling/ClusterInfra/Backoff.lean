/-!
Delays between attempts that fail.

The delays grow along the Fibonacci sequence: the first two are the least delay, each later one is
the sum of the two before it, and none exceeds the greatest delay. Delays are whole seconds in
64-bit words, and their sums are checked: a sequence ends where a sum is no word.
-/

namespace ClusterInfra

/-- A span of time: whole seconds in a word, and a fraction of a second. -/
structure Duration where
  seconds : UInt64
  nanoseconds : Nat := 0
  fraction : nanoseconds < 1000000000 := by decide
  deriving DecidableEq, Repr

/-- The span of so many milliseconds. -/
def Duration.ofMillis (milliseconds : Nat) : Duration where
  seconds := UInt64.ofNat (milliseconds / 1000)
  nanoseconds := milliseconds % 1000 * 1000000
  fraction := by omega

/-- The state of a sequence of delays, in seconds. -/
structure Backoff where
  least : UInt64
  greatest : UInt64
  previous : UInt64
  current : UInt64
  deriving DecidableEq, Repr, Inhabited

namespace Backoff

/-- A sequence between two delays in whole seconds; the least one is at least a second, and the
greatest one at least the least one. -/
def between (least greatest : UInt64) : Backoff :=
  let low := max least 1
  { least := low, greatest := max greatest low, previous := 0, current := low }

/-- A sequence between two spans of time, of which fractions of a second are dropped. -/
def ofDurations (least greatest : Duration) : Backoff := between least.seconds greatest.seconds

/-- A sequence between two delays in milliseconds. -/
def ofMillis (least greatest : Nat) : Backoff := ofDurations (.ofMillis least) (.ofMillis greatest)

/-- The sum of two words, if it is a word. -/
def sum? (a b : UInt64) : Option UInt64 :=
  if a.toNat + b.toNat < UInt64.size then some (a + b) else none

/-- The current delay, and the sequence after it. The last two delays are added before the sum is
cut off; if the sum is no word, there is neither. -/
def next? (backoff : Backoff) : Option (UInt64 × Backoff) := do
  let sum ← sum? backoff.previous backoff.current
  return (backoff.current,
    { backoff with previous := backoff.current, current := min sum backoff.greatest })

/-- Starts the sequence anew. -/
def reset (backoff : Backoff) : Backoff :=
  { backoff with previous := 0, current := backoff.least }

theorem sum?_eq_some_iff {a b sum : UInt64} :
    sum? a b = some sum ↔ sum.toNat = a.toNat + b.toNat := by
  rw [sum?]
  split
  next hword =>
    have hsum : (a + b).toNat = a.toNat + b.toNat := by
      rw [UInt64.toNat_add, Nat.mod_eq_of_lt hword]
    rw [Option.some.injEq, ← UInt64.toNat_inj, hsum, eq_comm]
  next hlarge =>
    refine iff_of_false nofun fun hsum => hlarge ?_
    rw [← hsum]
    exact sum.toNat_lt

/-- A step of a sequence, as long as there is one. -/
theorem next?_eq_some_iff {backoff next : Backoff} {delay : UInt64} :
    backoff.next? = some (delay, next) ↔ delay = backoff.current ∧
      ∃ sum : UInt64, sum.toNat = backoff.previous.toNat + backoff.current.toNat ∧
        next = { backoff with previous := backoff.current, current := min sum backoff.greatest } := by
  simp only [next?, Option.bind_eq_bind, Option.bind_eq_some_iff, sum?_eq_some_iff, Option.pure_def,
    Option.some.injEq, Prod.mk.injEq]
  constructor
  · rintro ⟨sum, hsum, rfl, rfl⟩
    exact ⟨rfl, sum, hsum, rfl⟩
  · rintro ⟨rfl, sum, hsum, rfl⟩
    exact ⟨sum, hsum, rfl, rfl⟩

theorem next?_eq_none_iff {backoff : Backoff} :
    backoff.next? = none ↔ UInt64.size ≤ backoff.previous.toNat + backoff.current.toNat := by
  rw [next?, sum?, ← Nat.not_lt, Option.bind_eq_bind]
  split
  next hword => exact iff_of_false nofun (not_not_intro hword)
  next hlarge => exact iff_of_true rfl hlarge

end Backoff

/-- A sequence of delays that are so short that two of them always add up to a word. -/
structure Pace where
  backoff : Backoff
  previous_le : backoff.previous ≤ backoff.greatest
  current_le : backoff.current ≤ backoff.greatest
  short : 2 * backoff.greatest.toNat < UInt64.size

namespace Pace

theorem isSome_next? (pace : Pace) : pace.backoff.next?.isSome := by
  rw [Option.isSome_iff_ne_none, Ne, Backoff.next?_eq_none_iff]
  have hprevious := UInt64.le_iff_toNat_le.1 pace.previous_le
  have hcurrent := UInt64.le_iff_toNat_le.1 pace.current_le
  have hshort := pace.short
  omega

/-- The steps of a sequence keep its delays short. -/
theorem bounds_next? (pace : Pace) {delay : UInt64} {next : Backoff}
    (h : pace.backoff.next? = some (delay, next)) :
    next.previous ≤ next.greatest ∧ next.current ≤ next.greatest ∧
      2 * next.greatest.toNat < UInt64.size := by
  obtain ⟨-, sum, -, rfl⟩ := Backoff.next?_eq_some_iff.1 h
  exact ⟨pace.current_le, Std.min_le_right, pace.short⟩

/-- The current delay, and the sequence after it. -/
def next (pace : Pace) : UInt64 × Pace :=
  let step := pace.backoff.next?.get pace.isSome_next?
  have bounds := pace.bounds_next? (Option.some_get pace.isSome_next?).symm
  (step.1, ⟨step.2, bounds.1, bounds.2.1, bounds.2.2⟩)

theorem next?_backoff (pace : Pace) :
    pace.backoff.next? = some (pace.next.1, pace.next.2.backoff) :=
  (Option.some_get pace.isSome_next?).symm

end Pace

end ClusterInfra
