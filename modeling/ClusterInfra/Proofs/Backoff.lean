import ClusterInfra.Backoff
import Mathlib.Data.List.DropRight
import Mathlib.Data.Nat.Fib.Basic
/-!
Delays that grow along the Fibonacci sequence.

A sequence of delays holds two of them, the last one and the next. As long as their sum is a word,
they are the least delay times two Fibonacci numbers that follow on each other, both cut off at the
greatest delay. Cutting off early makes no difference: what is added to a delay that was cut off is
cut off again.

The sum is formed before it is cut off. It is always a word if the greatest delay is less than half
of the words; if not, a sequence that goes on for long enough comes to an end.
-/

namespace ClusterInfra.Backoff

/-- The delays between two bounds: multiples of the Fibonacci numbers, cut off. -/
def delay (least greatest n : Nat) : Nat := min greatest (least * Nat.fib n)

theorem delay_zero (least greatest : Nat) : delay least greatest 0 = 0 := by
  rw [delay, Nat.fib_zero, Nat.mul_zero, Nat.min_zero]

theorem delay_one {least greatest : Nat} (hle : least ≤ greatest) :
    delay least greatest 1 = least := by
  rw [delay, Nat.fib_one, Nat.mul_one, Nat.min_eq_right hle]

theorem delay_le (least greatest n : Nat) : delay least greatest n ≤ greatest := min_le_left ..

theorem delay_mono (least greatest : Nat) {m n : Nat} (h : m ≤ n) :
    delay least greatest m ≤ delay least greatest n :=
  min_le_min_left _ (Nat.mul_le_mul_left _ (Nat.fib_mono h))

/-- No delay after the one at zero is less than the least one. -/
theorem least_le_delay {least greatest n : Nat} (hle : least ≤ greatest) (hn : 0 < n) :
    least ≤ delay least greatest n :=
  le_min hle (Nat.le_mul_of_pos_right _ (Nat.fib_pos.2 hn))

/-- Two delays add up to the one after them, even if they were cut off. -/
theorem delay_add_two (least greatest n : Nat) :
    min (delay least greatest n + delay least greatest (n + 1)) greatest
      = delay least greatest (n + 2) := by
  simp only [delay, Nat.fib_add_two, Nat.mul_add]
  omega

/-- In the end, all delays are cut off. -/
theorem delay_eq_greatest {least greatest n : Nat} (hleast : 0 < least) (hfive : 5 ≤ n)
    (hn : greatest ≤ n) : delay least greatest n = greatest := by
  refine min_eq_left (hn.trans ((Nat.le_fib_self hfive).trans ?_))
  exact Nat.le_mul_of_pos_left _ hleast

/-- Two delays in a row that do not add up to a word. -/
def Overflows (least greatest n : Nat) : Prop :=
  2 ^ 64 ≤ delay least greatest n + delay least greatest (n + 1)

/-- Below half of the words no sum overflows. -/
theorem not_overflows {greatest : Nat} (hshort : greatest < 2 ^ 63) (least n : Nat) :
    ¬ Overflows least greatest n := by
  have hprevious := delay_le least greatest n
  have hcurrent := delay_le least greatest (n + 1)
  rw [Overflows]
  omega

/-- From half of the words on, the greatest delay is added to itself in the end. -/
theorem exists_overflows {least greatest : Nat} (hleast : 0 < least) (hlong : 2 ^ 63 ≤ greatest) :
    ∃ n, Overflows least greatest n := by
  refine ⟨greatest + 5, ?_⟩
  rw [Overflows, delay_eq_greatest hleast (by omega) (by omega),
    delay_eq_greatest hleast (by omega) (by omega)]
  omega

/-! ### Where a sequence stands -/

/-- A sequence between two bounds stands before a delay. -/
structure StandsAt (low high n : Nat) (backoff : Backoff) : Prop where
  least : backoff.least.toNat = low
  greatest : backoff.greatest.toNat = high
  previous : backoff.previous.toNat = delay low high n
  current : backoff.current.toNat = delay low high (n + 1)

theorem standsAt_between (least greatest : UInt64) :
    (between least greatest).StandsAt (max 1 least.toNat)
      (max (max 1 least.toNat) greatest.toNat) 0 := by
  have hleast : (max least 1).toNat = max 1 least.toNat := by
    rw [UInt64.toNat_max, max_comm]
    rfl
  refine ⟨hleast, ?_, (delay_zero ..).symm, ?_⟩
  · rw [between, UInt64.toNat_max, hleast, max_comm]
  · rw [delay_one (Nat.le_max_left ..)]
    exact hleast

namespace StandsAt

variable {low high n : Nat} {backoff after : Backoff} {word : UInt64}

theorem next?_eq_none_iff (h : backoff.StandsAt low high n) :
    backoff.next? = none ↔ Overflows low high n := by
  rw [Backoff.next?_eq_none_iff, h.previous, h.current]
  rfl

/-- A step gives the delay that it should, and the sequence goes on to the one after. -/
theorem next (h : backoff.StandsAt low high n) (hnext : backoff.next? = some (word, after)) :
    word.toNat = delay low high (n + 1) ∧ after.StandsAt low high (n + 1) := by
  obtain ⟨rfl, sum, hsum, rfl⟩ := next?_eq_some_iff.1 hnext
  refine ⟨h.current, h.least, h.greatest, h.current, ?_⟩
  rw [UInt64.toNat_min, hsum, h.previous, h.current, h.greatest, delay_add_two]

theorem reset (h : backoff.StandsAt low high n) (hle : low ≤ high) :
    backoff.reset.StandsAt low high 0 where
  least := h.least
  greatest := h.greatest
  previous := (delay_zero ..).symm
  current := h.least.trans (delay_one hle).symm

end StandsAt

/-! ### Runs -/

/-- A step of a sequence: its next delay is taken, or it starts anew. -/
inductive Step
  | next
  | reset
  deriving DecidableEq, Repr

/-- Takes a step, if there is one. -/
def perform? (backoff : Backoff) : Step → Option Backoff
  | .next => backoff.next?.map (·.2)
  | .reset => some backoff.reset

/-- A sequence after some steps, if it comes so far. -/
def run? (backoff : Backoff) (steps : List Step) : Option Backoff := steps.foldlM perform? backoff

theorem run?_concat (backoff : Backoff) (steps : List Step) (step : Step) :
    backoff.run? (steps ++ [step]) = (backoff.run? steps).bind (·.perform? step) := by
  rw [run?, List.foldlM_append, Option.bind_eq_bind]
  exact congrArg _ (funext fun before => Option.bind_fun_some (before.perform? step))

/-- The delay that a sequence gives after some steps, in seconds, if it comes so far. -/
def delay? (backoff : Backoff) (steps : List Step) : Option Nat :=
  (backoff.run? steps).bind fun backoff => backoff.next?.map (·.1.toNat)

/-- How many delays have been taken since the sequence last started anew. -/
def taken (steps : List Step) : Nat := (steps.rtakeWhile (· = .next)).length

theorem taken_concat_next (steps : List Step) : taken (steps ++ [.next]) = taken steps + 1 := by
  rw [taken, List.rtakeWhile_concat_pos _ _ _ (by decide), List.length_append,
    List.length_singleton, taken]

theorem taken_concat_reset (steps : List Step) : taken (steps ++ [.reset]) = 0 := by
  rw [taken, List.rtakeWhile_concat_neg _ _ _ (by decide), List.length_nil]

theorem taken_append_replicate (steps : List Step) (n : Nat) :
    taken (steps ++ List.replicate n .next) = taken steps + n := by
  induction n with
  | zero => rw [List.replicate_zero, List.append_nil, Nat.add_zero]
  | succ n ih => rw [List.replicate_succ', ← List.append_assoc, taken_concat_next, ih, Nat.add_assoc]

namespace StandsAt

variable {low high : Nat} {start backoff : Backoff} {steps : List Step}

/-- A sequence stands where the steps since it last started anew have led. -/
theorem run? (h : start.StandsAt low high 0) (hle : low ≤ high)
    (hrun : start.run? steps = some backoff) : backoff.StandsAt low high (taken steps) := by
  induction steps using List.reverseRecOn generalizing backoff with
  | nil =>
    cases hrun
    exact h
  | append_singleton steps step ih =>
    rw [run?_concat] at hrun
    obtain ⟨before, hbefore, hstep⟩ := Option.bind_eq_some_iff.1 hrun
    have hstands := ih hbefore
    cases step with
    | next =>
      obtain ⟨⟨word, next⟩, hnext, rfl⟩ := Option.map_eq_some_iff.1 hstep
      rw [taken_concat_next]
      exact (hstands.next hnext).2
    | reset =>
      cases hstep
      rw [taken_concat_reset]
      exact hstands.reset hle

/-- A run comes to an end exactly where a delay is taken and the sum for the one after overflows. -/
theorem run?_eq_none_iff (h : start.StandsAt low high 0) (hle : low ≤ high) :
    start.run? steps = none ↔
      ∃ earlier, earlier ++ [.next] <+: steps ∧ Overflows low high (taken earlier) := by
  induction steps using List.reverseRecOn with
  | nil => exact iff_of_false nofun fun ⟨_, hprefix, _⟩ => by simp at hprefix
  | append_singleton steps step ih =>
    simp only [run?_concat, List.prefix_concat_iff, or_and_right, exists_or, ← ih]
    cases hrun : start.run? steps with
    | none => exact iff_of_true rfl (.inr rfl)
    | some before =>
      rw [Option.bind_some, or_iff_left nofun]
      cases step with
      | next =>
        rw [perform?, Option.map_eq_none_iff, (h.run? hle hrun).next?_eq_none_iff]
        simp only [List.append_cancel_right_eq, exists_eq_left]
      | reset =>
        refine iff_of_false nofun fun ⟨earlier, hlast, _⟩ => ?_
        cases (List.append_inj' hlast rfl).2

theorem delay?_eq (h : start.StandsAt low high 0) (hle : low ≤ high) {seconds : Nat}
    (hdelay : start.delay? steps = some seconds) :
    seconds = delay low high (taken steps + 1) := by
  obtain ⟨backoff, hrun, hgiven⟩ := Option.bind_eq_some_iff.1 hdelay
  obtain ⟨⟨word, next⟩, hnext, rfl⟩ := Option.map_eq_some_iff.1 hgiven
  exact ((h.run? hle hrun).next hnext).1

theorem delay?_eq_none_iff (h : start.StandsAt low high 0) (hle : low ≤ high) :
    start.delay? steps = none ↔
      ∃ earlier, earlier ++ [.next] <+: steps ++ [.next] ∧
        Overflows low high (taken earlier) := by
  rw [← h.run?_eq_none_iff hle, run?_concat, delay?, Option.bind_eq_none_iff,
    Option.bind_eq_none_iff]
  simp only [perform?, Option.map_eq_none_iff]

theorem delay?_of_short (h : start.StandsAt low high 0) (hle : low ≤ high) (hshort : high < 2 ^ 63)
    (steps : List Step) : start.delay? steps = some (delay low high (taken steps + 1)) := by
  cases hdelay : start.delay? steps with
  | some seconds => rw [h.delay?_eq hle hdelay]
  | none =>
    obtain ⟨earlier, -, hoverflows⟩ := (h.delay?_eq_none_iff hle).1 hdelay
    exact absurd hoverflows (not_overflows hshort low _)

/-- From half of the words on, a sequence ends if no step starts it anew. -/
theorem exists_delay?_eq_none (h : start.StandsAt low high 0) (hle : low ≤ high) (hlow : 0 < low)
    (hlong : 2 ^ 63 ≤ high) : ∃ steps, start.delay? steps = none := by
  obtain ⟨n, hoverflows⟩ := exists_overflows hlow hlong
  have htaken : taken (List.replicate n .next) = n :=
    (taken_append_replicate [] n).trans (Nat.zero_add n)
  exact ⟨List.replicate n .next, (h.delay?_eq_none_iff hle).2
    ⟨_, List.prefix_rfl, htaken.symm ▸ hoverflows⟩⟩

end StandsAt

/-- A sequence between two spans of time, with `low` and `high` for its bounds in whole seconds.
After any steps it gives the cut-off multiple of a Fibonacci number that it should, as long as it
gives a delay. It does so exactly until a delay is taken that does not add up to a word with the one
before it, and so in every run exactly if `high` is less than half of the words. What it gives lies
between the bounds and does not decrease until it starts anew. -/
theorem delays_are_exact_iff (least greatest : Duration) :
    let low := max 1 least.seconds.toNat
    let high := max low greatest.seconds.toNat
    let start := ofDurations least greatest
    let expected (n : Nat) : Nat := min high (low * Nat.fib n)
    (∀ steps seconds, start.delay? steps = some seconds → seconds = expected (taken steps + 1)) ∧
    (∀ steps, start.delay? steps = none ↔ ∃ earlier, earlier ++ [.next] <+: steps ++ [.next] ∧
      2 ^ 64 ≤ expected (taken earlier) + expected (taken earlier + 1)) ∧
    (high < 2 ^ 63 ↔ ∀ steps, start.delay? steps = some (expected (taken steps + 1))) ∧
    (∀ steps seconds, start.delay? steps = some seconds → low ≤ seconds ∧ seconds ≤ high ∧
      ∀ n later, start.delay? (steps ++ List.replicate n .next) = some later →
        seconds ≤ later) := by
  intro low high start expected
  have hstands : start.StandsAt low high 0 := standsAt_between least.seconds greatest.seconds
  have hlow : 0 < low := Nat.lt_of_lt_of_le Nat.zero_lt_one (Nat.le_max_left ..)
  have hle : low ≤ high := Nat.le_max_left ..
  have hexact : ∀ steps seconds, start.delay? steps = some seconds →
      seconds = expected (taken steps + 1) := fun _ _ hdelay => hstands.delay?_eq hle hdelay
  refine ⟨hexact, fun _ => hstands.delay?_eq_none_iff hle,
    ⟨hstands.delay?_of_short hle, fun hgiven => ?_⟩, fun steps seconds hdelay => ?_⟩
  · by_contra hlong
    obtain ⟨steps, hnone⟩ := hstands.exists_delay?_eq_none hle hlow (Nat.le_of_not_lt hlong)
    cases hnone.symm.trans (hgiven steps)
  · rw [hexact steps seconds hdelay]
    refine ⟨least_le_delay hle (Nat.succ_pos _), delay_le .., fun n later hlater => ?_⟩
    rw [hexact _ later hlater, taken_append_replicate]
    exact delay_mono low high (by omega)

/-- The shortest span of time that does not fit into a word twice. -/
def halfOfWords : Duration := { seconds := 9223372036854775808 }

/-- With it for both bounds, the first delay is given, and there is no second one. -/
theorem second_delay_overflows :
    (ofDurations halfOfWords halfOfWords).delay? [] = some 9223372036854775808 ∧
    (ofDurations halfOfWords halfOfWords).delay? [.next] = none ∧
    min halfOfWords.seconds.toNat (halfOfWords.seconds.toNat * Nat.fib (taken [.next] + 1))
      = 9223372036854775808 := by
  decide

end ClusterInfra.Backoff

/-! ### Sequences that do not end -/

namespace ClusterInfra.Pace

/-- A sequence after some of its delays. -/
def after (pace : Pace) (n : Nat) : Pace := (fun pace => pace.next.2)^[n] pace

theorem after_succ (pace : Pace) (n : Nat) : pace.after (n + 1) = (pace.after n).next.2 :=
  Function.iterate_succ_apply' ..

theorem standsAt_after {low high : Nat} {pace : Pace} (h : pace.backoff.StandsAt low high 0)
    (n : Nat) : (pace.after n).backoff.StandsAt low high n := by
  induction n with
  | zero => exact h
  | succ n ih =>
    rw [after_succ]
    exact (ih.next (pace.after n).next?_backoff).2

theorem next_after {low high : Nat} {pace : Pace} (h : pace.backoff.StandsAt low high 0) (n : Nat) :
    (pace.after n).next.1.toNat = Backoff.delay low high (n + 1) :=
  ((standsAt_after h n).next (pace.after n).next?_backoff).1

end ClusterInfra.Pace
