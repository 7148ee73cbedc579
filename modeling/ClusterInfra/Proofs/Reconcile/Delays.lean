import ClusterInfra.Proofs.Backoff
import ClusterInfra.Proofs.Reconcile.Runs
import ClusterInfra.Reconcile.Controller
import Mathlib.Data.List.DropRight
/-!
Delays after failures.

In any run of the controller, the delay after a failure is told by how often the reconciliations of
the same object have failed in a row: it is the Fibonacci multiple of five seconds for that number,
or 300 seconds if that is less. What becomes of other objects in between makes no difference, so the
delays of an object do not decrease until one of its reconciliations succeeds.
-/

namespace ClusterInfra.Controller

variable {σ : Type}

/-- An object that is due, and what its reconciliation meets: the cloud, and whatever has become of
the world since the reconciliation before. -/
structure Due (σ : Type) where
  key : ObjectKey
  cloud : Cloud σ
  dnsRequeue : Nat
  cancelled : Bool
  seconds : Float
  meanwhile : World σ → World σ

/-- How the reconciliation of an object ended, and the delay after which it is due again. -/
structure Report where
  key : String
  result : Except ControllerError Outcome
  delay? : Option Nat

/-- Whether a reconciliation failed. -/
def Report.failed (report : Report) : Bool := !report.result.isOk

/-- Reconciles an object that is due. -/
def serve (controller : Controller σ) (due : Due σ) : Report × Controller σ :=
  let (result, delay?, controller) :=
    { controller with world := due.meanwhile controller.world }.invoke due.cloud due.dnsRequeue
      due.key due.cancelled due.seconds
  (⟨due.key.text, result, delay?⟩, controller)

/-- The reports of a run in which one object after the other is due. -/
def reports (controller : Controller σ) : List (Due σ) → List Report
  | [] => []
  | due :: rest =>
    let (report, controller) := controller.serve due
    report :: reports controller rest

/-- How often the reconciliations of an object have failed since the last one that succeeded. -/
def failures (key : String) (history : List Report) : Nat :=
  ((history.filter (·.key = key)).rtakeWhile (·.failed)).length

variable {key : String} {history : List Report} {report : Report}

theorem failures_concat_of_ne (h : report.key ≠ key) (history : List Report) :
    failures key (history ++ [report]) = failures key history := by
  rw [failures, failures, List.filter_append, List.filter_cons_of_neg (by simpa using h),
    List.filter_nil, List.append_nil]

theorem failures_concat_of_failed (hkey : report.key = key) (h : report.failed = true)
    (history : List Report) :
    failures key (history ++ [report]) = failures key history + 1 := by
  rw [failures, failures, List.filter_append, List.filter_cons_of_pos (by simpa using hkey),
    List.filter_nil, List.rtakeWhile_concat_pos _ _ _ h, List.length_append, List.length_singleton]

theorem failures_concat_of_succeeded (hkey : report.key = key) (h : report.failed = false)
    (history : List Report) : failures key (history ++ [report]) = 0 := by
  rw [failures, List.filter_append, List.filter_cons_of_pos (by simpa using hkey), List.filter_nil,
    List.rtakeWhile_concat_neg _ _ _ (by rw [h]; exact Bool.false_ne_true), List.length_nil]

/-- The count of an object grows until one of its reconciliations succeeds. -/
theorem failures_le_append {more : List Report}
    (h : ∀ report ∈ more, report.key = key → report.failed = true) (history : List Report) :
    failures key history ≤ failures key (history ++ more) := by
  induction more generalizing history with
  | nil => rw [List.append_nil]
  | cons report rest ih =>
    rw [List.forall_mem_cons] at h
    refine Nat.le_trans ?_ (List.append_cons history report rest ▸ ih h.2 (history ++ [report]))
    by_cases hkey : report.key = key
    · rw [failures_concat_of_failed hkey (h.1 hkey)]
      exact Nat.le_succ _
    · rw [failures_concat_of_ne hkey]

/-! ### The delays of a run -/

/-- The delays that an object has come to. -/
def backoffOf (controller : Controller σ) (key : String) : Pace :=
  (controller.backoffs.get? key).getD freshBackoff

/-- Every object has come to the delays that its failures lead to. -/
def Paced (history : List Report) (controller : Controller σ) : Prop :=
  ∀ key, controller.backoffOf key = freshBackoff.after (failures key history)

/-- The delay after so many failures, in seconds. -/
def delayAfter (failures : Nat) : Nat := min 300 (5 * Nat.fib failures)

theorem next_freshBackoff_after (n : Nat) :
    (freshBackoff.after n).next.1.toNat = delayAfter (n + 1) :=
  Pace.next_after (Backoff.standsAt_between 5 300) n

/-- What becomes of the delays, by what is reported of an object. -/
inductive Serves (controller : Controller σ) (report : Report) (next : Controller σ) : Prop
  | succeeded (h : report.failed = false)
      (hnext : next.backoffs = controller.backoffs.erase report.key)
  | failed (h : report.failed = true)
      (hdelay : report.delay? = some (controller.backoffOf report.key).next.1.toNat)
      (hnext : next.backoffs = controller.backoffs.insert report.key
        (controller.backoffOf report.key).next.2)

theorem serves_serve (controller : Controller σ) (due : Due σ) :
    (controller.serve due).1.key = due.key.text ∧
      Serves controller (controller.serve due).1 (controller.serve due).2 := by
  refine ⟨rfl, ?_⟩
  simp only [serve, invoke, reconcile]
  generalize World.reconcile _ _ _ _ _ = reconciled
  rcases reconciled with ⟨e | outcome, world⟩
  · exact .failed rfl rfl rfl
  · exact .succeeded rfl rfl

/-- A reconciliation that succeeds forgets the failures of its object; one that fails goes on to the
next delay. Other objects are left alone. -/
theorem Paced.serves {controller next : Controller σ} (h : Paced history controller)
    (hserves : Serves controller report next) :
    Paced (history ++ [report]) next ∧ (report.failed = true →
      report.delay? = some (delayAfter (failures report.key history + 1))) := by
  cases hserves with
  | succeeded hsucceeded hnext =>
    refine ⟨fun key => ?_, fun hfailed => nomatch hsucceeded.symm.trans hfailed⟩
    rw [backoffOf, hnext]
    by_cases hkey : key = report.key
    · rw [hkey, Table.get?_erase_self, failures_concat_of_succeeded rfl hsucceeded]
      rfl
    · rw [Table.get?_erase_of_ne _ hkey, failures_concat_of_ne (Ne.symm hkey)]
      exact h key
  | failed hfailed hdelay hnext =>
    refine ⟨fun key => ?_, fun _ => ?_⟩
    · rw [backoffOf, hnext]
      by_cases hkey : key = report.key
      · rw [hkey, Table.get?_insert_self, failures_concat_of_failed rfl hfailed,
          Pace.after_succ, ← h report.key]
        rfl
      · rw [Table.get?_insert_of_ne _ hkey, failures_concat_of_ne (Ne.symm hkey)]
        exact h key
    · rw [hdelay, h report.key, next_freshBackoff_after]

/-- So the delays of a run are told by the failures before, whatever they were when it began. -/
theorem Paced.reports {controller : Controller σ} (h : Paced history controller)
    (dues : List (Due σ)) {before after : List Report}
    (hreports : controller.reports dues = before ++ report :: after)
    (hfailed : report.failed = true) :
    report.delay? = some (delayAfter (failures report.key (history ++ before) + 1)) := by
  induction dues generalizing history controller before with
  | nil => exact absurd hreports (by simp [Controller.reports])
  | cons due rest ih =>
    obtain ⟨hpaced, hdelay⟩ := h.serves (controller.serves_serve due).2
    cases before with
    | nil =>
      obtain ⟨rfl, -⟩ := List.cons.inj hreports
      rw [List.append_nil]
      exact hdelay hfailed
    | cons first before =>
      obtain ⟨rfl, hrest⟩ := List.cons.inj hreports
      rw [List.append_cons]
      exact ih hpaced hrest

/-- No delay is shorter than one after fewer failures. -/
theorem delayAfter_mono {m n : Nat} (h : m ≤ n) : delayAfter m ≤ delayAfter n :=
  Backoff.delay_mono 5 300 h

theorem delayAfter_le (n : Nat) : delayAfter n ≤ 300 := Backoff.delay_le 5 300 n

theorem le_delayAfter_succ (n : Nat) : 5 ≤ delayAfter (n + 1) :=
  Backoff.least_le_delay (by decide) (Nat.succ_pos n)

theorem map_key_reports (controller : Controller σ) (dues : List (Due σ)) :
    (controller.reports dues).map (·.key) = dues.map (·.key.text) := by
  induction dues generalizing controller with
  | nil => rfl
  | cons due rest ih =>
    rw [reports, List.map_cons, List.map_cons, (controller.serves_serve due).1, ih]

/-- A run reports on every object that is due, in order. After a failure, the object is due again in
as many seconds as five times the Fibonacci number of its failures in a row, this one included, or
in 300 if that is less. So a delay lies between 5 and 300 seconds, and it is not less than an
earlier one of the same object unless the object was reconciled successfully in between. -/
theorem delays_are_fibonacci (world : World σ) (dues : List (Due σ)) :
    let reports := Controller.reports { world } dues
    reports.map (·.key) = dues.map (·.key.text) ∧
    (∀ (before : List Report) (report : Report) (after : List Report),
      reports = before ++ report :: after → report.failed = true →
      ∃ delay, report.delay? = some delay ∧
        delay = min 300 (5 * Nat.fib (failures report.key before + 1)) ∧
        5 ≤ delay ∧ delay ≤ 300) ∧
    (∀ (before : List Report) (first : Report) (between : List Report) (second : Report)
      (after : List Report),
      reports = before ++ first :: between ++ second :: after → second.key = first.key →
      first.failed = true → second.failed = true →
      (∀ report ∈ between, report.key = first.key → report.failed = true) →
        ∃ delay later, first.delay? = some delay ∧ second.delay? = some later ∧ delay ≤ later) := by
  have hpaced : Paced [] ({ world } : Controller σ) := fun _ => rfl
  have hdelay : ∀ {before after : List Report} {report : Report},
      Controller.reports { world } dues = before ++ report :: after → report.failed = true →
        report.delay? = some (delayAfter (failures report.key before + 1)) :=
    fun hreports hfailed => hpaced.reports dues hreports hfailed
  refine ⟨map_key_reports _ dues, fun before report after hreports hfailed => ?_,
    fun before first between second after hreports hkey hfirst hsecond hbetween => ?_⟩
  · exact ⟨_, hdelay hreports hfailed, rfl, le_delayAfter_succ _, delayAfter_le _⟩
  · have hmore : ∀ report ∈ first :: between, report.key = first.key → report.failed = true :=
      List.forall_mem_cons.2 ⟨fun _ => hfirst, hbetween⟩
    have hfront : Controller.reports { world } dues
        = before ++ first :: (between ++ second :: after) := by
      rw [hreports, List.append_assoc, List.cons_append]
    refine ⟨_, _, hdelay hfront hfirst, hdelay hreports hsecond, delayAfter_mono ?_⟩
    rw [hkey]
    exact Nat.succ_le_succ (failures_le_append hmore before)

end ClusterInfra.Controller

namespace ClusterInfra.Sample

/-- An object that is due while the store is down. -/
def failing (key : ObjectKey) : Controller.Due Unit where
  key
  cloud := .obliging
  dnsRequeue := 15
  cancelled := false
  seconds := 0
  meanwhile world := { world with faults := [⟨.getAwsCluster, 0, "down"⟩] }

/-- What is reported of an object whose reconciliation failed. -/
def failure (key : ObjectKey) (delay : Nat) : Controller.Report :=
  ⟨key.text, .error (.io "down"), some delay⟩

end ClusterInfra.Sample

namespace ClusterInfra.Controller

/-- The fourth failure of an object in a row is followed by 15 seconds, whatever happens to another
object in between. -/
theorem delay_after_sample_failures :
    let reports := Controller.reports { world := Sample.world [] }
      [Sample.failing Sample.key, Sample.failing Sample.key, Sample.failing Sample.key,
        Sample.failing Sample.neighbour.key, Sample.failing Sample.key]
    ∃ (before : List Report) (report : Report), reports = before ++ [report] ∧ report.failed = true ∧
      failures report.key before = 3 ∧ report.delay? = some 15 := by
  have hreports : Controller.reports { world := Sample.world [] }
      [Sample.failing Sample.key, Sample.failing Sample.key, Sample.failing Sample.key,
        Sample.failing Sample.neighbour.key, Sample.failing Sample.key]
      = [Sample.failure Sample.key 5, Sample.failure Sample.key 5, Sample.failure Sample.key 10,
        Sample.failure Sample.neighbour.key 5] ++ [Sample.failure Sample.key 15] := by rfl
  obtain ⟨-, hdelay, -⟩ := delays_are_fibonacci (Sample.world []) [Sample.failing Sample.key,
    Sample.failing Sample.key, Sample.failing Sample.key, Sample.failing Sample.neighbour.key,
    Sample.failing Sample.key]
  obtain ⟨delay, hsome, heq, -⟩ := hdelay _ _ _ hreports rfl
  refine ⟨_, _, hreports, rfl, by decide, ?_⟩
  rw [hsome, heq]
  decide

end ClusterInfra.Controller
