import ClusterInfra.Proofs.Reconcile.Delays
import ClusterInfra.Proofs.Reconcile.Recounts
/-!
The metrics account for every attempt.

Whatever becomes of an invocation, its result is counted once and its duration is kept once. The
failed calls that it counts are those that its journal tells: the step at which a normal pass has
stopped, and every deletion that did not come to a good end. So what a run has measured can be read
off its reports.
-/

namespace ClusterInfra

variable {σ : Type}

/-- A count has gone up by one if something is so, and else it has stayed. -/
structure CountsIf (p : Prop) (old new : Nat) : Prop where
  counted : p → new = old + 1
  kept : ¬ p → new = old

theorem countsIf_of_count {p : Prop} {old new : Nat} {call : ServiceCall}
    {calls : List ServiceCall} (h : new = old + calls.count call) (hnodup : calls.Nodup)
    (hiff : p ↔ call ∈ calls) : CountsIf p old new where
  counted hp := by rw [h, List.count_eq_one_of_mem hnodup (hiff.1 hp)]
  kept hp := by rw [h, List.count_eq_zero_of_not_mem (mt hiff.2 hp), Nat.add_zero]

namespace World

/-- What an invocation has counted is what its journal and its result tell. -/
structure Accounted (world : World σ) (key : ObjectKey) (events : List Event)
    (result : Except ControllerError Outcome) (metrics : Metrics) : Prop where
  /-- The step at which a normal pass has stopped is counted. -/
  stopped : ∀ step, CountsIf (world.Enters key .active ∧ Event.StopsAt events step)
    (world.metrics.failureCount step "reconcile") (metrics.failureCount step "reconcile")
  /-- Its error is the one of the invocation. -/
  error : ∀ step, world.Enters key .active → Event.StopsAt events step →
    ∃ e : StepError, result = .error (e.toControllerError ⟨.reconcile, step⟩)
  /-- Every deletion that has failed or was cancelled is counted. -/
  undeleted : ∀ subsystem, CountsIf
    (world.Enters key .deleting ∧ (⟨.delete, subsystem⟩, .done) ∉ Event.returns events)
    (world.metrics.failureCount subsystem "delete") (metrics.failureCount subsystem "delete")
  /-- There are as many of them as the result says. -/
  incomplete : metrics.deletionFailures = world.metrics.deletionFailures + failedDeletions result

variable {world : World σ} {key : ObjectKey} {result : Except ControllerError Outcome}

/-- An invocation without a pass counts nothing. -/
theorem accounted_of_idle (hidle : ∀ mode, ¬ world.Enters key mode)
    (hresult : failedDeletions result = 0) : world.Accounted key [] result world.metrics where
  stopped step := ⟨fun h => absurd h.1 (hidle _), fun _ => rfl⟩
  error step henters := absurd henters (hidle _)
  undeleted subsystem := ⟨fun h => absurd h.1 (hidle _), fun _ => rfl⟩
  incomplete := by rw [hresult, Nat.add_zero]

/-- An invocation with a pass counts what the pass does. -/
theorem accounted_of_pass {mode : Mode} {a b : Attempt σ}
    {steps : List (ServiceCall × Except StepError Unit)} {events : List Event}
    (henters : ∀ other, world.Enters key other ↔ other = mode)
    (hlive : mode = .active ∨ mode = .deleting) (hmetrics : a.world.metrics = world.metrics)
    (h : Attempt.Recounts steps events a b)
    (hends : Attempt.Ends (mode = .deleting) steps result) :
    world.Accounted key events result b.world.metrics := by
  have hnodup := hends.nodup.sublist (ServiceCall.unsuccessful_sublist steps)
  have hcounted := h.counted
  have hincomplete := h.deletionFailures
  rw [← hends.failedDeletions_eq, hmetrics] at hincomplete
  rw [hmetrics] at hcounted
  rcases hlive with rfl | rfl
  · refine ⟨fun step => ?_, fun step _ hstops => ?_, fun subsystem => ?_, hincomplete⟩
    · refine countsIf_of_count (hcounted ⟨.reconcile, step⟩) hnodup ?_
      rw [henters, and_iff_right rfl, h.stopsAt_iff hends]
    · exact hends.exists_error ((h.stopsAt_iff hends step).1 hstops)
    · refine countsIf_of_count (hcounted ⟨.delete, subsystem⟩) hnodup ⟨fun hentered => ?_,
        fun hmem => nomatch hends.action hmem⟩
      cases (henters .deleting).1 hentered.1
  · refine ⟨fun step => ?_, fun step hentered => ?_, fun subsystem => ?_, hincomplete⟩
    · refine countsIf_of_count (hcounted ⟨.reconcile, step⟩) hnodup ⟨fun hentered => ?_,
        fun hmem => nomatch hends.action hmem⟩
      cases (henters .active).1 hentered.1
    · cases (henters .active).1 hentered
    · refine countsIf_of_count (hcounted ⟨.delete, subsystem⟩) hnodup ?_
      rw [henters, and_iff_right rfl, h.undone_iff hends]

/-- Every invocation counts what its journal and its result tell, and nothing else. -/
theorem accounted_reconcile (cloud : Cloud σ) (dnsRequeue : Nat) (key : ObjectKey)
    (cancelled : Bool) (world : World σ) :
    let out := world.reconcile cloud dnsRequeue key cancelled
    ∃ events, out.2.journal = world.journal ++ events ∧
      world.Accounted key events out.1 out.2.metrics ∧
      out.2.metrics.results = world.metrics.results ∧
      out.2.metrics.durations = world.metrics.durations := by
  have hinvoked := world.invoked_reconcile cloud dnsRequeue key cancelled
  generalize world.reconcile cloud dnsRequeue key cancelled = out at hinvoked
  cases hinvoked with
  | failed hentry =>
    refine ⟨[], (List.append_nil _).symm, accounted_of_idle (fun mode => ?_) ?_, rfl, rfl⟩
    · rw [enters_iff hentry]
      rintro ⟨scope, ⟨⟩⟩
    · exact failedDeletions_enter (congrArg Prod.fst hentry)
  | skipped hentry =>
    refine ⟨[], (List.append_nil _).symm, accounted_of_idle (fun mode => ?_) rfl, rfl, rfl⟩
    rw [enters_iff hentry]
    rintro ⟨scope, ⟨⟩⟩
  | @passed mode scope faults hentry hadmits result a hrun =>
    have hrecounts := Attempt.recounts_run cloud dnsRequeue (mode = .deleting)
      { world := { world with faults }, scope, cancelled }
    rw [hrun] at hrecounts
    obtain ⟨steps, events, hrecounts, hends⟩ := hrecounts
    refine ⟨events, hrecounts.journal, accounted_of_pass (fun other => ?_) hadmits.live rfl
      hrecounts hends, hrecounts.results, hrecounts.durations⟩
    rw [enters_iff hentry]
    constructor
    · rintro ⟨scope', ⟨⟩⟩
      rfl
    · rintro rfl
      exact ⟨scope, rfl⟩

end World

namespace Controller

/-- The controller after a run in which one object after the other was due. -/
def after (controller : Controller σ) (dues : List (Due σ)) : Controller σ :=
  dues.foldl (fun controller due => (controller.serve due).2) controller

/-- The label under which a reconciliation is counted. -/
def Report.label (report : Report) : String :=
  match report.result with
  | .ok outcome => outcome.label
  | .error _ => "error"

/-- An invocation counts its result and keeps its duration; the rest is the reconciliation's. -/
theorem metrics_serve (controller : Controller σ) (due : Due σ) :
    let world := due.meanwhile controller.world
    let out := world.reconcile due.cloud due.dnsRequeue due.key due.cancelled
    (controller.serve due).1.result = out.1 ∧
    (controller.serve due).2.world.journal = out.2.journal ∧
    (controller.serve due).2.world.metrics
      = (out.2.metrics.recordResult (controller.serve due).1.label).observe due.seconds := by
  simp only [serve, invoke, reconcile]
  generalize World.reconcile _ _ _ _ _ = reconciled
  rcases reconciled with ⟨e | outcome, world⟩
  · exact ⟨rfl, rfl, rfl⟩
  · exact ⟨rfl, rfl, rfl⟩

theorem reports_cons (controller : Controller σ) (due : Due σ) (rest : List (Due σ)) :
    controller.reports (due :: rest)
      = (controller.serve due).1 :: (controller.serve due).2.reports rest := rfl

theorem reports_concat (controller : Controller σ) (dues : List (Due σ)) (due : Due σ) :
    controller.reports (dues ++ [due])
      = controller.reports dues ++ [((controller.after dues).serve due).1] := by
  induction dues generalizing controller with
  | nil => rfl
  | cons first rest ih => exact congrArg (_ :: ·) (ih (controller.serve first).2)

theorem after_concat (controller : Controller σ) (dues : List (Due σ)) (due : Due σ) :
    controller.after (dues ++ [due]) = ((controller.after dues).serve due).2 := List.foldl_concat ..

/-- Every report was counted by its result, and one duration was kept for it. -/
structure Measures (reports : List Report) (metrics : Metrics) : Prop where
  total : metrics.results.total = reports.length
  counts : ∀ label, metrics.results.count label = reports.countP (·.label = label)
  durations : metrics.durations.length = reports.length

theorem measures_nil : Measures [] {} := ⟨rfl, fun _ => rfl, rfl⟩

theorem Measures.concat {reports : List Report} {metrics next : Metrics}
    (h : Measures reports metrics) (hresults : next.results = metrics.results)
    (hdurations : next.durations = metrics.durations) (report : Report) (seconds : Float) :
    Measures (reports ++ [report]) ((next.recordResult report.label).observe seconds) where
  total := by
    rw [List.length_append, ← h.total, ← hresults]
    exact next.results.total_bump report.label
  counts label := by
    rw [List.countP_append, ← h.counts, ← hresults, List.countP_singleton]
    by_cases hlabel : report.label = label
    · subst hlabel
      rw [if_pos (decide_eq_true rfl)]
      exact next.results.count_bump_self report.label
    · rw [if_neg (by simpa using hlabel)]
      exact next.results.count_bump_of_ne (Ne.symm hlabel)
  durations := by
    rw [List.length_append, ← h.durations, ← hdurations]
    exact List.length_append

theorem measures_run {controller : Controller σ} {dues : List (Due σ)}
    (hunmeasured : controller.world.metrics = {})
    (hmeanwhile : ∀ due ∈ dues, ∀ world, (due.meanwhile world).metrics = world.metrics) :
    Measures (controller.reports dues) (controller.after dues).world.metrics := by
  induction dues using List.reverseRecOn with
  | nil => exact hunmeasured.symm ▸ measures_nil
  | append_singleton dues due ih =>
    rw [List.forall_mem_append, List.forall_mem_singleton] at hmeanwhile
    obtain ⟨-, -, hmetrics⟩ := (controller.after dues).metrics_serve due
    obtain ⟨events, -, -, hresults, hdurations⟩ := World.accounted_reconcile due.cloud
      due.dnsRequeue due.key due.cancelled (due.meanwhile (controller.after dues).world)
    rw [hmeanwhile.2] at hresults hdurations
    rw [reports_concat, after_concat, hmetrics]
    exact (ih hmeanwhile.1).concat hresults hdurations _ _

theorem Report.label_eq (report : Report) :
    (decide (report.label = "success") = (report.result matches .ok .noRequeue)) ∧
    (decide (report.label = "requeue") = (report.result matches .ok (.requeueAfter _))) ∧
    (decide (report.label = "error") = (report.result matches .error _)) := by
  rw [label]
  rcases report.result with e | _ | seconds <;> simp [Outcome.label]

/-- In a run of a controller that has not measured anything before, every invocation is counted
once, by what it has returned, and its duration is kept. It counts the step at which its normal pass
has stopped and every deletion that has failed or was cancelled, and no other call. If the deletion
is incomplete, its error has the number of failed deletions that were counted. -/
theorem metrics_account_for_attempts (world : World σ) (dues : List (Due σ))
    (hunmeasured : world.metrics = {})
    (hmeanwhile : ∀ due ∈ dues, ∀ world, (due.meanwhile world).metrics = world.metrics) :
    let controller : Controller σ := { world }
    let reports := controller.reports dues
    let metrics := (controller.after dues).world.metrics
    reports.length = dues.length ∧
    metrics.results.total = dues.length ∧
    metrics.durations.length = dues.length ∧
    metrics.results.count "success" = reports.countP (·.result matches .ok .noRequeue) ∧
    metrics.results.count "requeue" = reports.countP (·.result matches .ok (.requeueAfter _)) ∧
    metrics.results.count "error" = reports.countP (·.result matches .error _) ∧
    ∀ (before : List (Due σ)) (due : Due σ), before ++ [due] <+: dues →
      let entered := due.meanwhile (controller.after before).world
      let served := (controller.after before).serve due
      ∃ events, served.2.world.journal = entered.journal ++ events ∧
        entered.Accounted due.key events served.1.result served.2.world.metrics := by
  intro controller reports metrics
  have hmeasures : Measures reports metrics := measures_run hunmeasured hmeanwhile
  have hlength : reports.length = dues.length := by
    have hkeys := congrArg List.length (controller.map_key_reports dues)
    rwa [List.length_map, List.length_map] at hkeys
  refine ⟨hlength, hmeasures.total.trans hlength, hmeasures.durations.trans hlength, ?_, ?_, ?_,
    fun before due _ => ?_⟩
  · rw [hmeasures.counts]
    exact List.countP_congr fun report _ => by rw [report.label_eq.1]
  · rw [hmeasures.counts]
    exact List.countP_congr fun report _ => by rw [report.label_eq.2.1]
  · rw [hmeasures.counts]
    exact List.countP_congr fun report _ => by rw [report.label_eq.2.2]
  · obtain ⟨hresult, hjournal, hmetrics⟩ := (controller.after before).metrics_serve due
    obtain ⟨events, hevents, haccounted, -⟩ := World.accounted_reconcile due.cloud
      due.dnsRequeue due.key due.cancelled (due.meanwhile (controller.after before).world)
    refine ⟨events, hjournal.trans hevents, ?_⟩
    simp only [hresult, hmetrics]
    exact ⟨haccounted.stopped, haccounted.error, haccounted.undeleted, haccounted.incomplete⟩

end Controller

namespace Sample

/-- The object is due while services do what they do, once the store holds this copy of it. -/
def dueWith (cloud : Cloud Unit) (stored : AwsCluster) : Controller.Due Unit where
  key
  cloud
  dnsRequeue := 15
  cancelled := false
  seconds := 0
  meanwhile world := { world with store := (holding stored).store }

/-- A normal pass that stops at the security groups. -/
def stoppedCreation : Controller.Due Unit := dueWith starving (object none)

/-- A delete pass of which two deletions fail. -/
def failedDeletion : Controller.Due Unit := dueWith clinging (deleted (some [clusterFinalizer]))

/-- The deletion is attempted until it succeeds. -/
def dues : List (Controller.Due Unit) :=
  [stoppedCreation, failedDeletion, dueWith .obliging (deleted (some [clusterFinalizer]))]

end Sample

namespace Controller

/-- Of three invocations the last one succeeds. The first one has stopped at the security groups,
and the second one counts both its deletions that have failed. -/
theorem metrics_account_for_sample_attempts :
    (Sample.world []).metrics = {} ∧
    (∀ due ∈ Sample.dues, ∀ world, (due.meanwhile world).metrics = world.metrics) ∧
    let controller : Controller Unit := { world := Sample.world [] }
    let later := (controller.serve Sample.stoppedCreation).2
    let metrics := (controller.after Sample.dues).world.metrics
    metrics.results.total = 3 ∧ metrics.results.count "success" = 1 ∧
    metrics.results.count "error" = 2 ∧
    (later.serve Sample.failedDeletion).2.world.metrics.deletionFailures
      = later.world.metrics.deletionFailures + 2 ∧
    ∃ events, later.world.journal = controller.world.journal ++ events ∧
      Event.StopsAt events .securityGroups := by
  have hunmeasured : (Sample.world []).metrics = {} := rfl
  have hmeanwhile : ∀ due ∈ Sample.dues, ∀ world,
      (due.meanwhile world).metrics = world.metrics := by
    simp only [Sample.dues, List.forall_mem_cons]
    exact ⟨fun _ => rfl, fun _ => rfl, fun _ => rfl, nofun⟩
  obtain ⟨-, htotal, -, hsuccess, -, herror, haccounted⟩ :=
    metrics_account_for_attempts (Sample.world []) Sample.dues hunmeasured hmeanwhile
  have hresults : (Controller.reports { world := Sample.world [] } Sample.dues).map (·.result)
      = [.error (.service .securityGroups (.api "quota")),
        .error (.deleteIncomplete 2 (.serviceDeletion .loadBalancer (.api "in use"))),
        .ok .noRequeue] := by
    decide +kernel
  have hcounts (p : Except ControllerError Outcome → Bool) :=
    List.countP_map.symm.trans (congrArg (List.countP p) hresults)
  obtain ⟨stopping, hstopping, hcreation⟩ := haccounted [] Sample.stoppedCreation ⟨_, rfl⟩
  obtain ⟨deleting, -, hdeletion⟩ :=
    haccounted [Sample.stoppedCreation] Sample.failedDeletion ⟨_, rfl⟩
  simp only [after, List.foldl_cons, List.foldl_nil] at hdeletion hcreation hstopping
  refine ⟨hunmeasured, hmeanwhile, htotal, hsuccess.trans (hcounts (· matches .ok .noRequeue)),
    herror.trans (hcounts (· matches .error _)), ?_, stopping, hstopping, ?_⟩
  · rw [Sample.dues, reports_cons, reports_cons] at hresults
    simp only [List.map_cons, List.cons.injEq] at hresults
    rw [hdeletion.incomplete, hresults.2.1]
    rfl
  · by_contra hnot
    have hkept := (hcreation.stopped .securityGroups).kept fun hstops => hnot hstops.2
    have hcounted : ((({ world := Sample.world [] } : Controller Unit).serve
        Sample.stoppedCreation).2.world.metrics.failureCount .securityGroups "reconcile") = 1 := by
      decide +kernel
    exact Nat.one_ne_zero (hcounted.symm.trans hkept)

end Controller

end ClusterInfra
