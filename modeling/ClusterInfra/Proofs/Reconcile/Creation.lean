import ClusterInfra.Proofs.Reconcile.Retention
/-!
The finalizer is stored before anything is created.

An attempt starts with the stored copy of its object. If that copy lacks the finalizer, the normal
pass adds it and persists, and goes on only if that came through; nothing else is written before the
pass is over. So every call that creates something is made while the finalizer is stored.
-/

namespace ClusterInfra

variable {σ : Type} {cloud : Cloud σ}

/-- A change that touches the finalizer is one to persist. -/
theorem Scope.hasChanges_of_hasFinalizer_ne {scope : Scope}
    (h : scope.saved.hasFinalizer ≠ scope.object.hasFinalizer) : scope.hasChanges = true := by
  have hne : scope.saved.metadata.finalizers ≠ scope.object.metadata.finalizers := fun heq => by
    refine h ?_
    simp only [AwsCluster.hasFinalizer, Metadata.hasFinalizer, heq]
  simp [Scope.hasChanges, hne]

namespace Attempt

/-- The scope is as it was loaded, and the store still holds what was loaded. -/
structure Fresh (a : Attempt σ) : Prop where
  held : a.held = some a.scope.saved
  object : a.scope.object = a.scope.saved

/-- The store holds the object of an attempt, with the finalizer. -/
def Protected (key : ObjectKey) (held : Option AwsCluster) : Prop :=
  ∃ object, held = some object ∧ object.key = key ∧ object.hasFinalizer = true

/-- If the finalizer has been ensured, the stored copy of the object has it. -/
theorem protected_of_ensureFinalizer {a b : Attempt σ} (hfresh : a.Fresh)
    (h : a.ensureFinalizer = (.ok (), b)) : Protected a.scope.saved.key b.held := by
  rw [ensureFinalizer] at h
  by_cases hfinalizer : a.scope.object.hasFinalizer = true
  · rw [Scope.addFinalizer, if_pos hfinalizer] at h
    cases h
    exact ⟨a.scope.saved, hfresh.held, rfl, hfresh.object ▸ hfinalizer⟩
  · have hadded := a.scope.hasFinalizer_addFinalizer
    rw [Scope.addFinalizer, if_neg hfinalizer] at h hadded
    rw [hfresh.object, Bool.not_eq_true] at hfinalizer
    simp only at h hadded
    -- What is persisted takes the loaded object to one with the finalizer, under the same key.
    generalize hscope : a.scope.setFinalizers _ = scope at h hadded
    have hsaved : scope.saved = a.scope.saved := by rw [← hscope]; rfl
    have hkey : scope.object.key = a.scope.saved.key := by
      rw [← hscope, ← hfresh.object]
      rfl
    have hheld := hfresh.held
    rw [Attempt.held, ← hkey] at hheld
    have hpersists := persists_of_persist { a with scope }
    rw [h] at hpersists
    cases hpersists with
    | unchanged hchanges =>
      have hne : scope.saved.hasFinalizer ≠ scope.object.hasFinalizer := by
        rw [hsaved, hfinalizer, hadded]
        decide
      rw [Scope.hasChanges_of_hasFinalizer_ne hne] at hchanges
      cases hchanges
    | @done version stored patches store faults hpersisted halters =>
      simp only [hheld, hsaved] at hpersisted
      obtain ⟨updated, rfl, hupdated⟩ := hpersisted.hasFinalizer_of_added hfinalizer hadded
      exact ⟨updated, halters.stored, hpersisted.sameObject.key, hupdated⟩

/-- Ensuring the finalizer makes no calls. -/
theorem journal_ensureFinalizer (a : Attempt σ) :
    a.ensureFinalizer.2.world.journal = a.world.journal := by
  unfold ensureFinalizer
  split
  next => rfl
  next scope _ => exact (persists_of_persist { a with scope }).journal

/-- In a normal pass every call is made while the finalizer is stored. -/
theorem journal_runNormal (hquiet : cloud.Quiet) (dnsRequeue : Nat) {a : Attempt σ}
    (hfresh : a.Fresh) : ∃ events,
      (a.runNormal cloud dnsRequeue).2.world.journal = a.world.journal ++ events ∧
      ∀ call held, Event.called call held ∈ events → Protected a.scope.saved.key held := by
  have hensured := journal_ensureFinalizer a
  rcases hensure : a.ensureFinalizer with ⟨e | _, b⟩ <;> rw [hensure] at hensured
  · rw [runNormal_of_error hensure]
    exact ⟨[], by rw [hensured, List.append_nil], fun _ _ hmem => nomatch hmem⟩
  · have hkeeps : cloud.Keeps (fun _ => ()) := fun _ _ _ _ => rfl
    have hwork := advances_runNormal hquiet hkeeps dnsRequeue hensure
    obtain ⟨events, hevents, hcalled⟩ := hwork.journal
    refine ⟨events, by rw [hevents, hensured], fun call held hmem => ?_⟩
    rw [(hcalled call held hmem).2]
    exact protected_of_ensureFinalizer hfresh hensure

/-- A delete pass only deletes. -/
theorem journal_runDelete (hquiet : cloud.Quiet) (a : Attempt σ) : ∃ events,
    (a.runDelete cloud).2.world.journal = a.world.journal ++ events ∧
      ∀ call held, Event.called call held ∈ events → call.action = .delete := by
  have hkeeps : cloud.Keeps (fun _ => ()) := fun _ _ _ _ => rfl
  have horder := advances_deleteInOrder hquiet hkeeps a.scope.context Subsystem.deletionOrder a
  obtain ⟨events, hevents, hcalled⟩ := horder.journal
  refine ⟨events, ?_, fun call held hmem => (hcalled call held hmem).1⟩
  rcases hdelete : a.deleteInOrder cloud a.scope.context Subsystem.deletionOrder with
    ⟨_ | ⟨first, others⟩, b⟩ <;> rw [hdelete] at hevents
  · rw [runDelete_of_nil hdelete]
    exact hevents
  · rw [runDelete_of_cons hdelete]
    exact hevents

theorem journal_run (cloud : Cloud σ) (dnsRequeue : Nat) (deleting : Bool) (a : Attempt σ) :
    (run cloud dnsRequeue deleting a).2.world.journal
      = (if deleting then a.runDelete cloud
          else a.runNormal cloud dnsRequeue).2.world.journal := by
  rw [run, finish_snd, journal_close]

/-- An invocation whose finalizer cannot be stored fails before any call. -/
theorem run_of_error {dnsRequeue : Nat} {a : Attempt σ} {e : ControllerError}
    (h : a.ensureFinalizer.1 = .error e) :
    (run cloud dnsRequeue false a).1 = .error e ∧
      (run cloud dnsRequeue false a).2.world.journal = a.world.journal := by
  have hensured := journal_ensureFinalizer a
  rcases hensure : a.ensureFinalizer with ⟨result, b⟩
  rw [hensure] at h hensured
  subst h
  refine ⟨?_, ?_⟩
  · rw [run, if_neg (by decide), runNormal_of_error hensure, finish_error]
  · rw [journal_run, if_neg (by decide), runNormal_of_error hensure]
    exact hensured

end Attempt

namespace World

/-- An invocation that is admitted starts with the stored copy of the object. -/
theorem Admits.fresh {world : World σ} {key : ObjectKey} {mode : Mode} {scope : Scope}
    (h : world.Admits key mode scope) (hkeyed : world.store.Keyed) (faults : List StoreFault)
    (cancelled : Bool) : Attempt.Fresh
      ({ world := { world with faults }, scope, cancelled } : Attempt σ) := by
  refine ⟨?_, h.object⟩
  rw [Attempt.held, hkeyed key scope.saved h.stored]
  exact h.stored

/-- In an invocation, every call that creates or updates something is made while the finalizer is
stored, and there is no call if it cannot be stored. -/
theorem protected_of_invoked {world : World σ} (hkeyed : world.store.Keyed) (hquiet : cloud.Quiet)
    {dnsRequeue : Nat} {key : ObjectKey} {cancelled : Bool}
    {result : Except ControllerError Outcome} {after : World σ}
    (hinvoked : world.Invoked cloud dnsRequeue key cancelled (result, after)) :
    ∃ events, after.journal = world.journal ++ events ∧
      (∀ call held, Event.called call held ∈ events → call.action = .reconcile →
        Attempt.Protected key held) ∧
      ∀ scope entered e, world.enter key = (.ok (some (.active, scope)), entered) →
        (Attempt.ensureFinalizer { world := entered, scope, cancelled }).1 = .error e →
        result = .error e ∧ events = [] := by
  cases hinvoked with
  | failed hentry =>
    refine ⟨[], (List.append_nil _).symm, fun _ _ hmem => (nomatch hmem), ?_⟩
    intro scope entered e henter
    rw [hentry] at henter
    cases henter
  | skipped hentry =>
    refine ⟨[], (List.append_nil _).symm, fun _ _ hmem => (nomatch hmem), ?_⟩
    intro scope entered e henter
    rw [hentry] at henter
    cases henter
  | @passed mode scope faults hentry hadmits _ a hrun =>
    have hfresh := hadmits.fresh hkeyed faults cancelled
    have hjournal := Attempt.journal_run cloud dnsRequeue (mode = .deleting)
      { world := { world with faults }, scope, cancelled }
    rw [hrun] at hjournal
    rw [hjournal]
    rcases hadmits.live with rfl | rfl
    · obtain ⟨events, hevents, hprotected⟩ := Attempt.journal_runNormal hquiet dnsRequeue hfresh
      refine ⟨events, hevents, fun call held hmem _ => ?_, ?_⟩
      · rw [← hkeyed key scope.saved hadmits.stored]
        exact hprotected call held hmem
      · intro scope' entered e henter hensure
        rw [hentry] at henter
        cases henter
        have hfailed : (Attempt.run cloud dnsRequeue false _).1 = _ ∧ _ :=
          Attempt.run_of_error hensure
        change Attempt.run cloud dnsRequeue false _ = _ at hrun
        rw [hrun] at hfailed
        have hnothing : world.journal ++ events = world.journal ++ [] := by
          rw [← hevents, List.append_nil]
          exact hjournal.symm.trans hfailed.2
        exact ⟨hfailed.1, List.append_cancel_left hnothing⟩
    · obtain ⟨events, hevents, hdelete⟩ := Attempt.journal_runDelete hquiet
        { world := { world with faults }, scope, cancelled }
      refine ⟨events, hevents, fun call held hmem haction => ?_, ?_⟩
      · rw [hdelete call held hmem] at haction
        cases haction
      · intro scope' entered e henter
        rw [hentry] at henter
        cases henter

/-- Whatever happens in a run, every call that creates or updates something is made while the stored
copy of the object has the finalizer, and an invocation that fails to store the finalizer makes no
call. -/
theorem finalizer_stored_before_creation (hquiet : cloud.Quiet) {dnsRequeue : Nat}
    {world : World σ} (hworld : world.Reachable cloud dnsRequeue) (key : ObjectKey)
    (cancelled : Bool) :
    ∃ events, (world.reconcile cloud dnsRequeue key cancelled).2.journal
        = world.journal ++ events ∧
      (∀ call held, Event.called call held ∈ events → call.action = .reconcile →
        ∃ object, held = some object ∧ object.key = key ∧ object.hasFinalizer = true) ∧
      ∀ scope entered e, world.enter key = (.ok (some (.active, scope)), entered) →
        (Attempt.ensureFinalizer { world := entered, scope, cancelled }).1 = .error e →
        (world.reconcile cloud dnsRequeue key cancelled).1 = .error e ∧ events = [] :=
  protected_of_invoked (hworld.keyed hquiet) hquiet (invoked_reconcile ..)

/-- An object without finalizers gets one before its network is created. If that is not stored, the
network is not created. -/
theorem finalizer_stored_before_sample_creation :
    (∃ held, Event.called ⟨.reconcile, .network⟩ held ∈ ((Sample.holding
        (Sample.object none)).reconcile Cloud.obliging 15 Sample.key false).2.journal ∧
      ∃ object, held = some object ∧ object.key = Sample.key ∧ object.hasFinalizer = true) ∧
    ∃ events, ((Sample.world Sample.refusing).reconcile Cloud.obliging 15 Sample.key
        false).2.journal = (Sample.world Sample.refusing).journal ++ events ∧
      ((Sample.world Sample.refusing).reconcile Cloud.obliging 15 Sample.key false).1
        = .error (.io "conflict") ∧ events = [] := by
  refine ⟨?_, ?_⟩
  · have hmem : (⟨.reconcile, .network⟩ : ServiceCall) ∈ Event.calls ((Sample.holding
        (Sample.object none)).reconcile Cloud.obliging 15 Sample.key false).2.journal := by
      decide +kernel
    obtain ⟨held, hcalled⟩ := Event.mem_calls.1 hmem
    obtain ⟨events, hevents, hprotected, -⟩ := finalizer_stored_before_creation
      Cloud.quiet_obliging (Sample.reachable_holding (Sample.object none)) Sample.key false
    have hcalled' := hcalled
    rw [hevents] at hcalled'
    have hjournal : (Sample.holding (Sample.object none)).journal = [] := rfl
    rw [hjournal, List.nil_append] at hcalled'
    exact ⟨held, hcalled, hprotected _ held hcalled' rfl⟩
  · obtain ⟨events, hevents, -, hfailed⟩ := finalizer_stored_before_creation
      Cloud.quiet_obliging (Sample.reachable_world Sample.refusing) Sample.key false
    have hentered : ((Sample.world Sample.refusing).enter Sample.key).1 = .ok (some (.active,
        ⟨Sample.owner, Sample.object none, Sample.object none⟩)) := by
      decide +kernel
    exact ⟨events, hevents, hfailed _ _ _ (Prod.ext hentered rfl) (by decide +kernel)⟩

end World

end ClusterInfra
