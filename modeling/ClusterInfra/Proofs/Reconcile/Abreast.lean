import ClusterInfra.Proofs.Reconcile.Exits
import ClusterInfra.Proofs.Reconcile.Timeless
/-!
Two reconciliations of one object, abreast.

Two worlds may differ in their clocks, in other objects, and in what was reconciled before. An
invocation for the same object under the same script takes the same way in both: each call has the
same result, the same marks are left, and what is persisted is the same apart from times. Only the
clocks tell the two apart, and they decide nothing else.
-/

namespace ClusterInfra

/-! ### The scope and the store -/

/-- Scopes with the same change settle alike, apart from times. -/
theorem Changes.SameChange.settled {a b : Scope} (hsaved : b.saved = a.saved)
    (h : SameChange a.saved a.object b.object) :
    b.settled.map AwsCluster.untimed = a.settled.map AwsCluster.untimed := by
  have hchanges : b.hasChanges = a.hasChanges := by
    have hstatus : decide (a.saved.status ≠ b.object.status)
        = decide (a.saved.status ≠ a.object.status) := by
      rw [decide_eq_decide, ne_comm, ne_comm (b := a.object.status), ne_eq, ne_eq, h.status]
    rw [Scope.hasChanges, Scope.hasChanges, hsaved, hstatus, h.metadata, h.spec]
  have houtcome := h.outcome (Changes.version a.saved a.object)
  have hfinished : (Changes.outcome a.saved b.object
        (Changes.version a.saved a.object)).isFinished
      = (Changes.outcome a.saved a.object (Changes.version a.saved a.object)).isFinished := by
    have hmetadata := congrArg (·.metadata) houtcome
    simp only [AwsCluster.untimed] at hmetadata
    rw [AwsCluster.isFinished, AwsCluster.isFinished, hmetadata]
  simp only [Scope.settled, hsaved, hchanges, h.version, hfinished]
  split
  · split
    · rfl
    · exact congrArg some houtcome
  · rfl

namespace Attempt

variable {σ : Type} {a b c d : Attempt σ} {marks marks' : List Mark} {fit : σ → Prop}

/-- From a fresh scope, ensuring the finalizer is adding and persisting it. -/
theorem Fresh.ensureFinalizer_eq (h : a.Fresh) :
    a.ensureFinalizer = ({ a with scope := a.scope.addFinalizer.2 } : Attempt σ).persist := by
  by_cases hfinalizer : a.scope.object.hasFinalizer = true
  · have hadd : a.scope.addFinalizer = (false, a.scope) := by
      rw [Scope.addFinalizer, if_pos hfinalizer]
    have hchanges : a.scope.hasChanges = false := by simp [Scope.hasChanges, h.object]
    rw [Attempt.ensureFinalizer, hadd]
    exact (persist_of_unchanged hchanges).symm
  · have hadd : a.scope.addFinalizer = (true, a.scope.addFinalizer.2) := by
      rw [Scope.addFinalizer, if_neg hfinalizer]
    rw [Attempt.ensureFinalizer, hadd]

/-- Marks have been left on the stored copy of the object, and nothing else has been done to it but
to its metadata. -/
structure Trails (marks : List Mark) (a : Attempt σ) : Prop extends Closable a where
  calm : a.world.faults = []
  marked : Marked marks a.scope.saved { a.scope.object with metadata := a.scope.saved.metadata }

theorem Fresh.trails (h : a.Fresh) (hcalm : a.world.faults = []) : a.Trails [] where
  held := h.held
  key := by rw [h.object]
  calm := hcalm
  marked := by
    rw [h.object]
    exact .nil _

theorem Secured.trails (h : a.Secured b) (hcalm : a.world.faults = []) : b.Trails [] where
  held := h.held
  key := by rw [h.unstaged]
  calm := by
    obtain ⟨store, faults, hworld, -, hnil⟩ := h.world
    rw [hworld]
    exact hnil hcalm
  marked := by
    rw [h.unstaged]
    exact .nil _

theorem Trails.makes (h : a.Trails marks) (hmakes : a.Makes fit marks' b) :
    b.Trails (marks ++ marks') where
  held := by rw [Attempt.held, hmakes.store, hmakes.saved]; exact h.held
  key := by
    rw [hmakes.saved, ← h.key]
    exact congrArg Metadata.key hmakes.marked.metadata
  calm := by rw [hmakes.faults, h.calm]
  marked := by
    rw [hmakes.saved]
    exact h.marked.trans (hmakes.marked.withMetadata _)

end Attempt

/-! ### The services -/

/-- How a call ends does not depend on the object. -/
theorem Script.answer_congr (script : Script) (call : ServiceCall) (object object' : AwsCluster) :
    (script.answer call object').ending = (script.answer call object).ending ∧
      (script.answer call object').cancelled = (script.answer call object).cancelled := by
  simp only [answer]
  split
  · exact ⟨rfl, rfl⟩
  · split <;> exact ⟨rfl, rfl⟩

namespace Attempt

variable {script : Script} {told told' : List Event} {a b c d : Attempt Script}
  {marks marks' : List Mark} {context : ServiceContext}

/-- Two attempts under a script are in tune if both or none have been cancelled, and both journals
tell of the same events since some time. -/
structure InTune (script : Script) (told told' : List Event) (a b : Attempt Script) : Prop where
  cloud : a.world.cloud = script
  cloud' : b.world.cloud = script
  cancelled : b.cancelled = a.cancelled
  told : ∃ events, a.world.journal.map Event.bare = told ++ events ∧
    b.world.journal.map Event.bare = told' ++ events

theorem InTune.call (h : InTune script told told' a b) (context : ServiceContext)
    (call : ServiceCall) :
    (b.call scriptedCloud context call).1 = (a.call scriptedCloud context call).1 ∧
      InTune script told told' (a.call scriptedCloud context call).2
        (b.call scriptedCloud context call).2 := by
  obtain ⟨events, htold, htold'⟩ := h.told
  rw [call_eq, call_eq, h.cancelled]
  cases hcancelled : a.cancelled with
  | true =>
    refine ⟨rfl, h.cloud, h.cloud', h.cancelled, events ++ [.built context], ?_, ?_⟩
    · simp [log, World.log, htold, Event.bare]
    · simp [log, World.log, htold', Event.bare]
  | false =>
    have hanswer := script.answer_congr call a.scope.object b.scope.object
    have hending : (scriptedCloud.call call context b.scope.object b.world.cloud).1.ending
        = (scriptedCloud.call call context a.scope.object a.world.cloud).1.ending := by
      rw [h.cloud, h.cloud']
      exact hanswer.1
    have hreply : (scriptedCloud.call call context b.scope.object b.world.cloud).1.cancelled
        = (scriptedCloud.call call context a.scope.object a.world.cloud).1.cancelled := by
      rw [h.cloud, h.cloud']
      exact hanswer.2
    refine ⟨?_, h.cloud, h.cloud', ?_, events ++ [.built context, .called call none, .returned call
      (scriptedCloud.call call context a.scope.object a.world.cloud).1.ending], ?_, ?_⟩
    · simp only [Bool.false_eq_true, if_false, hending]
    · simp only [Bool.false_eq_true, if_false, made, absorb, log, World.log, h.cancelled, hending,
        hreply]
    · simp [journal_made, htold, Event.bare]
    · simp [journal_made, htold', hending, Event.bare]

theorem InTune.lookUp (h : InTune script told told' a b) (host : String) :
    (b.lookUp scriptedCloud host).1 = (a.lookUp scriptedCloud host).1 ∧
      InTune script told told' (a.lookUp scriptedCloud host).2
        (b.lookUp scriptedCloud host).2 := by
  obtain ⟨events, htold, htold'⟩ := h.told
  simp only [Attempt.lookUp, h.cancelled]
  cases hcancelled : a.cancelled with
  | true => exact ⟨rfl, h⟩
  | false =>
    have hleft : (a.world.journal ++ [Event.lookedUp host a.held]).map Event.bare
        = told ++ (events ++ [.lookedUp host none]) := by simp [htold, Event.bare]
    have hright : (b.world.journal ++ [Event.lookedUp host b.held]).map Event.bare
        = told' ++ (events ++ [.lookedUp host none]) := by simp [htold', Event.bare]
    simp only [scriptedCloud, h.cloud, h.cloud']
    cases script.resolve host with
    | answered resolves => exact ⟨rfl, rfl, rfl, rfl, _, hleft, hright⟩
    | interrupted => exact ⟨rfl, rfl, rfl, rfl, _, hleft, hright⟩

/-- Two attempts that are in tune work on the same stored copy and have left the same marks on it.
-/
structure Abreast (script : Script) (told told' : List Event) (marks : List Mark)
    (a b : Attempt Script) : Prop extends InTune script told told' a b where
  saved : b.scope.saved = a.scope.saved
  metadata : b.scope.object.metadata = a.scope.object.metadata
  left : a.Trails marks
  right : b.Trails marks

theorem Abreast.untimed (h : Abreast script told told' marks a b) :
    b.scope.object.untimed = a.scope.object.untimed := by
  have hright := h.right.marked
  rw [h.saved] at hright
  have hsame := h.left.marked.untimed hright rfl
  have hspec : b.scope.object.spec = a.scope.object.spec := congrArg (·.spec) hsame
  have hstatus := congrArg (·.status) hsame
  rw [AwsCluster.untimed, AwsCluster.untimed, h.metadata, hspec]
  exact congrArg (AwsCluster.mk _ _) hstatus

theorem Abreast.makes {fit : Script → Prop} (h : Abreast script told told' marks a b)
    (hleft : a.Makes fit marks' c) (hright : b.Makes fit marks' d)
    (htune : InTune script told told' c d) : Abreast script told told' (marks ++ marks') c d where
  toInTune := htune
  saved := by rw [hleft.saved, hright.saved, h.saved]
  metadata := by rw [hleft.marked.metadata, hright.marked.metadata, h.metadata]
  left := h.left.makes hleft
  right := h.right.makes hright

/-! ### The pieces of the passes -/

theorem InTune.carryOut (h : InTune script told told' a b) (context : ServiceContext)
    (call : ServiceCall) :
    (b.carryOut scriptedCloud context call).1 = (a.carryOut scriptedCloud context call).1 ∧
      InTune script told told' (a.carryOut scriptedCloud context call).2
        (b.carryOut scriptedCloud context call).2 := by
  obtain ⟨hresult, htune⟩ := h.call context call
  obtain ⟨metrics, clock, now, hleft⟩ := a.exists_carryOut_eq scriptedCloud context call
  obtain ⟨metrics', clock', now', hright⟩ := b.exists_carryOut_eq scriptedCloud context call
  rw [hleft, hright]
  exact ⟨hresult, htune.cloud, htune.cloud', htune.cancelled, htune.told⟩

namespace Abreast

variable (heffects : script.effects = []) (h : Abreast script told told' marks a b)
include heffects h

theorem fit : script.Varies a.world.cloud ∧ script.Varies b.world.cloud := by
  rw [h.cloud, h.cloud']
  exact ⟨⟨rfl, rfl, heffects⟩, rfl, rfl, heffects⟩

theorem reconcileSubsystem (context : ServiceContext) (subsystem : Subsystem) : ∃ marks',
    (b.reconcileSubsystem scriptedCloud context subsystem).1
        = (a.reconcileSubsystem scriptedCloud context subsystem).1 ∧
      Abreast script told told' (marks ++ marks')
        (a.reconcileSubsystem scriptedCloud context subsystem).2
        (b.reconcileSubsystem scriptedCloud context subsystem).2 ∧
      (marks'.map (·.place)).Sublist subsystem.places ∧
      ((a.reconcileSubsystem scriptedCloud context subsystem).1 = .ok () →
        marks' = creationMarks script a.scope.object.spec.bastion.enabled subsystem (.ok ())) := by
  have hmocks := script.mocks_scriptedCloud
  have hspec : b.scope.object.spec = a.scope.object.spec := congrArg (·.spec) h.untimed
  have hleft := makes_reconcileSubsystem hmocks context subsystem (h.fit heffects).1
  have hright := makes_reconcileSubsystem hmocks context subsystem (h.fit heffects).2
  rw [hspec, (h.toInTune.call context _).1] at hright
  obtain ⟨hresult, htune⟩ := h.toInTune.carryOut context ⟨.reconcile, subsystem⟩
  rw [reconcileSubsystem_eq] at hleft hright ⊢
  rw [reconcileSubsystem_eq, hresult]
  refine ⟨_, rfl, h.makes hleft hright htune, script.places_creationMarks .., fun hok => ?_⟩
  rw [fst_carryOut] at hok
  cases hcall : (a.call scriptedCloud context ⟨.reconcile, subsystem⟩).1 with
  | error e =>
    rw [hcall] at hok
    cases hok
  | ok => rfl

theorem deleteSubsystem (context : ServiceContext) (subsystem : Subsystem) : ∃ marks',
    (b.deleteSubsystem scriptedCloud context subsystem).1
        = (a.deleteSubsystem scriptedCloud context subsystem).1 ∧
      Abreast script told told' (marks ++ marks')
        (a.deleteSubsystem scriptedCloud context subsystem).2
        (b.deleteSubsystem scriptedCloud context subsystem).2 ∧
      (marks'.map (·.place)).Sublist subsystem.places := by
  have hmocks := script.mocks_scriptedCloud
  have hleft := makes_deleteSubsystem hmocks context subsystem (h.fit heffects).1
  have hright := makes_deleteSubsystem hmocks context subsystem (h.fit heffects).2
  rw [(h.toInTune.call context _).1] at hright
  obtain ⟨hresult, htune⟩ := h.toInTune.carryOut context ⟨.delete, subsystem⟩
  rw [deleteSubsystem_eq] at hleft hright ⊢
  rw [deleteSubsystem_eq, hresult]
  exact ⟨_, rfl, h.makes hleft hright htune, subsystem.places_deletionMarks _⟩

theorem awaitDnsName (dnsRequeue : Nat) : ∃ marks',
    (b.awaitDnsName scriptedCloud dnsRequeue).1 = (a.awaitDnsName scriptedCloud dnsRequeue).1 ∧
      Abreast script told told' (marks ++ marks') (a.awaitDnsName scriptedCloud dnsRequeue).2
        (b.awaitDnsName scriptedCloud dnsRequeue).2 ∧
      (marks'.map (·.place)).Sublist
        [.condition ConditionType.loadBalancerReady, .publication] := by
  have hmocks := script.mocks_scriptedCloud
  have hname : b.scope.object.dnsName? = a.scope.object.dnsName? := by
    rw [← b.scope.object.dnsName?_untimed, h.untimed, a.scope.object.dnsName?_untimed]
  have hleft := makes_awaitDnsName hmocks dnsRequeue (h.fit heffects).1
  have hright := makes_awaitDnsName hmocks dnsRequeue (h.fit heffects).2
  simp only [hname, (h.toInTune.lookUp _).1] at hright
  suffices hout : (b.awaitDnsName scriptedCloud dnsRequeue).1
      = (a.awaitDnsName scriptedCloud dnsRequeue).1 ∧ InTune script told told'
        (a.awaitDnsName scriptedCloud dnsRequeue).2 (b.awaitDnsName scriptedCloud dnsRequeue).2 from
    ⟨_, hout.1, h.makes hleft hright hout.2, places_awaitMarks _ _⟩
  cases hhost : a.scope.object.dnsName? with
  | none =>
    simp only [Attempt.awaitDnsName, hname, hhost]
    exact ⟨trivial, h.cloud, h.cloud', h.cancelled, h.told⟩
  | some host =>
    have hlookUp := h.toInTune.lookUp host
    rcases ha : a.lookUp scriptedCloud host with ⟨answer, c⟩
    rcases hb : b.lookUp scriptedCloud host with ⟨answer', d⟩
    rw [ha, hb] at hlookUp
    obtain ⟨hanswer, htune⟩ := hlookUp
    cases (hanswer : answer' = answer)
    rcases answer with _ | _ | _ <;> simp only [Attempt.awaitDnsName, hname, hhost, ha, hb]
    · exact ⟨trivial, htune⟩
    all_goals exact ⟨trivial, htune.cloud, htune.cloud', htune.cancelled, htune.told⟩

/-- Reconciling in order leaves the marks of creation, and those of success if it succeeds. -/
theorem reconcileInOrder (context : ServiceContext) (subsystems : List Subsystem) : ∃ marks',
    (b.reconcileInOrder scriptedCloud context subsystems).1
        = (a.reconcileInOrder scriptedCloud context subsystems).1 ∧
      Abreast script told told' (marks ++ marks')
        (a.reconcileInOrder scriptedCloud context subsystems).2
        (b.reconcileInOrder scriptedCloud context subsystems).2 ∧
      (marks'.map (·.place)).Sublist (subsystems.flatMap Subsystem.places) ∧
      ((a.reconcileInOrder scriptedCloud context subsystems).1 = .ok () →
        marks' = subsystems.flatMap fun subsystem =>
          creationMarks script a.scope.object.spec.bastion.enabled subsystem (.ok ())) := by
  induction subsystems generalizing marks a b with
  | nil => exact ⟨[], rfl, by rwa [List.append_nil], .refl _, fun _ => rfl⟩
  | cons subsystem rest ih =>
    have hmakes := makes_reconcileSubsystem script.mocks_scriptedCloud context subsystem
      (h.fit heffects).1
    obtain ⟨first, hresult, hfirst, hplaces, hdone⟩ :=
      h.reconcileSubsystem heffects context subsystem
    rcases ha : a.reconcileSubsystem scriptedCloud context subsystem with ⟨result, c⟩
    rcases hb : b.reconcileSubsystem scriptedCloud context subsystem with ⟨result', d⟩
    rw [ha] at hmakes hdone
    rw [ha, hb] at hresult hfirst
    cases (hresult : result' = result)
    rw [List.flatMap_cons, List.flatMap_cons]
    cases result with
    | error e =>
      refine ⟨first, ?_, ?_, hplaces.trans (List.sublist_append_left _ _), fun hok => ?_⟩
      · simp only [Attempt.reconcileInOrder, ha, hb]
      · simp only [Attempt.reconcileInOrder, ha, hb]
        exact hfirst
      · simp only [Attempt.reconcileInOrder, ha] at hok
        cases hok
    | ok =>
      obtain ⟨endpoint, hspec⟩ := hmakes.marked.spec
      obtain ⟨marks', hrest, habreast, hplaces', hdone'⟩ := ih hfirst
      simp only [Attempt.reconcileInOrder, ha, hb]
      refine ⟨first ++ marks', hrest, ?_, ?_, fun hok => ?_⟩
      · rw [← List.append_assoc]
        exact habreast
      · rw [List.map_append]
        exact hplaces.append hplaces'
      · rw [hdone rfl, hdone' hok, hspec]

theorem deleteInOrder (context : ServiceContext) (subsystems : List Subsystem) : ∃ marks',
    (b.deleteInOrder scriptedCloud context subsystems).1
        = (a.deleteInOrder scriptedCloud context subsystems).1 ∧
      Abreast script told told' (marks ++ marks')
        (a.deleteInOrder scriptedCloud context subsystems).2
        (b.deleteInOrder scriptedCloud context subsystems).2 ∧
      (marks'.map (·.place)).Sublist (subsystems.flatMap Subsystem.places) := by
  induction subsystems generalizing marks a b with
  | nil => exact ⟨[], rfl, by rwa [List.append_nil], .refl _⟩
  | cons subsystem rest ih =>
    obtain ⟨first, hresult, hfirst, hplaces⟩ := h.deleteSubsystem heffects context subsystem
    obtain ⟨marks', hrest, habreast, hplaces'⟩ := ih hfirst
    refine ⟨first ++ marks', ?_, ?_, ?_⟩
    · simp only [Attempt.deleteInOrder, hresult, hrest]
    · rw [← List.append_assoc]
      exact habreast
    · rw [List.map_append, List.flatMap_cons]
      exact hplaces.append hplaces'

omit heffects in
/-- The finalizer is no mark. -/
theorem removeFinalizer :
    Abreast script told told' marks { a with scope := a.scope.removeFinalizer.2 }
      { b with scope := b.scope.removeFinalizer.2 } := by
  have htrails : ∀ {a : Attempt Script}, a.Trails marks →
      Trails marks { a with scope := a.scope.removeFinalizer.2 } := by
    intro a hleft
    have hsaved : a.scope.removeFinalizer.2.saved = a.scope.saved :=
      a.scope.saved_edit .removeFinalizer
    refine ⟨⟨?_, ?_⟩, hleft.calm, ?_⟩
    · rw [Attempt.held, hsaved]
      exact hleft.held
    · rw [hsaved, ← hleft.key]
      exact a.scope.key_edit .removeFinalizer
    · rw [hsaved, Scope.object_removeFinalizer]
      exact hleft.marked
  refine ⟨⟨h.cloud, h.cloud', h.cancelled, h.told⟩, ?_, ?_, htrails h.left, htrails h.right⟩
  · exact (b.scope.saved_edit .removeFinalizer).trans
      (h.saved.trans (a.scope.saved_edit .removeFinalizer).symm)
  · rw [Scope.object_removeFinalizer, Scope.object_removeFinalizer, h.metadata]

/-! ### The passes -/

theorem runDelete (hscope : b.scope.context = a.scope.context) : ∃ marks',
    (b.runDelete scriptedCloud).1 = (a.runDelete scriptedCloud).1 ∧
      Abreast script told told' (marks ++ marks') (a.runDelete scriptedCloud).2
        (b.runDelete scriptedCloud).2 ∧
      Mark.Apart marks' := by
  obtain ⟨marks', hresult, habreast, hplaces⟩ :=
    h.deleteInOrder heffects a.scope.context Subsystem.deletionOrder
  have hnodup : (Mark.summary.place :: Subsystem.deletionOrder.flatMap
      Subsystem.places).Nodup := by decide
  refine ⟨marks', ?_⟩
  rcases ha : a.deleteInOrder scriptedCloud a.scope.context Subsystem.deletionOrder with ⟨errors, c⟩
  rcases hb : b.deleteInOrder scriptedCloud a.scope.context Subsystem.deletionOrder with
    ⟨errors', d⟩
  rw [ha, hb] at hresult habreast
  cases (hresult : errors' = errors)
  rw [← hscope] at hb
  cases errors with
  | nil =>
    rw [runDelete_of_nil ha, runDelete_of_nil hb]
    exact ⟨rfl, habreast.removeFinalizer, hnodup.sublist (hplaces.cons_cons _)⟩
  | cons first others =>
    rw [runDelete_of_cons ha, runDelete_of_cons hb]
    exact ⟨rfl, habreast, hnodup.sublist (hplaces.cons_cons _)⟩

/-- Once the finalizer has been ensured. -/
theorem runNormal (hleft : c.ensureFinalizer = (.ok (), a)) (hright : d.ensureFinalizer = (.ok (), b))
    (hscope : b.scope.context = a.scope.context) (dnsRequeue : Nat) : ∃ marks',
    (d.runNormal scriptedCloud dnsRequeue).1 = (c.runNormal scriptedCloud dnsRequeue).1 ∧
      Abreast script told told' (marks ++ marks') (c.runNormal scriptedCloud dnsRequeue).2
        (d.runNormal scriptedCloud dnsRequeue).2 ∧
      Mark.Apart marks' := by
  have hnodup : (Mark.summary.place :: Place.normal).Nodup := by decide
  obtain ⟨marks', hresult, habreast, hplaces, hdone⟩ :=
    h.reconcileInOrder heffects a.scope.context Subsystem.creationOrder
  rcases ha : a.reconcileInOrder scriptedCloud a.scope.context Subsystem.creationOrder with
    ⟨result, c'⟩
  rcases hb : b.reconcileInOrder scriptedCloud a.scope.context Subsystem.creationOrder with
    ⟨result', d'⟩
  rw [ha] at hdone
  rw [ha, hb] at hresult habreast
  cases (hresult : result' = result)
  simp only [Attempt.runNormal, hleft, hright, hscope, ha, hb]
  cases result with
  | error e =>
    have hnormal := hplaces.trans (List.sublist_append_left _ [Place.publication])
    exact ⟨marks', rfl, habreast, hnodup.sublist (hnormal.cons_cons _)⟩
  | ok =>
    obtain ⟨awaited, hawait, hawaited, hplaces'⟩ := habreast.awaitDnsName heffects dnsRequeue
    refine ⟨marks' ++ awaited, hawait, ?_, hnodup.sublist (List.Sublist.cons_cons _ ?_)⟩
    · rw [← List.append_assoc]
      exact hawaited
    · rw [List.map_append, hdone rfl]
      exact (script.places_done _).append hplaces'

end Abreast

end Attempt

end ClusterInfra
