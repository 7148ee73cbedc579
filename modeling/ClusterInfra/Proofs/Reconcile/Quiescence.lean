import ClusterInfra.Proofs.Reconcile.Calm
import ClusterInfra.Proofs.Reconcile.Closing
import ClusterInfra.Proofs.Reconcile.Scripted
/-!
A reconciliation that is repeated finds nothing to do.

A pass whose services follow a plain script leaves its marks settled in the stored object. The next
one takes the same course, so the marks that it leaves change nothing and nothing is written: no
patch, no version and no time. So the reconciler is not woken by its own writes more than once.
-/

namespace ClusterInfra

/-- What marks were left on is a later state of the object. -/
theorem AwsCluster.Continues.of_marked {marks : List Mark} {a b : AwsCluster}
    (h : Marked marks a b) : a.Continues b := ⟨⟨_, _, h.metadata⟩, h.spec⟩

namespace Attempt

variable {σ : Type}

/-- The scope is in step with a store without faults and has nothing staged, and its object has the
finalizer. -/
structure Anchored (a : Attempt σ) : Prop extends InStep a where
  calm : a.world.faults = []
  object : a.scope.object = a.scope.saved
  finalizer : a.scope.object.hasFinalizer = true

variable {script : Script} {course : Course (Except ControllerError Outcome)} {a b : Attempt Script}
  {out : Except ControllerError Outcome × Attempt Script}

/-- A pass has come to rest: it took its course, what it marked is stored, and it would write
nothing if all of it had been settled before. -/
structure Rests (script : Script) (course : Course (Except ControllerError Outcome))
    (a : Attempt Script) (out : Except ControllerError Outcome × Attempt Script) : Prop where
  result : out.1 = course.result
  told : ∃ events, out.2.world.journal = a.world.journal ++ events ∧
    events.map Event.bare = course.events
  undisturbed : out.2.Undisturbed script
  anchored : out.2.Anchored
  cluster : out.2.scope.cluster = a.scope.cluster
  clusters : out.2.world.store.clusters = a.world.store.clusters
  continues : a.scope.object.Continues out.2.scope.object
  akin : (∀ mark ∈ course.marks, mark.Routine script (script.prospect a.scope.object)) →
    script.Akin a.scope.object out.2.scope.object
  settled : ∀ mark ∈ course.marks ++ [.summary], mark.Settled out.2.scope.object
  still : a.scope.object.hasFinalizer = true →
    (∀ mark ∈ course.marks ++ [.summary], mark.Settled a.scope.object) →
      out.2.world.store = a.world.store

theorem hasChanges_eq_false {scope : Scope} (h : scope.object = scope.saved) :
    scope.hasChanges = false := by
  simp [Scope.hasChanges, h]

/-- A scope with the finalizer, which has staged nothing else for the finalizers, arrives when it
persists. -/
theorem InStep.persist_anchored {a : Attempt σ} (h : a.InStep) (hcalm : a.world.faults = [])
    (hown : a.StagesOwnFinalizer) (hfinalizer : a.scope.object.hasFinalizer = true) :
    ∃ version store b, b = ({ a with
        world := { a.world with store }, scope := a.scope.rebased version } : Attempt σ) ∧
      a.persist = (.ok (), b) ∧ b.Anchored := by
  rcases h.persist_own hown hfinalizer with
    ⟨_, _, hne, -⟩ | ⟨version, store, faults, b, hnil, rfl, heq, hstep⟩
  · exact absurd hcalm hne
  · have hfaults : faults = a.world.faults := (hnil hcalm).trans hcalm.symm
    subst hfaults
    exact ⟨version, store, _, rfl, heq, { hstep with
      calm := hcalm, object := rfl, finalizer := hfinalizer }⟩

theorem makes_concluded {fit : σ → Prop} (a : Attempt σ) : a.Makes fit [.summary] a.concluded :=
  makes_update (fun now scope => scope.stages_conclude now) fun now => .single .summary now _

/-- Marks leave the scope in step, since they work neither on the store nor on the metadata. -/
theorem InStep.makes {fit : σ → Prop} {marks : List Mark} {a b : Attempt σ} (h : a.InStep)
    (hmakes : a.Makes fit marks b) : b.InStep where
  held := by
    rw [Attempt.held, hmakes.store, hmakes.saved]
    exact h.held
  identity := by
    rw [Scope.KeepsIdentity, hmakes.saved, hmakes.marked.metadata]
    exact h.identity

theorem StagesOwnFinalizer.makes {fit : σ → Prop} {marks : List Mark} {a b : Attempt σ}
    (h : a.StagesOwnFinalizer) (hmakes : a.Makes fit marks b) : b.StagesOwnFinalizer := by
  rw [StagesOwnFinalizer, hmakes.saved, hmakes.marked.metadata]
  exact h

/-- A pass that took its course comes to rest. -/
theorem Anchored.rests (h : a.Anchored) (hruns : Runs script course a out)
    (hapart : Mark.Apart course.marks) : Rests script course a (finish out) := by
  rcases out with ⟨result, b⟩
  have hmakes : a.Makes (· = script) course.marks b := hruns.makes
  have hplaces := List.nodup_cons.1 hapart
  have hobject : b.concluded.scope.object
      = Mark.summary.apply b.world.clock.read.1 b.scope.object := rfl
  have hconcluded := hmakes.trans (makes_concluded b)
  have hstep := h.toInStep.makes hconcluded
  have hown : b.concluded.StagesOwnFinalizer := by
    refine StagesOwnFinalizer.makes ?_ hconcluded
    rw [StagesOwnFinalizer, h.object]
    exact .kept _
  have hfinalizer : b.concluded.scope.object.hasFinalizer = true := by
    rw [AwsCluster.hasFinalizer, hconcluded.marked.metadata]
    exact h.finalizer
  obtain ⟨version, store, c, hc, hpersist, hanchored⟩ :=
    hstep.persist_anchored (hconcluded.faults.trans h.calm) hown hfinalizer
  have hfinish : finish (result, b) = (result, c) := by
    have hclose : b.close = (.ok (), c) := hpersist
    cases result <;> simp only [finish, hclose]
  have hclusters := b.concluded.clusters_persist
  rw [hpersist] at hclusters
  rw [hfinish]
  have hfinal : c.scope.object = b.concluded.scope.object.withVersion version := by
    rw [hc]
    rfl
  refine {
    result := hruns.result
    anchored := hanchored
    clusters := hclusters.trans (congrArg Store.clusters hmakes.store)
    told := ?told, undisturbed := ?undisturbed, cluster := ?cluster, continues := ?continues
    akin := ?akin, settled := ?settled, still := ?still }
  case told =>
    rw [hc]
    exact hruns.told
  case undisturbed =>
    rw [hc]
    exact ⟨hruns.undisturbed.plain, hruns.undisturbed.cloud, hruns.undisturbed.cancelled⟩
  case cluster =>
    rw [hc]
    exact hmakes.cluster
  case continues =>
    rw [hfinal]
    exact (AwsCluster.Continues.of_marked hconcluded.marked).trans (.withVersion _ version)
  case akin =>
    intro hroutine
    rw [hfinal]
    refine (Script.Akin.of_marked hconcluded.marked ?_).trans (.withVersion _ version)
    exact List.forall_mem_append.2 ⟨hroutine, by simp [Mark.Routine]⟩
  case settled =>
    intro mark hmem
    have hmark := hmakes.marked.settled_of_concluded hplaces.2
      (fun other hother heq => hplaces.1 (heq ▸ List.mem_map_of_mem hother))
      b.world.clock.read.1 mark hmem
    exact hmark.congr (by rw [hfinal]; rfl) (by rw [hfinal]; rfl)
  case still =>
    -- Neither the marks nor the summary change anything, so there is nothing to persist.
    intro _ hsettled
    rw [List.forall_mem_append] at hsettled
    have hunmarked : b.scope.object = a.scope.object := hmakes.marked.eq_of_settled hsettled.1
    have hsummary : b.concluded.scope.object = a.scope.object := by
      rw [hobject, hunmarked]
      exact (hsettled.2 _ (List.mem_singleton_self _)).apply_eq_self _
    have hunchanged : b.concluded.scope.hasChanges = false :=
      hasChanges_eq_false (by rw [hsummary, hconcluded.saved, h.object])
    have hsame : b.concluded = c := by
      have hpersist' := persist_of_unchanged hunchanged
      rw [hpersist] at hpersist'
      exact (congrArg Prod.snd hpersist').symm
    rw [← hsame]
    exact hmakes.store

/-- The scope was just loaded from a store without faults, and it holds what the store holds. -/
structure Loaded (a : Attempt σ) : Prop extends InStep a where
  calm : a.world.faults = []
  object : a.scope.object = a.scope.saved

/-- The finalizer has been ensured, and nothing else was done. -/
structure Ensured (a b : Attempt σ) : Prop where
  anchored : b.Anchored
  object : ∃ version, b.scope.object = a.scope.addFinalizer.2.object.withVersion version
  cluster : b.scope.cluster = a.scope.cluster
  clusters : b.world.store.clusters = a.world.store.clusters
  cloud : b.world.cloud = a.world.cloud
  journal : b.world.journal = a.world.journal
  cancelled : b.cancelled = a.cancelled
  kept : a.scope.object.hasFinalizer = true → b = a

theorem Loaded.ensureFinalizer {a : Attempt σ} (h : a.Loaded) :
    ∃ b, a.ensureFinalizer = (.ok (), b) ∧ a.Ensured b := by
  have hfresh : a.Fresh := ⟨h.held, h.object⟩
  rcases hfresh.ensureFinalizer with ⟨_, _, hne, -⟩ | ⟨b, heq, hsecured⟩
  · exact absurd h.calm hne
  · obtain ⟨store, faults, hworld, hclusters, hnil⟩ := hsecured.world
    refine ⟨b, heq, {
      anchored := { hsecured.toInStep with
        calm := by rw [hworld]; exact hnil h.calm
        object := hsecured.unstaged
        finalizer := hsecured.finalizer }
      object := hsecured.object, cluster := hsecured.cluster, cancelled := hsecured.cancelled
      clusters := by rw [hworld]; exact hclusters
      cloud := by rw [hworld]
      journal := by rw [hworld]
      kept := hsecured.kept }⟩

theorem Anchored.loaded {a : Attempt σ} (h : a.Anchored) : a.Loaded := { h with }

/-- A pass whose script and object have nothing to choose comes to rest. -/
theorem Loaded.rests {a : Attempt Script} (h : a.Loaded) (hscript : a.Undisturbed script)
    (dnsRequeue : Nat) (deleting : Bool)
    (hdeleting : deleting = true → a.scope.object.hasFinalizer = true ∧
      (script.deletionCourse a.scope.context Subsystem.deletionOrder).result ≠ []) :
    Rests script (script.passCourse a.scope.context dnsRequeue deleting a.scope.object) a
      (run scriptedCloud dnsRequeue deleting a) := by
  have hapart := script.apart_passCourse a.scope.context dnsRequeue deleting a.scope.object
  cases deleting with
  | true =>
    obtain ⟨hfinalizer, hfails⟩ := hdeleting rfl
    have hanchored : a.Anchored := { h with finalizer := hfinalizer }
    exact hanchored.rests (hscript.runDelete hfails) hapart
  | false =>
    obtain ⟨b, hensure, hensured⟩ := h.ensureFinalizer
    have hb : b.Undisturbed script := ⟨hscript.plain, hensured.cloud.trans hscript.cloud,
      hensured.cancelled.trans hscript.cancelled⟩
    obtain ⟨version, hobject⟩ := hensured.object
    have hruns := hb.runNormal hensure dnsRequeue
    have hcontinues : a.scope.object.Continues b.scope.object := by
      rw [hobject]
      exact (AwsCluster.Continues.addFinalizer a.scope).trans (.withVersion _ version)
    have hakin : script.Akin a.scope.object b.scope.object := by
      rw [hobject]
      exact (Script.Akin.addFinalizer a.scope).trans (.withVersion _ version)
    have hcourse : script.normalCourse b.scope.context dnsRequeue b.scope.object
        = script.passCourse a.scope.context dnsRequeue false a.scope.object := by
      rw [Scope.context_continues hcontinues, hakin.normalCourse]
      rfl
    rw [hcourse] at hruns
    have hrests := hensured.anchored.rests hruns hapart
    refine { hrests with
      told := hensured.journal ▸ hrests.told
      cluster := hrests.cluster.trans hensured.cluster
      clusters := hrests.clusters.trans hensured.clusters
      continues := hcontinues.trans hrests.continues
      akin := fun hroutine => hakin.trans (hrests.akin ?_)
      still := fun hfinalizer hsettled => ?_ }
    · rw [hakin.prospect]
      exact hroutine
    cases hensured.kept hfinalizer
    exact hrests.still hfinalizer hsettled

/-- What is stored is what the pass ended with. -/
theorem Rests.stored (h : Rests script course a out) :
    out.2.world.store.awsClusters.get? a.scope.object.key = some out.2.scope.object := by
  rw [← h.continues.key, h.anchored.object]
  exact h.anchored.held

/-- The next pass over an object at rest takes the same course and stores nothing. -/
theorem Rests.again {dnsRequeue : Nat} {deleting : Bool} (h : Rests script
      (script.passCourse a.scope.context dnsRequeue deleting a.scope.object) a out)
    (hdeleting : deleting = true →
      (script.deletionCourse a.scope.context Subsystem.deletionOrder).result ≠ []) :
    Rests script (script.passCourse a.scope.context dnsRequeue deleting a.scope.object) out.2
        (run scriptedCloud dnsRequeue deleting out.2) ∧
      (run scriptedCloud dnsRequeue deleting out.2).2.world.store = out.2.world.store := by
  have hcontext : out.2.scope.context = a.scope.context := Scope.context_continues h.continues
  have hcourse : script.passCourse out.2.scope.context dnsRequeue deleting out.2.scope.object
      = script.passCourse a.scope.context dnsRequeue deleting a.scope.object := by
    rw [hcontext]
    cases deleting with
    | true => rfl
    | false =>
      have hakin := h.akin (script.routine_normalCourse _ dnsRequeue _)
      exact hakin.normalCourse _ dnsRequeue
  have hrests := h.anchored.loaded.rests h.undisturbed dnsRequeue deleting fun hmode =>
    ⟨h.anchored.finalizer, by rw [hcontext]; exact hdeleting hmode⟩
  rw [hcourse] at hrests
  exact ⟨hrests, hrests.still h.anchored.finalizer h.settled⟩

end Attempt

namespace World

variable {script : Script} {world : World Script} {key : ObjectKey} {mode : Mode} {scope : Scope}

/-- An admitted invocation starts with the scope in step. -/
theorem Admits.inStep {σ : Type} {world : World σ} (h : world.Admits key mode scope)
    (hkey : scope.saved.key = key) (faults : List StoreFault) (cancelled : Bool) :
    ({ world := { world with faults }, scope, cancelled } : Attempt σ).InStep where
  held := by
    rw [Attempt.held, hkey]
    exact h.stored
  identity := by
    rw [Scope.KeepsIdentity, h.object]
    rfl

/-- Without faults, an admitted invocation starts with the scope loaded. -/
theorem Admits.loaded {σ : Type} {world : World σ} (h : world.Admits key mode scope)
    (hkey : scope.saved.key = key) (hcalm : world.faults = []) (cancelled : Bool) :
    ({ world, scope, cancelled } : Attempt σ).Loaded :=
  { h.inStep hkey world.faults cancelled with
    calm := hcalm
    object := h.object }

/-- An invocation after a pass that came to rest starts where the pass ended, in the same mode. -/
theorem reconcile_of_rests {course : Course (Except ControllerError Outcome)}
    {out : Except ControllerError Outcome × Attempt Script} (hadmits : world.Admits key mode scope)
    (hkeyed : world.store.Keyed)
    (hentry : world.store.entry key = .ok (some (mode, scope)))
    (hrests : Attempt.Rests script course { world, scope, cancelled := false } out)
    (dnsRequeue : Nat) : out.2.world.reconcile scriptedCloud dnsRequeue key false
      = ((Attempt.run scriptedCloud dnsRequeue (mode = .deleting) out.2).1,
        (Attempt.run scriptedCloud dnsRequeue (mode = .deleting) out.2).2.world) := by
  rcases out with ⟨result, ⟨after, ⟨cluster, object, saved⟩, cancelled⟩⟩
  have hcontinues : scope.saved.Continues object := hadmits.object ▸ hrests.continues
  cases (hrests.anchored.object : object = saved)
  cases (hrests.cluster : cluster = scope.cluster)
  cases (hrests.undisturbed.cancelled : cancelled = false)
  have hstored : after.store.awsClusters.get? scope.object.key = some object := hrests.stored
  rw [hadmits.object, hkeyed key scope.saved hadmits.stored] at hstored
  refine reconcile_of_entry hrests.anchored.calm scriptedCloud dnsRequeue false ?_
  rw [Store.entry_continues hrests.clusters hadmits.stored hstored hcontinues, hentry]
  rfl

/-- After a reconciliation whose services follow a plain script, which nobody cancels and no fault
hits, the next one does the same with the same result, and writes nothing. For an object that is
being deleted this is so while it cannot go: while it has the finalizer and some deletion fails. -/
theorem quiescent_after_reconcile (hplain : script.Plain) (hscript : world.cloud = script)
    (hcalm : world.faults = []) (hkeyed : world.store.Keyed) (dnsRequeue : Nat) (key : ObjectKey)
    (hdeleting : ∀ object, world.store.awsClusters.get? key = some object →
      object.metadata.isDeleting = true → object.hasFinalizer = true ∧
        ∃ subsystem, (script.failures.get? ⟨.delete, subsystem⟩).isSome = true) :
    let first := world.reconcile scriptedCloud dnsRequeue key false
    let second := first.2.reconcile scriptedCloud dnsRequeue key false
    second.1 = first.1 ∧ second.2.store = first.2.store ∧
    ∃ events events', first.2.journal = world.journal ++ events ∧
      second.2.journal = first.2.journal ++ events' ∧
      events'.map Event.bare = events.map Event.bare := by
  intro first second
  by_cases hpass : ∃ mode scope, world.store.entry key = .ok (some (mode, scope))
  · obtain ⟨mode, scope, hentry⟩ := hpass
    have hadmits := admits_of_entry hentry
    have hfails : ∀ context, decide (mode = .deleting) = true →
        scope.object.hasFinalizer = true ∧
          (script.deletionCourse context Subsystem.deletionOrder).result ≠ [] := by
      intro context hmode
      obtain ⟨hfinalizer, subsystem, hfailure⟩ :=
        hdeleting scope.saved hadmits.stored (hadmits.isDeleting (of_decide_eq_true hmode))
      refine ⟨hadmits.object ▸ hfinalizer, ?_⟩
      exact Script.failing_deletionCourse context hfailure (by cases subsystem <;> decide)
    have hloaded := hadmits.loaded (hkeyed key _ hadmits.stored) hcalm false
    have hrests := hloaded.rests ⟨hplain, hscript, rfl⟩ dnsRequeue (mode = .deleting) (hfails _)
    obtain ⟨hagain, hstore⟩ := hrests.again fun hmode => (hfails _ hmode).2
    have hfirst : first = _ := reconcile_of_entry hcalm scriptedCloud dnsRequeue false hentry
    have hsecond : second = first.2.reconcile scriptedCloud dnsRequeue key false := rfl
    rw [hfirst, reconcile_of_rests hadmits hkeyed hentry hrests dnsRequeue] at hsecond
    obtain ⟨events, hevents, hbare⟩ := hrests.told
    obtain ⟨events', hevents', hbare'⟩ := hagain.told
    rw [hsecond, hfirst]
    exact ⟨hagain.result.trans hrests.result.symm, hstore, events, events', hevents, hevents',
      hbare'.trans hbare.symm⟩
  · have hidle : first.2 = world := congrArg Prod.snd (reconcile_of_idle hcalm scriptedCloud
      dnsRequeue false fun pass hentry => hpass ⟨pass.1, pass.2, hentry⟩)
    have hsecond : second = first := by
      change first.2.reconcile scriptedCloud dnsRequeue key false = first
      rw [hidle]
    rw [hsecond, hidle]
    exact ⟨rfl, rfl, [], [], (List.append_nil _).symm, (List.append_nil _).symm, rfl⟩

/-- Services that cannot delete the network, in a world where an object is being deleted. -/
def stuck : World Script where
  store := (Sample.holding (Sample.deleted (some [clusterFinalizer]))).store
  clock := { reading := fun _ => Sample.newYear }
  cloud := { failures := Table.empty.insert ⟨.delete, .network⟩ "in use" }

/-- An object whose network cannot be deleted is not touched by a second attempt to delete it. -/
theorem quiescent_after_stuck_reconcile :
    (stuck.cloud.Plain ∧ stuck.faults = [] ∧ stuck.store.Keyed ∧
      ∀ object, stuck.store.awsClusters.get? Sample.key = some object →
        object.metadata.isDeleting = true → object.hasFinalizer = true ∧
          ∃ subsystem, (stuck.cloud.failures.get? ⟨.delete, subsystem⟩).isSome = true) ∧
    let first := stuck.reconcile scriptedCloud 15 Sample.key false
    let second := first.2.reconcile scriptedCloud 15 Sample.key false
    second.1 = first.1 ∧ second.2.store = first.2.store ∧
    ∃ events events', first.2.journal = stuck.journal ++ events ∧
      second.2.journal = first.2.journal ++ events' ∧
      events'.map Event.bare = events.map Event.bare := by
  have hplain : stuck.cloud.Plain := ⟨rfl, rfl, rfl⟩
  have hkeyed : stuck.store.Keyed := (Sample.reachable_holding _).keyed Cloud.quiet_obliging
  have hstored : stuck.store.awsClusters.get? Sample.key
      = some (Sample.deleted (some [clusterFinalizer])) := by decide +kernel
  have hdeleting : ∀ object, stuck.store.awsClusters.get? Sample.key = some object →
      object.metadata.isDeleting = true → object.hasFinalizer = true ∧
        ∃ subsystem, (stuck.cloud.failures.get? ⟨.delete, subsystem⟩).isSome = true := by
    intro object h _
    cases hstored.symm.trans h
    exact ⟨by decide +kernel, .network, by decide +kernel⟩
  exact ⟨⟨hplain, rfl, hkeyed, hdeleting⟩,
    quiescent_after_reconcile hplain rfl rfl hkeyed 15 Sample.key hdeleting⟩

end World

end ClusterInfra
