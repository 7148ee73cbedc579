import ClusterInfra.Proofs.Reconcile.Agreement
import ClusterInfra.Proofs.Reconcile.Quiescence
/-!
A reconciliation that succeeds in the end makes up for all that failed before.

Services that follow a script may fail, hang or be cancelled as often as they like, and so may the
store. Each of these attempts stores a later state of the object at most, of which a successful pass
makes the same as of the object itself. So it does not matter how many attempts it took.
-/

namespace ClusterInfra

variable {σ : Type} {cloud : Cloud σ} {fit : σ → Prop} {script : Script}

/-- A later state of an object, of which a script is going to make the same. -/
structure Script.Later (script : Script) (object later : AwsCluster) : Prop extends
  AwsCluster.Continues object later, Script.Akin script object later

namespace Script.Later

variable {a b c : AwsCluster} {marks : List Mark}

theorem refl (object : AwsCluster) : script.Later object object := ⟨.refl object, .refl object⟩

theorem trans (h : script.Later a b) (h' : script.Later b c) : script.Later a c :=
  ⟨h.toContinues.trans h'.toContinues, h.toAkin.trans h'.toAkin⟩

theorem of_marked (h : Marked marks a b)
    (hroutine : ∀ mark ∈ marks, mark.Routine script (script.prospect a)) : script.Later a b :=
  ⟨.of_marked h, .of_marked h hroutine⟩

theorem withVersion (object : AwsCluster) (version : Option String) :
    script.Later object (object.withVersion version) :=
  ⟨.withVersion object version, .withVersion object version⟩

theorem addFinalizer (scope : Scope) : script.Later scope.object scope.addFinalizer.2.object :=
  ⟨.addFinalizer scope, .addFinalizer scope⟩

end Script.Later

/-! ### What an attempt can store -/

namespace Attempt

/-- An attempt on an object that goes by a script: what it has persisted and what it has staged are
later states of the object, and the next persisting is going to arrive. -/
structure Tracks (script : Script) (fit : σ → Prop) (origin : AwsCluster)
    (clusters : Table ObjectKey Cluster) (a : Attempt σ) : Prop extends InStep a where
  own : a.StagesOwnFinalizer
  saved : script.Later origin a.scope.saved
  staged : script.Later origin a.scope.object
  clusters : a.world.store.clusters = clusters
  fit : fit a.world.cloud

namespace Tracks

variable {origin : AwsCluster} {clusters : Table ObjectKey Cluster} {marks : List Mark}
  {a b : Attempt σ}

/-- Routine marks are staged. -/
theorem makes (h : a.Tracks script fit origin clusters) (hmakes : a.Makes fit marks b)
    (hroutine : ∀ mark ∈ marks, mark.Routine script (script.prospect a.scope.object)) :
    b.Tracks script fit origin clusters where
  toInStep := h.toInStep.makes hmakes
  own := h.own.makes hmakes
  saved := hmakes.saved ▸ h.saved
  staged := h.staged.trans (.of_marked hmakes.marked hroutine)
  clusters := hmakes.store ▸ h.clusters
  fit := hmakes.fit h.fit

/-- Persisting either fails and changes nothing, or stores what is staged. -/
theorem persist (h : a.Tracks script fit origin clusters)
    (hlive : origin.metadata.isDeleting = false) :
    a.persist.2.Tracks script fit origin clusters := by
  have hstays : ∀ version,
      (Changes.outcome a.scope.saved a.scope.object version).isFinished = false := by
    intro version
    have hdeleting : a.scope.saved.metadata.isDeleting = false :=
      h.saved.toContinues.isDeleting.trans hlive
    rw [AwsCluster.isFinished, Bool.and_eq_false_imp]
    exact fun hgone => absurd (hdeleting.symm.trans hgone) (by decide)
  rcases h.toInStep.persist hstays with
    ⟨message, faults, -, heq⟩ | ⟨version, store, faults, -, heq, hstored⟩
  · rw [heq]
    exact ⟨⟨h.held, h.identity⟩, h.own, h.saved, h.staged, h.clusters, h.fit⟩
  · have hclusters := a.clusters_persist
    have hstaged := h.staged.trans (.withVersion _ version)
    rw [(h.identity.outcome_eq_iff version).2 h.own, ← h.identity.key] at hstored
    rw [heq] at hclusters ⊢
    exact ⟨⟨hstored, a.scope.keepsIdentity_rebased version⟩, .kept _, hstaged, hstaged,
      hclusters.trans h.clusters, h.fit⟩

/-- The finalizer is staged where nothing else is. -/
theorem ensureFinalizer (h : a.Tracks script fit origin clusters)
    (hobject : a.scope.object = a.scope.saved) (hlive : origin.metadata.isDeleting = false) :
    a.ensureFinalizer.2.Tracks script fit origin clusters := by
  obtain ⟨hstep, hown⟩ := h.toInStep.addFinalizer hobject
  have hsaved : a.scope.addFinalizer.2.saved = a.scope.saved := a.scope.saved_edit .addFinalizer
  have hadded : ({ a with scope := a.scope.addFinalizer.2 } : Attempt σ).Tracks script fit origin
      clusters :=
    ⟨hstep, hown, hsaved ▸ h.saved, h.staged.trans (.addFinalizer a.scope), h.clusters, h.fit⟩
  unfold Attempt.ensureFinalizer
  split
  next => exact h
  next scope hscope =>
    rw [hscope] at hadded
    exact hadded.persist hlive

theorem runNormal (hmocks : cloud.Mocks script fit) (h : a.Tracks script fit origin clusters)
    (hobject : a.scope.object = a.scope.saved) (hlive : origin.metadata.isDeleting = false)
    (dnsRequeue : Nat) : (a.runNormal cloud dnsRequeue).2.Tracks script fit origin clusters := by
  have hensured := h.ensureFinalizer hobject hlive
  rw [Attempt.runNormal]
  rcases hout : a.ensureFinalizer with ⟨e | _, b⟩ <;> rw [hout] at hensured
  · exact hensured
  obtain ⟨marks, hmakes, hroutine, -⟩ :=
    makes_reconcileInOrder hmocks b.scope.context Subsystem.creationOrder hensured.fit
  have hnamed := dnsName?_reconcileInOrder hmocks b.scope.context hensured.fit
  have hordered := hensured.makes hmakes hroutine
  simp only
  rcases hout : b.reconcileInOrder cloud b.scope.context Subsystem.creationOrder with ⟨e | _, c⟩ <;>
    rw [hout] at hnamed hordered
  · exact hordered
  · have hname : (script.prospect c.scope.object).dnsName? = c.scope.object.dnsName? := by
      rw [script.dnsName?_prospect, hnamed rfl]
    refine hordered.makes (makes_awaitDnsName hmocks dnsRequeue hordered.fit) ?_
    rw [← hname]
    refine routine_awaitMarks fun host resolves hhost hanswer => ?_
    rw [hhost, Option.bind_some] at hanswer
    exact (makes_lookUp hmocks host hordered.fit).2 resolves hanswer

/-- A pass over a live object ends in step, however it ends. -/
theorem run (hmocks : cloud.Mocks script fit) (h : a.Tracks script fit origin clusters)
    (hobject : a.scope.object = a.scope.saved) (hlive : origin.metadata.isDeleting = false)
    (dnsRequeue : Nat) :
    (Attempt.run cloud dnsRequeue false a).2.Tracks script fit origin clusters := by
  have hpass := h.runNormal hmocks hobject hlive dnsRequeue
  have hconcluded : (a.runNormal cloud dnsRequeue).2.concluded.Tracks script fit origin clusters :=
    hpass.makes (makes_concluded _) (by simp [Mark.Routine])
  rw [Attempt.run, finish_snd]
  exact hconcluded.persist hlive

end Tracks

end Attempt

/-! ### Attempts one after the other -/

namespace World

/-- An object is stored as it was, or else in a later state that a pass left. -/
structure Keeps (script : Script) (store : Store) (object : AwsCluster) (world : World σ) :
    Prop where
  stored : ∃ later, world.store.awsClusters.get? object.key = some later ∧
    script.Later object later ∧
    ((∀ pass, store.entry object.key ≠ .ok (some pass)) → later = object)
  clusters : world.store.clusters = store.clusters

variable {store : Store} {object : AwsCluster} {world after : World σ} {dnsRequeue : Nat}

/-- A pass over a later state of the object starts out on its track. -/
theorem Admits.tracks {key : ObjectKey} {mode : Mode} {scope : Scope}
    (h : world.Admits key mode scope) (hkey : object.key = key)
    (hsame : script.Later object scope.saved) (hfit : fit world.cloud) (faults : List StoreFault)
    (cancelled : Bool) :
    ({ world := { world with faults }, scope, cancelled } : Attempt σ).Tracks script fit object
      world.store.clusters where
  toInStep := h.inStep (hsame.toContinues.key.trans hkey) faults cancelled
  own := by
    rw [Attempt.StagesOwnFinalizer, h.object]
    exact .kept _
  saved := hsame
  staged := h.object ▸ hsame
  clusters := rfl
  fit := hfit

/-- An attempt keeps the object, whatever comes of it. -/
theorem Keeps.reconcile (h : world.Keeps script store object) (hmocks : cloud.Mocks script fit)
    (hstored : store.awsClusters.get? object.key = some object)
    (hlive : object.metadata.isDeleting = false) (hfit : fit world.cloud) (dnsRequeue : Nat)
    (cancelled : Bool) :
    (world.reconcile cloud dnsRequeue object.key cancelled).2.Keeps script store object := by
  have hinvoked := world.invoked_reconcile cloud dnsRequeue object.key cancelled
  have hreads := world.reads_enter object.key
  generalize world.reconcile cloud dnsRequeue object.key cancelled = invocation at hinvoked
  cases hinvoked with
  | failed => exact ⟨h.stored, h.clusters⟩
  | skipped => exact ⟨h.stored, h.clusters⟩
  | @passed mode scope faults hentry hadmits result a hrun =>
    obtain ⟨later, hlater, hsame, -⟩ := h.stored
    cases (hadmits.stored.symm.trans hlater : some scope.saved = some later)
    cases hadmits.active (hsame.toContinues.isDeleting.trans hlive)
    have hpass := (hadmits.tracks rfl hsame hfit faults cancelled).run hmocks hadmits.object hlive
      dnsRequeue
    have hrun' : Attempt.run cloud dnsRequeue false
        { world := { world with faults }, scope, cancelled } = (result, a) := hrun
    rw [hrun'] at hpass
    refine ⟨⟨a.scope.saved, ?_, hpass.saved, fun hidle => ?_⟩, hpass.clusters.trans h.clusters⟩
    · rw [← hpass.saved.toContinues.key]
      exact hpass.held
    · -- The entry called for this pass, so it calls for one over the original object as well.
      have hcalls : world.store.entry object.key = .ok (some (.active, scope)) := by
        rw [hentry] at hreads
        generalize hfound : world.store.entry object.key = found at hreads
        cases hreads with
        | found => rfl
      rw [Store.entry_continues h.clusters hstored hlater hsame.toContinues] at hcalls
      obtain ⟨before, hbefore⟩ := Mode.exists_of_redecide hcalls
      exact absurd hbefore (hidle before)

/-- The world after some attempts on a key. Before each of them the faults, the clock and the cloud
are set up anew, the cloud in a fit state. -/
inductive Attempted (cloud : Cloud σ) (fit : σ → Prop) (dnsRequeue : Nat) (key : ObjectKey) :
    World σ → World σ → Prop
  | none (world : World σ) : Attempted cloud fit dnsRequeue key world world
  | next {world after : World σ} (h : Attempted cloud fit dnsRequeue key world after)
      (faults : List StoreFault) (clock : Clock) {state : σ} (hfit : fit state) (cancelled : Bool) :
      Attempted cloud fit dnsRequeue key world
        ({ after with faults, clock, cloud := state }.reconcile cloud dnsRequeue key cancelled).2

theorem Attempted.keeps (h : Attempted cloud fit dnsRequeue object.key world after)
    (hmocks : cloud.Mocks script fit)
    (hstored : world.store.awsClusters.get? object.key = some object)
    (hlive : object.metadata.isDeleting = false) : after.Keeps script world.store object := by
  induction h with
  | none => exact ⟨⟨object, hstored, .refl object, fun _ => rfl⟩, rfl⟩
  | @next after _ faults clock state hfit cancelled ih =>
    have hnext : ({ after with faults, clock, cloud := state } : World σ).Keeps script world.store
        object := ⟨ih.stored, ih.clusters⟩
    exact hnext.reconcile hmocks hstored hlive hfit dnsRequeue cancelled

end World

/-! ### The clean attempt -/

/-- Where no call fails, a normal pass that came to rest is done. -/
theorem Attempt.Rests.done {context : ServiceContext} {dnsRequeue : Nat} {a : Attempt Script}
    {out : Except ControllerError Outcome × Attempt Script}
    (h : Rests script (script.normalCourse context dnsRequeue a.scope.object) a out)
    (hsound : ∀ subsystem, script.failures.get? ⟨.reconcile, subsystem⟩ = none) :
    script.Done out.2.scope.object := by
  have hcreated := script.result_creationCourse hsound context a.scope.object.spec.bastion.enabled
    Subsystem.creationOrder
  have hakin := h.akin (script.routine_normalCourse context dnsRequeue a.scope.object)
  have hsettled := h.settled
  rw [Script.normalCourse, Course.andThen, hcreated] at hsettled
  simp only [script.marks_creationCourse context _ hcreated, List.forall_mem_append,
    List.forall_mem_flatMap] at hsettled
  obtain ⟨⟨hcreation, hawait⟩, hsummary⟩ := hsettled
  refine ⟨h.anchored.finalizer, ?_, ?_, hsummary _ (List.mem_singleton_self _)⟩
  · rw [hakin.bastion]
    exact hcreation
  · rw [hakin.dnsName?]
    exact hawait

namespace World

variable {object : AwsCluster} {dnsRequeue : Nat}

/-- A world with scripted services and without faults. -/
def clean (script : Script) (store : Store) (clock : Clock) : World Script :=
  { store, clock, cloud := script }

/-- A clean attempt that calls for a pass takes the course of a normal one and leaves the object
done. -/
theorem reconcile_clean (hplain : script.Plain)
    (hsound : ∀ subsystem, script.failures.get? ⟨.reconcile, subsystem⟩ = none) {store : Store}
    (hstored : store.awsClusters.get? object.key = some object)
    (hlive : object.metadata.isDeleting = false) {mode : Mode} {scope : Scope}
    (hentry : store.entry object.key = .ok (some (mode, scope))) (clock : Clock)
    (dnsRequeue : Nat) :
    let out := (clean script store clock).reconcile scriptedCloud dnsRequeue object.key false
    scope.object = object ∧
    out.1 = (script.normalCourse scope.context dnsRequeue object).result ∧
    ∃ done, out.2.store.awsClusters.get? object.key = some done ∧ script.Done done ∧
      script.Akin object done := by
  intro out
  have hadmits : (clean script store clock).Admits object.key mode scope :=
    admits_of_entry hentry
  cases (hadmits.stored.symm.trans hstored : some scope.saved = some object)
  cases hadmits.active hlive
  have hrests := (hadmits.loaded rfl rfl false).rests ⟨hplain, rfl, rfl⟩ dnsRequeue false nofun
  have hout : out = _ := reconcile_of_entry rfl scriptedCloud dnsRequeue false hentry
  rw [hout, ← hadmits.object]
  exact ⟨rfl, hrests.result, _, hrests.stored, hrests.done hsound,
    hrests.akin (script.routine_normalCourse _ dnsRequeue _)⟩

/-- After any attempts on a live object, however they failed, a clean attempt has the same result as
on the object itself, and it leaves an object that agrees with the one that this would have left. -/
theorem resumes_after_attempts (hmocks : cloud.Mocks script fit) (hplain : script.Plain)
    (hsound : ∀ subsystem, script.failures.get? ⟨.reconcile, subsystem⟩ = none)
    {world after : World σ} (hstored : world.store.awsClusters.get? object.key = some object)
    (hlive : object.metadata.isDeleting = false)
    (hattempted : Attempted cloud fit dnsRequeue object.key world after) (clock clock' : Clock) :
    let direct :=
      (clean script world.store clock).reconcile scriptedCloud dnsRequeue object.key false
    let resumed :=
      (clean script after.store clock').reconcile scriptedCloud dnsRequeue object.key false
    resumed.1 = direct.1 ∧ ∃ a b, direct.2.store.awsClusters.get? object.key = some a ∧
      resumed.2.store.awsClusters.get? object.key = some b ∧ a.Agrees b := by
  intro direct resumed
  obtain ⟨⟨later, hlater, hsame, hidle⟩, hclusters⟩ := hattempted.keeps hmocks hstored hlive
  have hkey := hsame.toContinues.key
  have hentry := Store.entry_continues hclusters hstored hlater hsame.toContinues
  by_cases hpass : ∃ pass, world.store.entry object.key = .ok (some pass)
  · obtain ⟨⟨mode, scope⟩, hfirst⟩ := hpass
    rw [hfirst] at hentry
    have hsecond : after.store.entry later.key = .ok (some (mode, ⟨scope.cluster, later, later⟩)) :=
      hkey ▸ hentry
    obtain ⟨hobject, hresult, a, ha, hdone, hakin⟩ :=
      reconcile_clean hplain hsound hstored hlive hfirst clock dnsRequeue
    obtain ⟨-, hresult', b, hb, hdone', hakin'⟩ := reconcile_clean hplain hsound (hkey ▸ hlater)
      (hsame.toContinues.isDeleting.trans hlive) hsecond clock' dnsRequeue
    have hcontext : (Scope.mk scope.cluster later later).context = scope.context :=
      Scope.context_continues (hobject ▸ hsame.toContinues)
    rw [hkey] at hresult' hb
    rw [hcontext, hsame.toAkin.normalCourse] at hresult'
    exact ⟨hresult'.trans hresult.symm, a, b, ha, hb,
      hdone.agrees hdone' (hakin.symm.trans (hsame.toAkin.trans hakin'))⟩
  · have hnone : ∀ pass, world.store.entry object.key ≠ .ok (some pass) :=
      fun pass hfirst => hpass ⟨pass, hfirst⟩
    cases hidle hnone
    have hnone' : ∀ pass, after.store.entry object.key ≠ .ok (some pass) := by
      intro pass hsecond
      obtain ⟨before, hfirst⟩ := Mode.exists_of_redecide (hentry.symm.trans hsecond)
      exact hnone before hfirst
    have hdirect : direct = _ := @reconcile_of_idle _ (clean script world.store clock) _ rfl
      scriptedCloud dnsRequeue false hnone
    have hresumed : resumed = _ := @reconcile_of_idle _ (clean script after.store clock') _ rfl
      scriptedCloud dnsRequeue false hnone'
    rw [hdirect, hresumed]
    refine ⟨?_, object, object, hstored, hlater, .refl object⟩
    change (after.store.entry object.key).map _ = (world.store.entry object.key).map _
    rw [hentry]
    cases world.store.entry object.key <;> rfl

end World

/-! ### A small world with a past -/

namespace Sample

/-- Services that give the load balancer a name, which resolves. -/
def answering : Script := { dnsName := some "api.example", hosts := ["api.example"] }

/-- A world with these services, in which an object without finalizers is stored. -/
def fresh : World Script :=
  .clean answering (holding (object none)).store { reading := fun _ => newYear }

/-- The same world after an attempt that failed at the bastion. -/
def failedOnce : World Script :=
  ({ fresh with
    faults := []
    clock := fresh.clock
    cloud := { answering with failures := Table.empty.insert ⟨.reconcile, .bastion⟩ "no capacity" }
  }.reconcile scriptedCloud 15 key false).2

/-- The same world after one more attempt, which was cancelled and could not be persisted. -/
def failedTwice : World Script :=
  ({ failedOnce with
    faults := [⟨.patch, 0, "conflict"⟩]
    clock := fresh.clock
    cloud := answering
  }.reconcile scriptedCloud 15 key true).2

/-- The failures have left their traces on the object, but a clean attempt makes up for them. -/
theorem resumes_after_failures :
    (answering.Plain ∧ (∀ subsystem, answering.failures.get? ⟨.reconcile, subsystem⟩ = none) ∧
      fresh.store.awsClusters.get? key = some (object none) ∧
      (object none).metadata.isDeleting = false ∧
      World.Attempted scriptedCloud answering.Varies 15 key fresh failedTwice) ∧
    failedTwice.store.awsClusters.get? key ≠ some (object none) ∧
    let direct :=
      (World.clean answering fresh.store fresh.clock).reconcile scriptedCloud 15 key false
    let resumed :=
      (World.clean answering failedTwice.store fresh.clock).reconcile scriptedCloud 15 key false
    resumed.1 = direct.1 ∧ ∃ a b, direct.2.store.awsClusters.get? key = some a ∧
      resumed.2.store.awsClusters.get? key = some b ∧ a.Agrees b := by
  have hplain : answering.Plain := ⟨rfl, rfl, rfl⟩
  have hsound : ∀ subsystem, answering.failures.get? ⟨.reconcile, subsystem⟩ = none :=
    fun _ => rfl
  have hstored : fresh.store.awsClusters.get? key = some (object none) := by decide +kernel
  have hattempted : World.Attempted scriptedCloud answering.Varies 15 key fresh failedTwice :=
    .next (.next (.none fresh) _ _ ⟨rfl, rfl, rfl⟩ false) _ _ ⟨rfl, rfl, rfl⟩ true
  have hchanged : failedTwice.store.awsClusters.get? key ≠ some (object none) := by decide +kernel
  have hkey : key = (object none).key := rfl
  rw [hkey] at hstored hattempted hchanged ⊢
  exact ⟨⟨hplain, hsound, hstored, rfl, hattempted⟩, hchanged,
    World.resumes_after_attempts answering.mocks_scriptedCloud hplain hsound hstored rfl hattempted
      fresh.clock fresh.clock⟩

end Sample

end ClusterInfra
