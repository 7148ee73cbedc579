import ClusterInfra.Proofs.Reconcile.Runs
import ClusterInfra.Proofs.Store.RoundTrip
/-!
The scope and the store in step.

A scope takes the object that it persisted last for the stored one. As long as this is so,
persisting always succeeds, whatever has been staged: status and spec arrive as they are, and of the
finalizers the one of this controller arrives. The scope goes on from its own object, so it stays in
step exactly if nothing else was staged for the finalizers.
-/

namespace ClusterInfra

open Json

/-! ### The store -/

/-- The version after a patch, if there is one. -/
def Changes.bumped (version : Option String) (patch? : Option Patch) : Option String :=
  patch?.elim version fun _ => some (nextVersion version)

/-- The version after a change has been persisted: each of its patches moves it on. -/
def Changes.version (before after : AwsCluster) : Option String :=
  let version := before.metadata.resourceVersion
  let version := bumped version (statusPatch? before after version)
  bumped version (objectPatch? before after version)

/-- What is stored when a change has been persisted from the object that was stored. -/
def Changes.outcome (before after : AwsCluster) (version : Option String) : AwsCluster where
  metadata := { before.metadata with
    finalizers := storedFinalizers before after, resourceVersion := version }
  spec := after.spec
  status := after.status

namespace Store

variable {store : Store} {key : ObjectKey} {object updated before after : AwsCluster}
  {patch? : Option Patch} {members : Entries Json}

/-- A patch that leaves a document of an object behind stores this object. -/
theorem write_eq_ok (hstored : store.awsClusters.get? key = some object)
    (happly : (patch?.getD []).apply (Codec.encode object) = .ok (.obj members))
    (hshown : updated.Shown members)
    (hversion : updated.metadata.resourceVersion = object.metadata.resourceVersion) :
    let version := Changes.bumped object.metadata.resourceVersion patch?
    ∃ store', store.write key object object.metadata.resourceVersion patch?
        = .ok (store', updated.withVersion version, version) ∧
      store'.awsClusters.get? key = some (updated.withVersion version) := by
  cases patch? with
  | none =>
    obtain ⟨members', hmembers', hshown'⟩ := object.exists_shown
    rw [Option.getD_none, Patch.apply_nil_eq_ok_iff, hmembers'] at happly
    cases happly
    have hsame : updated = object := by
      have hread := hshown.decode
      rw [hshown'.decode] at hread
      exact (Option.some.inj hread).symm
    subst hsame
    exact ⟨store, rfl, hstored⟩
  | some patch =>
    have hpatched : object.patched patch = .ok (updated.withVersion
        (some (nextVersion updated.metadata.resourceVersion))) := by
      rw [Option.getD_some] at happly
      simp only [AwsCluster.patched, happly, hshown.decode]
    rw [hversion] at hpatched
    refine ⟨{ store with
        awsClusters := store.awsClusters.insert key _, log := store.log ++ [patch] }, ?_,
      Table.get?_insert_self ..⟩
    simp only [write, hpatched]
    rfl

/-- Persisting a change from the object that is stored succeeds. It stores what comes of the change,
unless that is to go. -/
theorem persist_of_stored (hstored : store.awsClusters.get? after.key = some before) :
    ∃ store', store.persist before after = (.ok (Changes.version before after), store') ∧
      store'.awsClusters.get? after.key
        = if (Changes.outcome before after (Changes.version before after)).isFinished then none
          else some (Changes.outcome before after (Changes.version before after)) := by
  obtain ⟨members, hmembers, hshown⟩ := before.exists_shown
  obtain ⟨_, hstatus, hshown⟩ :=
    Changes.apply_statusPatch before after hshown rfl (Changes.expects_self before)
  obtain ⟨store', hwrite, hstored'⟩ := write_eq_ok hstored (hmembers ▸ hstatus) hshown rfl
  have hsecond : ∀ version, store'.awsClusters.get? after.key
      = some (({ before with status := after.status } : AwsCluster).withVersion version) →
      ∃ store'', store'.write after.key
          ({ before with status := after.status }.withVersion version) version
          (Changes.objectPatch? before after version)
        = .ok (store'', Changes.outcome before after
            (Changes.bumped version (Changes.objectPatch? before after version)),
          Changes.bumped version (Changes.objectPatch? before after version)) ∧
      store''.awsClusters.get? after.key = some (Changes.outcome before after
        (Changes.bumped version (Changes.objectPatch? before after version))) := by
    intro version hstored'
    generalize hmiddle : ({ before with status := after.status } : AwsCluster).withVersion version
      = middle at hstored'
    obtain ⟨members, hmembers, hshown⟩ := middle.exists_shown
    have hversion : middle.metadata.resourceVersion = version := by rw [← hmiddle]; rfl
    obtain ⟨_, hobject, hshown⟩ := Changes.apply_objectPatch before after hshown
      (by rw [← hmiddle]; rfl) (by rw [← hmiddle]; rfl) (Changes.expects_self middle)
    obtain ⟨store'', hwrite', hstored''⟩ :=
      write_eq_ok hstored' (hmembers ▸ hobject) hshown rfl
    rw [hversion] at hwrite' hstored''
    subst hmiddle
    exact ⟨store'', hwrite', hstored''⟩
  obtain ⟨store'', hwrite', hstored''⟩ := hsecond _ hstored'
  refine ⟨store''.collect after.key (Changes.outcome before after (Changes.version before after)),
    ?_, ?_⟩
  · simp only [persist, hstored, hwrite, hwrite']
    rfl
  · rw [collect]
    split
    · exact Table.get?_erase_self ..
    · exact hstored''

theorem persist_eq_ok (hstored : store.awsClusters.get? after.key = some before)
    (hstays : ∀ version, (Changes.outcome before after version).isFinished = false) :
    ∃ version store', store.persist before after = (.ok version, store') ∧
      store'.awsClusters.get? after.key = some (Changes.outcome before after version) := by
  obtain ⟨store', hpersist, hstored'⟩ := persist_of_stored hstored
  rw [if_neg (by simp [hstays])] at hstored'
  exact ⟨_, store', hpersist, hstored'⟩

end Store

/-! ### The scope -/

namespace Scope

variable {scope : Scope}

/-- Only finalizers have been staged of the metadata. -/
def KeepsIdentity (scope : Scope) : Prop :=
  scope.object.metadata = scope.saved.metadata.withFinalizers scope.object.metadata.finalizers

theorem KeepsIdentity.key (h : scope.KeepsIdentity) : scope.object.key = scope.saved.key := by
  rw [AwsCluster.key, h]
  rfl

theorem KeepsIdentity.edit (h : scope.KeepsIdentity) (change : Edit) :
    (scope.edit change).KeepsIdentity := by
  obtain ⟨finalizers, hmetadata⟩ := scope.metadata_edit change
  rw [KeepsIdentity, saved_edit, hmetadata, h]
  rfl

theorem keepsIdentity_rebased (scope : Scope) (version : Option String) :
    (scope.rebased version).KeepsIdentity := rfl

/-- What is stored is what the scope goes on from, exactly if the finalizers arrive. -/
theorem KeepsIdentity.outcome_eq_iff (h : scope.KeepsIdentity) (version : Option String) :
    Changes.outcome scope.saved scope.object version = (scope.rebased version).object ↔
      Changes.OwnFinalizerOnly scope.saved.metadata.finalizers scope.object.metadata.finalizers := by
  rw [← Changes.storedFinalizers_eq_iff]
  constructor
  · intro heq
    have hfinalizers := congrArg (·.metadata.finalizers) heq
    exact hfinalizers
  · intro heq
    rw [Changes.outcome, heq, Scope.rebased, AwsCluster.withVersion, h]
    rfl

/-- Where there are no changes, the object is as it was persisted. -/
theorem KeepsIdentity.eq_saved (h : scope.KeepsIdentity) (hchanges : scope.hasChanges = false) :
    scope.object = scope.saved := by
  simp only [hasChanges, Bool.or_eq_false_iff, decide_eq_false_iff_not, Decidable.not_not] at hchanges
  obtain ⟨⟨hstatus, hfinalizers⟩, hspec⟩ := hchanges
  obtain ⟨cluster, ⟨metadata, spec, status⟩, ⟨metadata', spec', status'⟩⟩ := scope
  cases hstatus
  cases hspec
  rw [KeepsIdentity, ← hfinalizers] at h
  exact congrArg (fun metadata => AwsCluster.mk metadata spec status) h

theorem hasChanges_rebased (scope : Scope) (version : Option String) :
    (scope.rebased version).hasChanges = false := by
  simp [hasChanges, Scope.rebased]

end Scope

namespace Attempt

variable {σ : Type} {a b : Attempt σ}

/-- The store holds what the scope takes for persisted. -/
structure InStep (a : Attempt σ) : Prop where
  held : a.held = some a.scope.saved
  identity : a.scope.KeepsIdentity

theorem persist_of_unchanged (h : a.scope.hasChanges = false) : a.persist = (.ok (), a) := by
  rw [persist, h]
  rfl

/-- From a scope in step, persisting fails by a fault only. Otherwise the change is stored, and the
scope goes on from its own object. -/
theorem InStep.persist (h : a.InStep) (hstays : ∀ version,
    (Changes.outcome a.scope.saved a.scope.object version).isFinished = false) :
    (∃ message faults, a.world.faults ≠ [] ∧
      a.persist = (.error (.io message), { a with world := { a.world with faults } })) ∨
    ∃ version store faults, (a.world.faults = [] → faults = []) ∧
      a.persist = (.ok (),
        { a with world := { a.world with store, faults }, scope := a.scope.rebased version }) ∧
      store.awsClusters.get? a.scope.saved.key
        = some (Changes.outcome a.scope.saved a.scope.object version) := by
  have hkey := h.identity.key
  cases hchanges : a.scope.hasChanges with
  | false =>
    have heq := h.identity.eq_saved hchanges
    have hrebased : a.scope.rebased a.scope.saved.metadata.resourceVersion = a.scope := by
      rcases a with ⟨world, ⟨cluster, object, saved⟩, cancelled⟩
      cases heq
      rfl
    have houtcome : Changes.outcome a.scope.saved a.scope.object
        a.scope.saved.metadata.resourceVersion = a.scope.saved := by
      rw [(h.identity.outcome_eq_iff _).2 (by rw [heq]; exact .kept _), hrebased, heq]
    refine .inr ⟨a.scope.saved.metadata.resourceVersion, a.world.store, a.world.faults, id, ?_, ?_⟩
    · rw [persist_of_unchanged hchanges, hrebased]
    · rw [houtcome]
      exact h.held
  | true =>
    have hheld : a.world.store.awsClusters.get? a.scope.object.key = some a.scope.saved := by
      rw [hkey]
      exact h.held
    rw [Attempt.persist, if_pos hchanges]
    rcases a.world.access_eq .patch (·.persist a.scope.saved a.scope.object) with
      ⟨message, faults, hne, heq⟩ | ⟨faults, hnil, heq⟩
    · exact .inl ⟨message, faults, hne, by rw [World.persist, heq]⟩
    · obtain ⟨version, store, hpersist, hstored⟩ := Store.persist_eq_ok hheld hstays
      rw [hkey] at hstored
      exact .inr ⟨version, store, faults, hnil, by rw [World.persist, heq, hpersist], hstored⟩

/-! ### Steps of a scope -/

/-- What is done with a scope: a change is staged, or what has been staged is persisted. -/
inductive Step
  | stage (change : Scope.Edit)
  | persist

/-- Takes a step. -/
def step (a : Attempt σ) : Step → Attempt σ
  | .stage change => { a with scope := a.scope.edit change }
  | .persist => a.persist.2

/-- Nothing but the finalizer of this controller has been staged for the finalizers, and that only
in a way that the patch can tell: added to a list without it, or taken out of a list that has it
once. -/
def StagesOwnFinalizer (a : Attempt σ) : Prop :=
  Changes.OwnFinalizerOnly a.scope.saved.metadata.finalizers a.scope.object.metadata.finalizers

/-- This is so whenever one of the steps persists. -/
def Tidy : List Step → Attempt σ → Prop
  | [], _ => True
  | .stage change :: rest, a => Tidy rest (a.step (.stage change))
  | .persist :: rest, a => a.StagesOwnFinalizer ∧ Tidy rest (a.step .persist)

/-- Persisting succeeds and leaves nothing to persist: the stored copy has the status, spec and
version of the scope, and its finalizers exactly if they were staged in that way. -/
structure Arrives (a : Attempt σ) : Prop where
  ok : a.persist.1 = .ok ()
  unchanged : a.persist.2.scope.hasChanges = false
  again : a.persist.2.persist = (.ok (), a.persist.2)
  stored : ∃ stored, a.persist.2.held = some stored ∧
    stored.status = a.persist.2.scope.object.status ∧
    stored.spec = a.persist.2.scope.object.spec ∧
    stored.metadata.resourceVersion = a.persist.2.scope.object.metadata.resourceVersion ∧
    (stored.metadata.finalizers = a.persist.2.scope.object.metadata.finalizers ↔
      a.StagesOwnFinalizer)

/-- A scope in step whose object is live, and a store without faults. -/
structure InCalmStep (a : Attempt σ) : Prop extends InStep a where
  live : a.scope.saved.metadata.isDeleting = false
  calm : a.world.faults = []

theorem InCalmStep.persist (h : a.InCalmStep) : ∃ version store,
    a.persist = (.ok (),
      { a with world := { a.world with store }, scope := a.scope.rebased version }) ∧
    store.awsClusters.get? a.scope.saved.key
      = some (Changes.outcome a.scope.saved a.scope.object version) := by
  have hstays : ∀ version, (Changes.outcome a.scope.saved a.scope.object version).isFinished
      = false := fun version => by
    have hdeleting : (Changes.outcome a.scope.saved a.scope.object version).metadata.isDeleting
        = false := h.live
    rw [AwsCluster.isFinished, hdeleting, Bool.false_and]
  rcases h.toInStep.persist hstays with ⟨_, _, hne, -⟩ | ⟨version, store, faults, hnil, heq, hstored⟩
  · exact absurd h.calm hne
  · refine ⟨version, store, ?_, hstored⟩
    rw [heq, hnil h.calm, ← h.calm]

theorem InCalmStep.stage (h : a.InCalmStep) (change : Scope.Edit) :
    (a.step (.stage change)).InCalmStep where
  held := by
    rw [← show a.held = (a.step (.stage change)).held by simp [held, step, Scope.saved_edit], h.held]
    simp [step, Scope.saved_edit]
  identity := h.identity.edit change
  live := by
    have hsaved : (a.step (.stage change)).scope.saved = a.scope.saved := Scope.saved_edit _ _
    rw [hsaved, h.live]
  calm := h.calm

theorem InCalmStep.arrives (h : a.InCalmStep) : a.Arrives := by
  obtain ⟨version, store, heq, hstored⟩ := h.persist
  have hunchanged := a.scope.hasChanges_rebased version
  have hheld : a.persist.2.held = some (Changes.outcome a.scope.saved a.scope.object version) := by
    rw [heq, ← hstored, ← h.identity.key]
    rfl
  refine ⟨by rw [heq], by rw [heq]; exact hunchanged, ?_, _, hheld, ?_, ?_, ?_, ?_⟩
  · rw [heq]
    exact persist_of_unchanged hunchanged
  · rw [heq]
    rfl
  · rw [heq]
    rfl
  · rw [heq]
    rfl
  · rw [heq]
    exact Changes.storedFinalizers_eq_iff

/-- Persisting keeps a scope in step if its finalizers arrive. -/
theorem InCalmStep.persist_inCalmStep (h : a.InCalmStep) (hown : a.StagesOwnFinalizer) :
    (a.step .persist).InCalmStep := by
  obtain ⟨version, store, heq, hstored⟩ := h.persist
  rw [(h.identity.outcome_eq_iff version).2 hown, ← h.identity.key] at hstored
  refine { held := ?_, identity := ?_, live := ?_, calm := ?_ } <;> rw [step, heq]
  · exact hstored
  · exact a.scope.keepsIdentity_rebased version
  · have hmetadata := congrArg Metadata.isDeleting h.identity
    exact hmetadata.trans h.live
  · exact h.calm

theorem InCalmStep.steps : ∀ {steps : List Step} {a : Attempt σ}, a.InCalmStep → Tidy steps a →
    (steps.foldl step a).InCalmStep
  | [], _, h, _ => h
  | .stage change :: _, _, h, htidy => (h.stage change).steps htidy
  | .persist :: _, _, h, ⟨hown, htidy⟩ => (h.persist_inCalmStep hown).steps htidy

/-- The attempt that starts from the stored copy of an object, in a store without faults. -/
theorem inCalmStep_start {world : World σ} {cluster : Cluster} {object : AwsCluster} {scope : Scope}
    (hscope : Scope.of cluster object = .ok scope)
    (hstored : world.store.awsClusters.get? object.key = some object)
    (hlive : object.metadata.isDeleting = false) (hcalm : world.faults = []) (cancelled : Bool) :
    ({ world, scope, cancelled } : Attempt σ).InCalmStep := by
  cases Scope.of_eq_ok hscope
  exact { held := hstored, identity := rfl, live := hlive, calm := hcalm }

/-- Whatever is done with a scope that was built from the stored copy of a live object: as long as
whenever it persisted nothing but the finalizer of this controller was staged for the finalizers,
and that as a patch can tell it, the next time it persists what it has staged arrives. For the
finalizers themselves this is so exactly if they, too, were staged in that way. -/
theorem arrives_of_tidy {world : World σ} {cluster : Cluster} {object : AwsCluster} {scope : Scope}
    (hscope : Scope.of cluster object = .ok scope)
    (hstored : world.store.awsClusters.get? object.key = some object)
    (hlive : object.metadata.isDeleting = false) (hcalm : world.faults = []) (cancelled : Bool)
    (steps : List Step) (htidy : Tidy steps ({ world, scope, cancelled } : Attempt σ)) :
    (steps.foldl step ({ world, scope, cancelled } : Attempt σ)).Arrives :=
  ((inCalmStep_start hscope hstored hlive hcalm cancelled).steps htidy).arrives

/-- An attempt on the stored copy of an object without finalizers. -/
def sample : Attempt Unit where
  world := Sample.holding (Sample.object none)
  scope := ⟨Sample.owner, Sample.object none, Sample.object none⟩
  cancelled := false

/-- The finalizer is added and persisted, and then the object is declared ready. -/
theorem sample_arrives :
    Scope.of Sample.owner (Sample.object none) = .ok sample.scope ∧
    sample.world.store.awsClusters.get? (Sample.object none).key = some (Sample.object none) ∧
    (Sample.object none).metadata.isDeleting = false ∧ sample.world.faults = [] ∧
    Tidy [.stage .addFinalizer, .persist, .stage (.setReady true)] sample ∧
    ([.stage .addFinalizer, .persist, .stage (.setReady true)].foldl step sample).Arrives := by
  have hscope : Scope.of Sample.owner (Sample.object none) = .ok sample.scope := by decide +kernel
  have hstored : sample.world.store.awsClusters.get? (Sample.object none).key
      = some (Sample.object none) := by decide +kernel
  have htidy : Tidy [.stage .addFinalizer, .persist, .stage (.setReady true)] sample :=
    ⟨@Changes.OwnFinalizerOnly.added none (by decide), trivial⟩
  exact ⟨hscope, hstored, rfl, rfl, htidy, arrives_of_tidy hscope hstored rfl rfl false _ htidy⟩

/-- A finalizer that is added and taken back leaves an empty list in the scope and none in the
store. Persisting that writes nothing, and persisting the finalizer afterwards fails, though nobody
else wrote to the object. -/
theorem sample_out_of_step :
    Scope.of Sample.owner (Sample.object none) = .ok sample.scope ∧
    sample.world.store.awsClusters.get? (Sample.object none).key = some (Sample.object none) ∧
    (Sample.object none).metadata.isDeleting = false ∧ sample.world.faults = [] ∧
    ([.stage .addFinalizer, .stage .removeFinalizer].foldl step sample).persist.1 = .ok () ∧
    ([.stage .addFinalizer, .stage .removeFinalizer, .persist, .stage .addFinalizer].foldl step
        sample).persist.1
      = .error (.patch
          "operation '/1' failed at path '/metadata/finalizers/-': path is invalid") := by
  decide +kernel

end Attempt

end ClusterInfra
