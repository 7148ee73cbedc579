import ClusterInfra.Proofs.Reconcile.Abreast
/-!
Reconciliations are local.

With mock services and a store without faults, an invocation depends on the object at its key, on
the `Cluster` that this object names as its owner, and on nothing else; and it changes the object at
its key and nothing else. The clock decides over the times in the conditions only. So invocations
for two keys commute, even if the objects share their owner.
-/

namespace ClusterInfra

namespace Attempt

variable {script : Script} {told told' : List Event} {marks : List Mark} {a b c d : Attempt Script}

/-! ### From the same scope -/

/-- Without faults, the finalizer is ensured, and the scope that this leaves does not depend on the
world. -/
theorem Fresh.ensureFinalizer_of_calm {σ : Type} {a : Attempt σ} (h : a.Fresh)
    (hcalm : a.world.faults = []) : ∃ c, a.ensureFinalizer = (.ok (), c) ∧ a.Secured c ∧
      c.scope = if a.scope.addFinalizer.2.hasChanges then
          a.scope.addFinalizer.2.rebased
            (Changes.version a.scope.addFinalizer.2.saved a.scope.addFinalizer.2.object)
        else a.scope.addFinalizer.2 := by
  rcases h.ensureFinalizer with ⟨message, faults, hfaults, -⟩ | ⟨c, hensure, hsecured⟩
  · exact absurd hcalm hfaults
  · refine ⟨c, hensure, hsecured, ?_⟩
    have hsaved : a.scope.addFinalizer.2.saved = a.scope.saved := a.scope.saved_edit .addFinalizer
    have hclosable : Closable ({ a with scope := a.scope.addFinalizer.2 } : Attempt σ) := by
      refine ⟨?_, ?_⟩
      · rw [Attempt.held, hsaved]
        exact h.held
      · rw [hsaved, ← h.object]
        exact a.scope.key_edit .addFinalizer
    obtain ⟨store, hpersist, -⟩ := hclosable.settles_of_calm hcalm
    rw [h.ensureFinalizer_eq, hpersist] at hensure
    cases hensure
    rfl

/-- Securing the object tells nothing. -/
theorem InTune.secured (h : InTune script told told' a b) (hleft : a.Secured c)
    (hright : b.Secured d) : InTune script told told' c d := by
  obtain ⟨store, faults, hworld, -⟩ := hleft.world
  obtain ⟨store', faults', hworld', -⟩ := hright.world
  refine ⟨?_, ?_, ?_, ?_⟩
  · rw [hworld]
    exact h.cloud
  · rw [hworld']
    exact h.cloud'
  · rw [hright.cancelled, hleft.cancelled, h.cancelled]
  · rw [hworld, hworld']
    exact h.told

/-- From the same fresh scope, two passes go abreast. -/
theorem InTune.pass (h : InTune script told told' a b) (heffects : script.effects = [])
    (hfresh : a.Fresh) (hfresh' : b.Fresh) (hscope : b.scope = a.scope) (hcalm : a.world.faults = [])
    (hcalm' : b.world.faults = []) (dnsRequeue : Nat) (deleting : Bool) : ∃ marks,
      (b.pass scriptedCloud dnsRequeue deleting).1 = (a.pass scriptedCloud dnsRequeue deleting).1 ∧
      Abreast script told told' marks (a.pass scriptedCloud dnsRequeue deleting).2
        (b.pass scriptedCloud dnsRequeue deleting).2 ∧
      Mark.Apart marks := by
  cases deleting with
  | true =>
    have habreast : Abreast script told told' [] a b :=
      ⟨h, by rw [hscope], by rw [hscope], hfresh.trails hcalm, hfresh'.trails hcalm'⟩
    exact habreast.runDelete heffects (by rw [hscope])
  | false =>
    obtain ⟨c, hleft, hsecured, hscopeLeft⟩ := hfresh.ensureFinalizer_of_calm hcalm
    obtain ⟨d, hright, hsecured', hscopeRight⟩ := hfresh'.ensureFinalizer_of_calm hcalm'
    have hsame : d.scope = c.scope := by rw [hscopeLeft, hscopeRight, hscope]
    have habreast : Abreast script told told' [] c d :=
      ⟨h.secured hsecured hsecured', by rw [hsame], by rw [hsame], hsecured.trails hcalm,
        hsecured'.trails hcalm'⟩
    exact habreast.runNormal heffects hleft hright (by rw [hsame]) dnsRequeue

/-- Closed, both have the same stored, apart from times. -/
theorem Abreast.close (h : Abreast script told told' marks a b) (hapart : Mark.Apart marks) :
    a.close.1 = .ok () ∧ b.close.1 = .ok () ∧ InTune script told told' a.close.2 b.close.2 ∧
      a.close.2.world.faults = [] ∧
      (b.close.2.world.store.awsClusters.get? a.scope.saved.key).map AwsCluster.untimed
        = (a.close.2.world.store.awsClusters.get? a.scope.saved.key).map AwsCluster.untimed := by
  have hsummary : ∀ a : Attempt Script, a.Makes script.Varies [.summary] a.concluded := fun a =>
    makes_update (fun now scope => scope.stages_conclude now) fun now => .single .summary now _
  have hconcluded : Abreast script told told' (marks ++ [.summary]) a.concluded b.concluded :=
    h.makes (hsummary a) (hsummary b) ⟨h.cloud, h.cloud', h.cancelled, h.told⟩
  have hright := h.right.marked
  rw [h.saved] at hright
  have hchange : Changes.SameChange a.concluded.scope.saved a.concluded.scope.object
      b.concluded.scope.object := by
    refine ⟨hconcluded.untimed, ?_, ?_⟩
    · exact h.left.marked.status_eq hright hapart _ _
    · exact hright.status_eq h.left.marked hapart _ _
  obtain ⟨store, hpersist, hstored⟩ :=
    hconcluded.left.toClosable.settles_of_calm hconcluded.left.calm
  obtain ⟨store', hpersist', hstored'⟩ :=
    hconcluded.right.toClosable.settles_of_calm hconcluded.right.calm
  have hclose : a.close = a.concluded.persist := rfl
  have hclose' : b.close = b.concluded.persist := rfl
  rw [hclose, hclose', hpersist, hpersist']
  refine ⟨rfl, rfl, ⟨h.cloud, h.cloud', h.cancelled, h.told⟩, h.left.calm, ?_⟩
  have hkey : b.concluded.scope.saved.key = a.scope.saved.key := congrArg AwsCluster.key h.saved
  rw [hkey] at hstored'
  have hkept : store.awsClusters.get? a.scope.saved.key = _ := hstored
  rw [hstored', hkept]
  exact hchange.settled h.saved

end Attempt

/-! ### Invocations -/

/-- No call of a script without effects touches the object at a key that it is not given. -/
theorem Script.sparesKey (key : ObjectKey) :
    scriptedCloud.SparesKey (fun script => script.effects = []) key where
  same := by
    intro script heffects call context object
    rw [script.mocks_scriptedCloud.object ⟨rfl, rfl, heffects⟩]
    split
    · unfold Script.work
      split <;> rfl
    · rfl
  stored := by
    intro script heffects call context object other hmem
    rw [script.mocks_scriptedCloud.quiet ⟨rfl, rfl, heffects⟩] at hmem
    cases hmem
  fit_call h _ _ _ := h
  fit_lookUp h _ := h

theorem Store.findOwner_congr {store store' : Store} {object : AwsCluster}
    (h : store'.owner? object = store.owner? object) :
    store'.findOwner object = store.findOwner object := by
  rw [owner?, owner?] at h
  rw [findOwner, findOwner]
  cases hname : object.metadata.ownerCluster? with
  | none => rfl
  | some name =>
    rw [hname, Option.bind_some, Option.bind_some] at h
    simp only [h]

namespace World

variable {key other : ObjectKey} {world world' : World Script}

/-- The services are mocks, which have no effects but their own work, and the store has no faults
and holds objects under their own keys. -/
structure Mocked (world : World Script) : Prop where
  effects : world.cloud.effects = []
  calm : world.faults = []
  keyed : world.store.Keyed

/-- Two worlds are the same for an object: in the services, in its entry, and in the entry of the
`Cluster` that it names as its owner. -/
structure SameFor (key : ObjectKey) (world world' : World Script) : Prop where
  cloud : world'.cloud = world.cloud
  entry : world'.store.awsClusters.get? key = world.store.awsClusters.get? key
  owner : ∀ object, world.store.awsClusters.get? key = some object →
    world'.store.owner? object = world.store.owner? object

/-- Two invocations for an object come to the same: to the same result, the same events, and the
same entry, apart from the times in its conditions. -/
structure Alike (key : ObjectKey) (world world' : World Script)
    (out out' : Except ControllerError Outcome × World Script) : Prop where
  result : out'.1 = out.1
  told : ∃ events, out.2.journal.map Event.bare = world.journal.map Event.bare ++ events ∧
    out'.2.journal.map Event.bare = world'.journal.map Event.bare ++ events
  entry : (out'.2.store.awsClusters.get? key).map AwsCluster.untimed
    = (out.2.store.awsClusters.get? key).map AwsCluster.untimed

theorem SameFor.entry_eq (h : world.SameFor key world') :
    world'.store.entry key = world.store.entry key := by
  rw [Store.entry, Store.entry, h.entry]
  cases hobject : world.store.awsClusters.get? key with
  | none => rfl
  | some object =>
    rw [Option.elim_some, Option.elim_some, Store.decision, Store.decision,
      Store.findOwner_congr (h.owner object hobject)]

/-- In worlds that are the same for an object, invocations for it come to the same, and leave
services and faults as they were. -/
theorem SameFor.reconcile (h : world.SameFor key world') (hmocked : world.Mocked)
    (hmocked' : world'.Mocked) (dnsRequeue : Nat) (cancelled : Bool) :
    let out := world.reconcile scriptedCloud dnsRequeue key cancelled
    Alike key world world' out (world'.reconcile scriptedCloud dnsRequeue key cancelled) ∧
      out.2.cloud = world.cloud ∧ out.2.faults = [] := by
  have hentry := (world.reads_enter key).eq_of_calm hmocked.calm
  have hentry' := (world'.reads_enter key).eq_of_calm hmocked'.calm
  rw [h.entry_eq] at hentry'
  rw [reconcile_eq, reconcile_eq, hentry, hentry']
  cases hfound : world.store.entry key with
  | error e =>
    exact ⟨⟨rfl, ⟨[], by simp, by simp⟩, by simp only [h.entry]⟩, rfl, hmocked.calm⟩
  | ok entry =>
    cases entry with
    | none => exact ⟨⟨rfl, ⟨[], by simp, by simp⟩, by simp only [h.entry]⟩, rfl, hmocked.calm⟩
    | some admitted =>
      obtain ⟨mode, scope⟩ := admitted
      have hadmits := admits_of_entry hfound
      have hadmits' := admits_of_entry (h.entry_eq.trans hfound)
      have hkey : scope.saved.key = key := hmocked.keyed key _ hadmits.stored
      have htune : Attempt.InTune world.cloud (world.journal.map Event.bare)
          (world'.journal.map Event.bare) { world, scope, cancelled }
          { world := world', scope, cancelled } :=
        ⟨rfl, h.cloud, rfl, [], (List.append_nil _).symm, (List.append_nil _).symm⟩
      obtain ⟨marks, hresult, habreast, hapart⟩ := htune.pass hmocked.effects
        (hadmits.fresh hmocked.keyed world.faults cancelled)
        (hadmits'.fresh hmocked'.keyed world'.faults cancelled) rfl hmocked.calm hmocked'.calm
        dnsRequeue (mode = .deleting)
      obtain ⟨hclose, hclose', hclosed, hcalm, hstored⟩ := habreast.close hapart
      have hrun : ∀ a : Attempt Script,
          (a.pass scriptedCloud dnsRequeue (mode = .deleting)).2.close.1 = .ok () →
          a.run scriptedCloud dnsRequeue (mode = .deleting)
            = ((a.pass scriptedCloud dnsRequeue (mode = .deleting)).1,
              (a.pass scriptedCloud dnsRequeue (mode = .deleting)).2.close.2) :=
        fun a => Attempt.finish_of_close
      simp only [hrun _ hclose, hrun _ hclose']
      refine ⟨⟨hresult, hclosed.told, ?_⟩, hclosed.cloud, hcalm⟩
      have hpassed := Attempt.key_pass_of_fit (Script.sparesKey key) dnsRequeue (mode = .deleting)
        { world, scope, cancelled } hmocked.effects
      have hsaved := hpassed.symm.trans habreast.left.key
      rw [← hsaved, hadmits.object, hkey] at hstored
      exact hstored

/-- An invocation leaves the services mocks, and the world the same for other objects. -/
theorem Mocked.reconcile (h : world.Mocked) (dnsRequeue : Nat) (cancelled : Bool)
    (hother : other ≠ key) :
    let after := (world.reconcile scriptedCloud dnsRequeue key cancelled).2
    after.Mocked ∧ world.SameFor other after := by
  have hsame : world.SameFor key world := ⟨rfl, rfl, fun _ _ => rfl⟩
  have hclusters := clusters_reconcile scriptedCloud dnsRequeue key cancelled world
  obtain ⟨-, hcloud, hcalm⟩ := hsame.reconcile h h dnsRequeue cancelled
  obtain ⟨heffects, hkeyed, hentry⟩ :=
    others_reconcile dnsRequeue cancelled h.keyed (Script.sparesKey other) h.effects hother
  refine ⟨⟨heffects, hcalm, hkeyed⟩, hcloud, hentry, fun object _ => ?_⟩
  rw [Store.owner?, Store.owner?, hclusters]

/-- The second of two invocations comes to what it comes to without the first. -/
theorem Mocked.alike (h : world.Mocked) (dnsRequeue : Nat) (cancelled cancelled' : Bool)
    (hother : other ≠ key) :
    let after := (world.reconcile scriptedCloud dnsRequeue key cancelled).2
    Alike other world after (world.reconcile scriptedCloud dnsRequeue other cancelled')
      (after.reconcile scriptedCloud dnsRequeue other cancelled') := by
  obtain ⟨hmocked, hsame⟩ := h.reconcile dnsRequeue cancelled hother
  exact (hsame.reconcile h hmocked dnsRequeue cancelled').1

/-- With mock services, an invocation changes the entry of its object only. Its result, its calls
and the entry that it leaves depend on the entry of its object and on that of the owner, apart from
times. So invocations for two objects can change places. -/
theorem reconcile_is_local (dnsRequeue : Nat) (h : world.Mocked) :
    (∀ key cancelled,
      let after := (world.reconcile scriptedCloud dnsRequeue key cancelled).2
      after.store.clusters = world.store.clusters ∧ ∀ other, other ≠ key →
        after.store.awsClusters.get? other = world.store.awsClusters.get? other) ∧
    (∀ key cancelled, ∀ world' : World Script, world'.Mocked → world.SameFor key world' →
      Alike key world world' (world.reconcile scriptedCloud dnsRequeue key cancelled)
        (world'.reconcile scriptedCloud dnsRequeue key cancelled)) ∧
    (∀ key key' cancelled cancelled', key ≠ key' →
      let first := world.reconcile scriptedCloud dnsRequeue key cancelled
      let second := first.2.reconcile scriptedCloud dnsRequeue key' cancelled'
      let first' := world.reconcile scriptedCloud dnsRequeue key' cancelled'
      let second' := first'.2.reconcile scriptedCloud dnsRequeue key cancelled
      second'.1 = first.1 ∧ second.1 = first'.1 ∧
      second'.2.store.clusters = second.2.store.clusters ∧
      ∀ entry, (second'.2.store.awsClusters.get? entry).map AwsCluster.untimed
        = (second.2.store.awsClusters.get? entry).map AwsCluster.untimed) := by
  have hentry : ∀ {world : World Script}, world.Mocked → ∀ key cancelled other, other ≠ key →
      (world.reconcile scriptedCloud dnsRequeue key cancelled).2.store.awsClusters.get? other
        = world.store.awsClusters.get? other :=
    fun hmocked key cancelled other hother =>
      (hmocked.reconcile dnsRequeue cancelled hother).2.entry
  refine ⟨fun key cancelled => ⟨clusters_reconcile .., hentry h key cancelled⟩,
    fun key cancelled world' hmocked' hsame => (hsame.reconcile h hmocked' dnsRequeue cancelled).1, ?_⟩
  intro key key' cancelled cancelled' hne first second first' second'
  have hsecond : Alike key' world first.2 first' second :=
    h.alike dnsRequeue cancelled cancelled' hne.symm
  have hsecond' : Alike key world first'.2 first second' :=
    h.alike dnsRequeue cancelled' cancelled hne
  have hmocked : first.2.Mocked := (h.reconcile dnsRequeue cancelled hne.symm).1
  have hmocked' : first'.2.Mocked := (h.reconcile dnsRequeue cancelled' hne).1
  refine ⟨hsecond'.result, hsecond.result, ?_, fun entry => ?_⟩
  · simp only [second, second', first, first', clusters_reconcile]
  · by_cases hkey : entry = key
    · have hkept := hentry hmocked key' cancelled' key hne
      rw [hkey, hsecond'.entry, ← hkept]
    · by_cases hkey' : entry = key'
      · have hkept := hentry hmocked' key cancelled key' hne.symm
        rw [hkey', hsecond.entry, hkept]
      · have hkept := hentry hmocked key' cancelled' entry hkey'
        have hkept' := hentry hmocked' key cancelled entry hkey
        rw [hkept', hkept, hentry h key' cancelled' entry hkey', hentry h key cancelled entry hkey]

end World

namespace Sample

/-- A world of mock services whose calls for the load balancer hang, at some time. -/
def mocked (objects : List AwsCluster) (now : Instant) : World Script where
  store := (objects.foldl Store.insertAwsCluster {}).insertCluster owner
  clock := { reading := fun _ => now }
  cloud := { hanging := [⟨.reconcile, .loadBalancer⟩] }

theorem mocked_mocked (objects : List AwsCluster) (now : Instant) : (mocked objects now).Mocked :=
  ⟨rfl, rfl, Store.Keyed.foldl_insertAwsCluster Store.keyed_empty objects⟩

/-- Two objects of one owner. -/
def neighbours : World Script := mocked [object none, neighbour] newYear

/-- One of them without the other, at another time. -/
def alone : World Script := mocked [object none] noon

end Sample

namespace World

/-- The neighbour is left alone, the clock and the neighbour do not matter, and which of the two
comes first does not matter either. -/
theorem reconcile_is_local_for_neighbours :
    let after := (Sample.neighbours.reconcile scriptedCloud 15 Sample.key false).2
    after.store.awsClusters.get? Sample.neighbour.key = some Sample.neighbour ∧
    Alike Sample.key Sample.neighbours Sample.alone
      (Sample.neighbours.reconcile scriptedCloud 15 Sample.key false)
      (Sample.alone.reconcile scriptedCloud 15 Sample.key false) ∧
    (after.reconcile scriptedCloud 15 Sample.neighbour.key true).1
      = (Sample.neighbours.reconcile scriptedCloud 15 Sample.neighbour.key true).1 := by
  have hstored : Sample.neighbours.store.awsClusters.get? Sample.neighbour.key
      = some Sample.neighbour := by decide +kernel
  have hsame : Sample.neighbours.SameFor Sample.key Sample.alone :=
    ⟨rfl, by decide +kernel, fun object _ => rfl⟩
  obtain ⟨hleft, halike, hcommutes⟩ :=
    reconcile_is_local 15 (Sample.mocked_mocked [Sample.object none, Sample.neighbour] Sample.newYear)
  have hne : Sample.key ≠ Sample.neighbour.key := by decide
  refine ⟨?_, halike Sample.key false _ (Sample.mocked_mocked _ _) hsame,
    (hcommutes Sample.key Sample.neighbour.key false true hne).2.1⟩
  rw [← hstored]
  exact (hleft Sample.key false).2 _ hne.symm

end World

end ClusterInfra
