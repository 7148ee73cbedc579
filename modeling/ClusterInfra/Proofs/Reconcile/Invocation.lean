import ClusterInfra.Proofs.Reconcile.Closing
/-!
What an invocation leaves in the store.

An invocation works on the object at its key and on no other. What it leaves of that object is the
spec and the status that were there before, unless it entered a pass and closed it: then it is what
the pass made of them, with the `Ready` condition brought up to date.
-/

namespace ClusterInfra

variable {σ : Type} {cloud : Cloud σ}

/-- As long as the state of the cloud is fit, no call renames the object that it is given, and what
others store meanwhile is not the object at this key. -/
structure Cloud.SparesKey (cloud : Cloud σ) (fit : σ → Prop) (key : ObjectKey) : Prop where
  same : ∀ {state}, fit state → ∀ call context object,
    (cloud.call call context object state).1.object.key = object.key
  stored : ∀ {state}, fit state → ∀ call context object,
    ∀ other ∈ (cloud.call call context object state).1.stored, other.key ≠ key
  fit_call : ∀ {state}, fit state → ∀ call context object,
    fit (cloud.call call context object state).2
  fit_lookUp : ∀ {state}, fit state → ∀ host, fit (cloud.lookUp host state).2

theorem Cloud.Quiet.sparesKey (h : cloud.Quiet) (hkeeps : cloud.Keeps Metadata.key)
    (key : ObjectKey) : cloud.SparesKey (fun _ => True) key where
  same _ := fun _ _ _ => hkeeps ..
  stored _ := by
    intro call context object other hmem
    rw [h] at hmem
    cases hmem
  fit_call _ _ _ _ := trivial
  fit_lookUp _ _ := trivial

theorem Store.get?_foldl_insertAwsCluster {key : ObjectKey} :
    ∀ {objects : List AwsCluster}, (∀ object ∈ objects, object.key ≠ key) → ∀ store : Store,
      (objects.foldl insertAwsCluster store).awsClusters.get? key = store.awsClusters.get? key
  | [], _, _ => rfl
  | object :: rest, h, store => by
    rw [List.forall_mem_cons] at h
    rw [List.foldl_cons, get?_foldl_insertAwsCluster h.2]
    exact Table.get?_insert_of_ne _ h.1.symm _

theorem Store.clusters_foldl_insertAwsCluster :
    ∀ (objects : List AwsCluster) (store : Store),
      (objects.foldl insertAwsCluster store).clusters = store.clusters
  | [], _ => rfl
  | object :: rest, store => clusters_foldl_insertAwsCluster rest (store.insertAwsCluster object)

theorem Store.Keyed.foldl_insertAwsCluster {store : Store} (h : store.Keyed) :
    ∀ objects : List AwsCluster, (objects.foldl Store.insertAwsCluster store).Keyed := by
  intro objects
  induction objects generalizing store with
  | nil => exact h
  | cons object rest ih => exact ih (h.insertAwsCluster object)

namespace Attempt

/-- An invocation that can be closed has the result of its pass. -/
theorem finish_of_close {out : Except ControllerError Outcome × Attempt σ}
    (h : out.2.close.1 = .ok ()) : finish out = (out.1, out.2.close.2) := by
  rcases out with ⟨result, b⟩
  rcases hclose : b.close with ⟨closed, c⟩
  rw [hclose] at h
  cases (h : closed = .ok ())
  cases result <;> simp only [finish, hclose]

/-- The object at a key has been left alone by an attempt on another one, and objects are still
stored under their own keys. -/
structure LeavesAlone (key : ObjectKey) (a b : Attempt σ) : Prop where
  same : b.scope.object.key = a.scope.object.key
  keyed : a.world.store.Keyed → b.world.store.Keyed
  stored : a.scope.object.key ≠ key →
    b.world.store.awsClusters.get? key = a.world.store.awsClusters.get? key

theorem LeavesAlone.trans {key : ObjectKey} {a b c : Attempt σ} (h : LeavesAlone key a b)
    (h' : LeavesAlone key b c) : LeavesAlone key a c where
  same := h'.same.trans h.same
  keyed := h'.keyed ∘ h.keyed
  stored := fun hne => (h'.stored (h.same.symm ▸ hne)).trans (h.stored hne)

theorem leavesAlone_persist (key : ObjectKey) (a : Attempt σ) : LeavesAlone key a a.persist.2 := by
  have hkeyed := respects_keyed.persist a
  have hpersists := a.persists_of_persist
  generalize a.persist = persisted at hkeyed hpersists
  rcases persisted with ⟨result, b⟩
  cases hpersists with
  | unchanged => exact ⟨rfl, id, fun _ => rfl⟩
  | failed faults _ halters => exact ⟨rfl, hkeyed, fun hne => halters.others key hne.symm⟩
  | done faults _ halters => exact ⟨rfl, hkeyed, fun hne => halters.others key hne.symm⟩

theorem pieces_leavesAlone {fit : σ → Prop} {key : ObjectKey} (hspares : cloud.SparesKey fit key) :
    Pieces cloud (fun a b => fit a.world.cloud → fit b.world.cloud ∧ LeavesAlone key a b) where
  refl a hfit := ⟨hfit, rfl, id, fun _ => rfl⟩
  trans h h' hfit := ⟨(h' (h hfit).1).1, (h hfit).2.trans (h' (h hfit).1).2⟩
  call context call a hfit := by
    rw [call_eq]
    split
    · exact ⟨hfit, rfl, id, fun _ => rfl⟩
    · refine ⟨hspares.fit_call hfit .., hspares.same hfit .., ?_, fun _ => ?_⟩
      · exact fun h => h.foldl_insertAwsCluster _
      · exact Store.get?_foldl_insertAwsCluster (hspares.stored hfit _ _ _) _
  lookUp host a hfit := by
    have hnext := hspares.fit_lookUp hfit host
    unfold lookUp
    split
    · exact ⟨hfit, rfl, id, fun _ => rfl⟩
    · simp only
      split
      all_goals exact ⟨hnext, rfl, id, fun _ => rfl⟩
  countFailure call a hfit := ⟨hfit, rfl, id, fun _ => rfl⟩
  update hstages a hfit := ⟨hfit, congrArg Metadata.key (hstages _ _).metadata, id, fun _ => rfl⟩
  persist a hfit := by
    obtain ⟨store, faults, hworld⟩ := a.world_persist
    refine ⟨?_, leavesAlone_persist key a⟩
    rw [hworld]
    exact hfit
  addFinalizer a hfit := ⟨hfit, a.scope.key_edit .addFinalizer, id, fun _ => rfl⟩

/-- A pass leaves the key of its object alone if the services do. -/
theorem key_pass_of_fit {fit : σ → Prop} {key : ObjectKey} (hspares : cloud.SparesKey fit key)
    (dnsRequeue : Nat) (deleting : Bool) (a : Attempt σ) (hfit : fit a.world.cloud) :
    (a.pass cloud dnsRequeue deleting).2.scope.object.key = a.scope.object.key := by
  have hpass := (pieces_leavesAlone hspares).pass dnsRequeue deleting a fun b hfit =>
    ⟨hfit, b.scope.key_edit .removeFinalizer, id, fun _ => rfl⟩
  exact (hpass hfit).2.same

theorem key_pass (hquiet : cloud.Quiet) (hkeeps : cloud.Keeps Metadata.key) (dnsRequeue : Nat)
    (deleting : Bool) (a : Attempt σ) :
    (a.pass cloud dnsRequeue deleting).2.scope.object.key = a.scope.object.key :=
  key_pass_of_fit (hquiet.sparesKey hkeeps a.scope.object.key) dnsRequeue deleting a trivial

theorem pieces_clusters (cloud : Cloud σ) :
    Pieces cloud (fun a b => b.world.store.clusters = a.world.store.clusters) where
  refl _ := rfl
  trans h h' := h'.trans h
  call context call a := by
    rw [call_eq]
    split
    · rfl
    · exact Store.clusters_foldl_insertAwsCluster ..
  lookUp host a := by
    unfold lookUp
    split
    · rfl
    · simp only
      split <;> rfl
  countFailure _ _ := rfl
  update _ _ := rfl
  persist := clusters_persist
  addFinalizer _ := rfl

end Attempt

namespace World

variable {dnsRequeue : Nat} {key : ObjectKey} {cancelled : Bool} {mode : Mode} {world : World σ}

/-- An invocation enters a pass in a mode. -/
def Enters (key : ObjectKey) (mode : Mode) (world : World σ) : Prop :=
  ∃ scope entered, world.enter key = (.ok (some (mode, scope)), entered)

theorem enters_of_fst {scope : Scope} (h : (world.enter key).1 = .ok (some (mode, scope))) :
    world.Enters key mode := ⟨scope, _, Prod.ext h rfl⟩

theorem enters_iff {result : Except ControllerError (Option (Mode × Scope))} {entered : World σ}
    (hentry : world.enter key = (result, entered)) :
    world.Enters key mode ↔ ∃ scope, result = .ok (some (mode, scope)) where
  mp := fun ⟨scope, _, hother⟩ => ⟨scope, congrArg Prod.fst (hentry.symm.trans hother)⟩
  mpr := fun ⟨_, hresult⟩ => enters_of_fst ((congrArg Prod.fst hentry).trans hresult)

/-- An invocation enters a pass in a mode and closes it: what the pass left of the object is
persisted under its key. -/
def Concludes (cloud : Cloud σ) (dnsRequeue : Nat) (key : ObjectKey) (cancelled : Bool) (mode : Mode)
    (world : World σ) : Prop :=
  ∃ scope entered, world.enter key = (.ok (some (mode, scope)), entered) ∧
    let out := Attempt.pass cloud dnsRequeue (mode = .deleting) { world := entered, scope, cancelled }
    out.2.scope.object.key = key ∧ out.2.close.1 = .ok ()

/-- How an invocation came to be concluded: from an attempt, by what its pass came to. -/
structure Concluded (cloud : Cloud σ) (dnsRequeue : Nat) (key : ObjectKey) (cancelled : Bool)
    (mode : Mode) (world : World σ) (a : Attempt σ) (out : Except ControllerError Outcome × Attempt σ) :
    Prop where
  admits : world.Admits key mode a.scope
  entered : ∃ faults, a.world = { world with faults }
  fresh : a.Fresh
  pass : a.pass cloud dnsRequeue (mode = .deleting) = out
  reconcile : world.reconcile cloud dnsRequeue key cancelled = (out.1, out.2.close.2.world)
  stored : ∀ stored, out.2.close.2.world.store.awsClusters.get? key = some stored →
    stored.spec = out.2.scope.object.spec ∧ stored.status = out.2.concluded.scope.object.status
  remains : mode = .active → ∃ stored, out.2.close.2.world.store.awsClusters.get? key = some stored

section Close

variable {a b : Attempt σ}

theorem Admits.key_eq {scope : Scope} (h : world.Admits key mode scope) (hkeyed : world.store.Keyed) :
    scope.object.key = key := by
  rw [h.object]
  exact hkeyed key _ h.stored

theorem Admits.closable (h : world.Admits key mode a.scope) (hkeyed : world.store.Keyed)
    (hbased : a.Based b) (hkey : b.scope.object.key = key) : b.concluded.Closable where
  held := hbased.held
  key := by
    have hsaved : b.scope.saved.key = key := hbased.key.trans (hkeyed key _ h.stored)
    exact hkey.trans hsaved.symm

/-- If an attempt cannot be closed, spec and status are stored as they were loaded. -/
theorem Admits.of_close_error (h : world.Admits key mode a.scope) (hkeyed : world.store.Keyed)
    (hbased : a.Based b) (hkey : b.scope.object.key = key) (hclose : b.close.1 ≠ .ok ())
    {stored : AwsCluster} (hstored : b.close.2.world.store.awsClusters.get? key = some stored) :
    stored.spec = a.scope.saved.spec ∧ stored.status = a.scope.saved.status := by
  rcases (h.closable hkeyed hbased hkey).persist with ⟨message, -, hstore⟩ | ⟨hok, -⟩
  · have hunchanged : b.close.2.world.store = b.world.store := hstore
    have hheld := hbased.held
    rw [Attempt.held, hbased.key, hkeyed key _ h.stored] at hheld
    rw [hunchanged, hheld] at hstored
    cases hstored
    exact ⟨hbased.spec, hbased.status⟩
  · exact absurd hok hclose

/-- If an attempt is closed, spec and status are stored as they were concluded, and a live object is
still there. -/
theorem Admits.of_close_ok (h : world.Admits key mode a.scope) (hkeyed : world.store.Keyed)
    (hbased : a.Based b) (hkey : b.scope.object.key = key) (hclose : b.close.1 = .ok ()) :
    (∀ stored, b.close.2.world.store.awsClusters.get? key = some stored →
      stored.spec = b.scope.object.spec ∧ stored.status = b.concluded.scope.object.status) ∧
    (mode = .active → ∃ stored, b.close.2.world.store.awsClusters.get? key = some stored) := by
  have hconcluded : b.concluded.scope.object.key = key := hkey
  rcases (h.closable hkeyed hbased hkey).persist with
    ⟨message, herror, -⟩ | ⟨-, hstored, hremains⟩
  · cases herror.symm.trans hclose
  · rw [hconcluded] at hstored hremains
    refine ⟨hstored, ?_⟩
    rintro rfl
    exact hremains (hbased.deleting.trans (Mode.isDeleting_eq h.observed h.live))

end Close

theorem Concludes.concluded (hkeyed : world.store.Keyed) (hquiet : cloud.Quiet)
    (h : world.Concludes cloud dnsRequeue key cancelled mode) :
    ∃ a out, world.Concluded cloud dnsRequeue key cancelled mode a out := by
  obtain ⟨scope, entered, hentry, hkey, hok⟩ := h
  have hinvoked := world.invoked_reconcile cloud dnsRequeue key cancelled
  generalize hout : world.reconcile cloud dnsRequeue key cancelled = invocation at hinvoked
  cases hinvoked with
  | failed hfailed => cases hfailed.symm.trans hentry
  | skipped hskipped => cases hskipped.symm.trans hentry
  | @passed mode scope faults hpassed hadmits result b hrun =>
    cases hpassed.symm.trans hentry
    have hfresh := hadmits.fresh hkeyed faults cancelled
    have hbased := hfresh.based_pass hquiet dnsRequeue (mode = .deleting)
    obtain ⟨hstored, hremains⟩ := hadmits.of_close_ok hkeyed hbased hkey hok
    have hfinish := Attempt.finish_of_close hok
    rw [Attempt.run] at hrun
    cases hrun.symm.trans hfinish
    exact ⟨_, _, hadmits, ⟨faults, rfl⟩, hfresh, rfl, hout, hstored, hremains⟩

section Concluded

variable {a : Attempt σ} {out : Except ControllerError Outcome × Attempt σ} {before stored : AwsCluster}

/-- A pass of an invocation starts from the stored copy of the object. -/
theorem Concluded.object (h : world.Concluded cloud dnsRequeue key cancelled mode a out)
    (hbefore : world.store.awsClusters.get? key = some before) : a.scope.object = before := by
  rw [h.fresh.object]
  exact Option.some.inj (h.admits.stored.symm.trans hbefore)

theorem Concluded.shown (h : world.Concluded cloud dnsRequeue key cancelled mode a out)
    (hstored : (world.reconcile cloud dnsRequeue key cancelled).2.store.awsClusters.get? key
      = some stored) :
    stored.spec = out.2.scope.object.spec ∧ stored.status = out.2.concluded.scope.object.status := by
  rw [h.reconcile] at hstored
  exact h.stored stored hstored

/-! Closing an attempt tells nothing that its pass has not told. -/

theorem Concluded.cloud_eq (h : world.Concluded cloud dnsRequeue key cancelled mode a out) :
    (world.reconcile cloud dnsRequeue key cancelled).2.cloud = out.2.world.cloud := by
  obtain ⟨store, faults, clock, hclose⟩ := out.2.world_close
  rw [h.reconcile, hclose]

theorem Concluded.metrics_eq (h : world.Concluded cloud dnsRequeue key cancelled mode a out) :
    (world.reconcile cloud dnsRequeue key cancelled).2.metrics = out.2.world.metrics := by
  obtain ⟨store, faults, clock, hclose⟩ := out.2.world_close
  rw [h.reconcile, hclose]

theorem Concluded.journal_eq (h : world.Concluded cloud dnsRequeue key cancelled mode a out)
    {events : List Event} (hevents : out.2.world.journal = a.world.journal ++ events) :
    (world.reconcile cloud dnsRequeue key cancelled).2.journal = world.journal ++ events := by
  obtain ⟨faults, hentered⟩ := h.entered
  obtain ⟨store, faults', clock, hclose⟩ := out.2.world_close
  rw [h.reconcile, hclose]
  simp only [hevents, hentered]

end Concluded

/-- An invocation that enters a pass and succeeds is concluded. -/
theorem Enters.concludes (hkeyed : world.store.Keyed) (hquiet : cloud.Quiet)
    (hkeeps : cloud.Keeps Metadata.key) {outcome : Outcome} (h : world.Enters key mode)
    (hok : (world.reconcile cloud dnsRequeue key cancelled).1 = .ok outcome) :
    world.Concludes cloud dnsRequeue key cancelled mode := by
  obtain ⟨scope, entered, henter⟩ := h
  have hinvoked := world.invoked_reconcile cloud dnsRequeue key cancelled
  generalize world.reconcile cloud dnsRequeue key cancelled = invocation at hinvoked hok
  cases hinvoked with
  | failed => cases hok
  | skipped hentry => cases hentry.symm.trans henter
  | @passed _ _ faults hentry hadmits result b hrun =>
    cases hentry.symm.trans henter
    have hkey := Attempt.key_pass hquiet hkeeps dnsRequeue (mode = .deleting)
      { world := { world with faults }, scope, cancelled }
    have hfinish : (Attempt.finish (Attempt.pass cloud dnsRequeue (mode = .deleting)
        { world := { world with faults }, scope, cancelled })).1 = .ok outcome :=
      (congrArg Prod.fst hrun).trans hok
    exact ⟨scope, _, henter, hkey.trans (hadmits.key_eq hkeyed),
      (Attempt.finish_fst_eq_ok_iff.1 hfinish).2⟩

/-- What an invocation leaves of the object at its key was there before, or it was concluded. -/
theorem left_or_concludes (hkeyed : world.store.Keyed) (hquiet : cloud.Quiet)
    (hkeeps : cloud.Keeps Metadata.key) {stored : AwsCluster}
    (hstored : (world.reconcile cloud dnsRequeue key cancelled).2.store.awsClusters.get? key
      = some stored) :
    ∃ before, world.store.awsClusters.get? key = some before ∧
      ((stored.spec = before.spec ∧ stored.status = before.status) ∨
        ∃ mode, world.Concludes cloud dnsRequeue key cancelled mode) := by
  have hinvoked := world.invoked_reconcile cloud dnsRequeue key cancelled
  generalize world.reconcile cloud dnsRequeue key cancelled = invocation at hinvoked hstored
  cases hinvoked with
  | failed => exact ⟨stored, hstored, .inl ⟨rfl, rfl⟩⟩
  | skipped => exact ⟨stored, hstored, .inl ⟨rfl, rfl⟩⟩
  | @passed mode scope faults hentry hadmits result b hrun =>
    refine ⟨scope.saved, hadmits.stored, ?_⟩
    have hkey := (Attempt.key_pass hquiet hkeeps dnsRequeue (mode = .deleting)
      { world := { world with faults }, scope, cancelled }).trans (hadmits.key_eq hkeyed)
    have hbased := (hadmits.fresh hkeyed faults cancelled).based_pass hquiet dnsRequeue
      (mode = .deleting)
    by_cases hok : (Attempt.pass cloud dnsRequeue (mode = .deleting)
        { world := { world with faults }, scope, cancelled }).2.close.1 = .ok ()
    · exact .inr ⟨mode, scope, _, hentry, hkey, hok⟩
    · have hclosed : b = (Attempt.pass cloud dnsRequeue (mode = .deleting)
          { world := { world with faults }, scope, cancelled }).2.close.2 := by
        rw [← Attempt.finish_snd (Attempt.pass ..).1]
        exact (congrArg Prod.snd hrun).symm
      rw [hclosed] at hstored
      exact .inl (hadmits.of_close_error hkeyed hbased hkey hok hstored)

/-- No invocation touches a `Cluster`. -/
theorem clusters_reconcile (cloud : Cloud σ) (dnsRequeue : Nat) (key : ObjectKey) (cancelled : Bool)
    (world : World σ) : (world.reconcile cloud dnsRequeue key cancelled).2.store.clusters
      = world.store.clusters := by
  have hinvoked := world.invoked_reconcile cloud dnsRequeue key cancelled
  generalize world.reconcile cloud dnsRequeue key cancelled = invocation at hinvoked
  cases hinvoked with
  | failed => rfl
  | skipped => rfl
  | @passed mode scope faults hentry hadmits result b hrun =>
    have hclusters := (Attempt.pieces_clusters cloud).run dnsRequeue (mode = .deleting)
      { world := { world with faults }, scope, cancelled } fun _ _ _ => rfl
    rw [hrun] at hclusters
    exact hclusters

/-- An invocation leaves the object at another key alone. -/
theorem others_reconcile (dnsRequeue : Nat) (cancelled : Bool) {fit : σ → Prop}
    (hkeyed : world.store.Keyed) {other : ObjectKey} (hspares : cloud.SparesKey fit other)
    (hfit : fit world.cloud) (hother : other ≠ key) :
    let after := (world.reconcile cloud dnsRequeue key cancelled).2
    fit after.cloud ∧ after.store.Keyed ∧
      after.store.awsClusters.get? other = world.store.awsClusters.get? other := by
  have hinvoked := world.invoked_reconcile cloud dnsRequeue key cancelled
  generalize world.reconcile cloud dnsRequeue key cancelled = invocation at hinvoked
  cases hinvoked with
  | failed => exact ⟨hfit, hkeyed, rfl⟩
  | skipped => exact ⟨hfit, hkeyed, rfl⟩
  | @passed mode scope faults hentry hadmits result b hrun =>
    have halone := (Attempt.pieces_leavesAlone hspares).run dnsRequeue (mode = .deleting)
      { world := { world with faults }, scope, cancelled }
      fun _ b _ hfit => ⟨hfit, b.scope.key_edit .removeFinalizer, id, fun _ => rfl⟩
    rw [hrun] at halone
    obtain ⟨hnext, halone⟩ := halone hfit
    refine ⟨hnext, halone.keyed hkeyed, halone.stored fun heq => hother ?_⟩
    exact heq.symm.trans (hadmits.key_eq hkeyed)

end World

end ClusterInfra
