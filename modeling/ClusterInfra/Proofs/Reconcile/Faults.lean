import ClusterInfra.Proofs.Reconcile.Closing
/-!
Failures of the store are reported, and do no harm.

A call of the store may fail wherever it is made. A read that fails ends the invocation before
anything is done, and so does the write of the finalizer. The close runs after any pass, and its
failure counts unless the pass has failed before. A patch call that fails leaves the stored object
as it is, so what is stored in the end is what the other patch calls made of it, each of them in
full.
-/

namespace ClusterInfra

variable {σ : Type} {cloud : Cloud σ}

/-! ### Patch calls -/

/-- A call that persists the difference between two states of an object. -/
structure PatchCall where
  before : AwsCluster
  after : AwsCluster
  deriving DecidableEq

/-- What is stored once the call has been applied in full. -/
def PatchCall.outcome (call : PatchCall) : Option AwsCluster :=
  let outcome := Changes.outcome call.before call.after (Changes.version call.before call.after)
  if outcome.isFinished then none else some outcome

/-- Patch calls with their results. -/
abbrev PatchCalls := List (PatchCall × Except ControllerError (Option String))

/-- What patch calls leave of the stored copy of an object: a call that a fault hits leaves it as it
is, and so does a call for another object; any other call goes on from the stored copy, succeeds,
and is applied in full. -/
inductive Leaves (key : ObjectKey) :
    PatchCalls → Option AwsCluster → Option AwsCluster → Prop
  | nil (stored : Option AwsCluster) : Leaves key [] stored stored
  | failed {call : PatchCall} (message : String) {rest : PatchCalls}
      {stored left : Option AwsCluster} (h : Leaves key rest stored left) :
      Leaves key ((call, .error (.io message)) :: rest) stored left
  | elsewhere {call : PatchCall} {result : Except ControllerError (Option String)}
      {rest : PatchCalls} {stored left : Option AwsCluster} (hkey : call.after.key ≠ key)
      (h : Leaves key rest stored left) : Leaves key ((call, result) :: rest) stored left
  | applied {call : PatchCall} {version : Option String} {rest : PatchCalls}
      {left : Option AwsCluster} (hkey : call.after.key = key)
      (h : Leaves key rest call.outcome left) :
      Leaves key ((call, .ok version) :: rest) (some call.before) left

theorem Leaves.append {key : ObjectKey} {calls rest : PatchCalls}
    {stored middle left : Option AwsCluster} (h : Leaves key calls stored middle)
    (hrest : Leaves key rest middle left) : Leaves key (calls ++ rest) stored left := by
  induction h with
  | nil stored => exact hrest
  | failed message _ ih => exact .failed message (ih hrest)
  | elsewhere hkey _ ih => exact .elsewhere hkey (ih hrest)
  | applied hkey _ ih => exact .applied hkey (ih hrest)

/-- A call that failed has left nothing. -/
theorem Leaves.of_failed {key : ObjectKey} {call : PatchCall} {e : ControllerError}
    {rest : PatchCalls} {stored left : Option AwsCluster}
    (h : Leaves key ((call, .error e) :: rest) stored left) : Leaves key rest stored left := by
  cases h with
  | failed _ h => exact h
  | elsewhere _ h => exact h

/-- What the last call was applied to is stored as it came of that. -/
theorem Leaves.eq_outcome {key : ObjectKey} {call : PatchCall} {version : Option String}
    {stored left : Option AwsCluster} (h : Leaves key [(call, .ok version)] stored left)
    (hkey : call.after.key = key) : left = call.outcome := by
  cases h with
  | elsewhere hother _ => exact absurd hkey hother
  | applied _ h =>
    cases h
    rfl

namespace World

/-- Makes patch calls one after the other, and tells how each of them ended. -/
def replay : List PatchCall → World σ → PatchCalls × World σ
  | [], world => ([], world)
  | call :: rest, world =>
    let (result, world) := world.persist call.before call.after
    let (results, world) := replay rest world
    ((call, result) :: results, world)

theorem replay_append : ∀ (calls rest : List PatchCall) (world : World σ),
    world.replay (calls ++ rest)
      = ((world.replay calls).1 ++ ((world.replay calls).2.replay rest).1,
        ((world.replay calls).2.replay rest).2)
  | [], rest, world => rfl
  | call :: calls, rest, world => by
    simp only [List.cons_append, replay, replay_append calls rest]

/-- Two worlds with the same store, in which the same faults are due. -/
structure SameStore {τ : Type} (world : World σ) (other : World τ) : Prop where
  store : other.store = world.store
  faults : other.faults = world.faults

theorem SameStore.persist {τ : Type} {world : World σ} {other : World τ} (h : world.SameStore other)
    (before after : AwsCluster) :
    (other.persist before after).1 = (world.persist before after).1 ∧
      (world.persist before after).2.SameStore (other.persist before after).2 := by
  obtain ⟨store, faults, clock, cloud, metrics, journal⟩ := world
  obtain ⟨store', faults', clock', cloud', metrics', journal'⟩ := other
  obtain ⟨hstore, hfaults⟩ := h
  cases hstore
  cases hfaults
  simp only [World.persist, access]
  split <;> exact ⟨rfl, rfl, rfl⟩

/-- What comes of patch calls depends on the store and its faults only. -/
theorem SameStore.replay {τ : Type} : ∀ (calls : List PatchCall) {world : World σ}
    {other : World τ},
    world.SameStore other → (other.replay calls).1 = (world.replay calls).1 ∧
      (world.replay calls).2.SameStore (other.replay calls).2
  | [], _, _, h => ⟨rfl, h⟩
  | call :: rest, _, _, h => by
    obtain ⟨hresult, hnext⟩ := h.persist call.before call.after
    obtain ⟨hresults, hlast⟩ := SameStore.replay rest hnext
    exact ⟨by simp only [World.replay, hresult, hresults], hlast⟩

end World

namespace Attempt

variable {key : ObjectKey} {dnsRequeue : Nat} {a b : Attempt σ}

/-- The patch call that persisting an attempt makes: none if nothing has been staged. -/
def patchCall? (a : Attempt σ) : Option PatchCall :=
  if a.scope.hasChanges then some ⟨a.scope.saved, a.scope.object⟩ else none

theorem world_persist_eq (a : Attempt σ) :
    a.persist.2.world = (a.world.replay a.patchCall?.toList).2 := by
  rw [persist, patchCall?]
  split
  · rcases hpersist : a.world.persist a.scope.saved a.scope.object with ⟨_ | _, world⟩ <;>
      simp only [Option.toList_some, World.replay, hpersist]
  · rfl

/-- Persisting from the stored copy of an object: the call fails by a fault, is for another object,
or is applied in full. -/
theorem leaves_persist (hheld : a.world.store.awsClusters.get? key = some a.scope.saved) :
    Leaves key (a.world.replay a.patchCall?.toList).1 (some a.scope.saved)
      (a.persist.2.world.store.awsClusters.get? key) := by
  rw [world_persist_eq, patchCall?]
  split
  · simp only [Option.toList_some, World.replay, World.persist]
    rcases a.world.access_eq .patch (·.persist a.scope.saved a.scope.object) with
      ⟨message, faults, -, heq⟩ | ⟨faults, -, heq⟩ <;> rw [heq]
    · simp only [hheld]
      exact .failed message (.nil _)
    · by_cases hkey : a.scope.object.key = key
      · subst hkey
        obtain ⟨store, hpersist, hstored⟩ := Store.persist_of_stored hheld
        simp only [hpersist, hstored]
        exact .applied rfl (.nil _)
      · obtain ⟨stored, patches, -, halters⟩ :=
          a.world.store.persisted_of_persist a.scope.saved a.scope.object
        simp only [halters.others key (Ne.symm hkey), hheld]
        exact .elsewhere hkey (.nil _)
  · simp only [Option.toList_none, World.replay, hheld]
    exact .nil _

/-! ### The patch calls of a run -/

/-- The patch call that ensuring the finalizer makes. -/
def securingCall? (a : Attempt σ) : Option PatchCall :=
  if a.scope.object.hasFinalizer then none
  else ({ a with scope := a.scope.addFinalizer.2 } : Attempt σ).patchCall?

/-- The patch calls of a run: the finalizer is stored in a normal pass, and the close persists what
is still pending. -/
def patchCalls (cloud : Cloud σ) (dnsRequeue : Nat) (deleting : Bool) (a : Attempt σ) :
    List PatchCall :=
  (if deleting then none else a.securingCall?).toList
    ++ (a.pass cloud dnsRequeue deleting).2.concluded.patchCall?.toList

/-- Ensuring the finalizer makes its patch call, and goes on from the copy of the object that the
scope takes for persisted. -/
theorem ensureFinalizer_leaves (hheld : a.world.store.awsClusters.get? key = some a.scope.saved) :
    a.ensureFinalizer.2.world = (a.world.replay a.securingCall?.toList).2 ∧
      Leaves key (a.world.replay a.securingCall?.toList).1 (some a.scope.saved)
        (a.ensureFinalizer.2.world.store.awsClusters.get? key) := by
  rw [securingCall?]
  by_cases hfinalizer : a.scope.object.hasFinalizer = true
  · have hensure : a.ensureFinalizer = (.ok (), a) := by
      rw [ensureFinalizer, Scope.addFinalizer, if_pos hfinalizer]
    rw [hensure, if_pos hfinalizer]
    exact ⟨rfl, hheld ▸ .nil _⟩
  · have hadd : a.scope.addFinalizer = (true, a.scope.addFinalizer.2) := by
      rw [Scope.addFinalizer, if_neg hfinalizer]
    have hensure : a.ensureFinalizer
        = ({ a with scope := a.scope.addFinalizer.2 } : Attempt σ).persist := by
      rw [ensureFinalizer, hadd]
    have hsaved : a.scope.addFinalizer.2.saved = a.scope.saved := a.scope.saved_edit .addFinalizer
    rw [hensure, if_neg hfinalizer, ← hsaved]
    rw [← hsaved] at hheld
    exact ⟨world_persist_eq _,
      leaves_persist (a := { a with scope := a.scope.addFinalizer.2 }) hheld⟩

/-- With services that store nothing, the only write of a pass is the one of the finalizer. -/
theorem sameStore_pass (hquiet : cloud.Quiet) (dnsRequeue : Nat) (deleting : Bool) (a : Attempt σ) :
    (if deleting then a else a.ensureFinalizer.2).world.SameStore
      (a.pass cloud dnsRequeue deleting).2.world := by
  have hkeeps : cloud.Keeps (fun _ => ()) := fun _ _ _ _ => rfl
  cases deleting with
  | true =>
    have horder :=
      advances_deleteInOrder hquiet hkeeps a.scope.context Subsystem.deletionOrder a
    change a.world.SameStore (a.runDelete cloud).2.world
    rcases hdelete : a.deleteInOrder cloud a.scope.context Subsystem.deletionOrder with
      ⟨_ | ⟨first, others⟩, b⟩ <;> rw [hdelete] at horder
    · rw [runDelete_of_nil hdelete]
      exact ⟨horder.store, horder.faults⟩
    · rw [runDelete_of_cons hdelete]
      exact ⟨horder.store, horder.faults⟩
  | false =>
    change a.ensureFinalizer.2.world.SameStore (a.runNormal cloud dnsRequeue).2.world
    rcases hensure : a.ensureFinalizer with ⟨e | _, b⟩
    · rw [runNormal_of_error hensure]
      exact ⟨rfl, rfl⟩
    · have hwork := advances_runNormal hquiet hkeeps dnsRequeue hensure
      exact ⟨hwork.store, hwork.faults⟩

/-- A run that starts from the stored copy of its object makes its patch calls, and no other write;
what they leave is what is stored. -/
theorem Fresh.leaves_run (h : a.Fresh) (hquiet : cloud.Quiet) (dnsRequeue : Nat) (deleting : Bool) :
    let made := a.world.replay (a.patchCalls cloud dnsRequeue deleting)
    made.2.SameStore (run cloud dnsRequeue deleting a).2.world ∧
      Leaves a.scope.saved.key made.1 (some a.scope.saved)
        ((run cloud dnsRequeue deleting a).2.world.store.awsClusters.get? a.scope.saved.key) := by
  have hsame := sameStore_pass hquiet dnsRequeue deleting a
  have hbased := h.based_pass hquiet dnsRequeue deleting
  -- The first call leaves what the scope takes for persisted from there on.
  obtain ⟨hworld, hleaves⟩ : (if deleting then a else a.ensureFinalizer.2).world
        = (a.world.replay (if deleting then none else a.securingCall?).toList).2 ∧
      Leaves a.scope.saved.key
        (a.world.replay (if deleting then none else a.securingCall?).toList).1 (some a.scope.saved)
        ((if deleting then a else a.ensureFinalizer.2).world.store.awsClusters.get?
          a.scope.saved.key) := by
    cases deleting with
    | true => exact ⟨rfl, h.held ▸ .nil _⟩
    | false => exact ensureFinalizer_leaves h.held
  have hheld : (a.pass cloud dnsRequeue deleting).2.concluded.world.store.awsClusters.get?
      a.scope.saved.key = some (a.pass cloud dnsRequeue deleting).2.concluded.scope.saved := by
    rw [← hbased.key]
    exact hbased.held
  have hconcluded : (if deleting then a else a.ensureFinalizer.2).world.SameStore
      (a.pass cloud dnsRequeue deleting).2.concluded.world := ⟨hsame.store, hsame.faults⟩
  obtain ⟨hresults, hlast⟩ := hconcluded.replay
    (a.pass cloud dnsRequeue deleting).2.concluded.patchCall?.toList
  have hclosing := leaves_persist hheld
  rw [run, finish_snd]
  change _ ∧ Leaves _ _ _ ((a.pass cloud dnsRequeue deleting).2.concluded.persist.2.world.store
    |>.awsClusters.get? _)
  simp only [patchCalls, World.replay_append, ← hworld]
  refine ⟨?_, hleaves.append ?_⟩
  · have hclose := (a.pass cloud dnsRequeue deleting).2.concluded.world_persist_eq
    rw [← hclose] at hlast
    exact hlast
  · rw [← hresults, ← hconcluded.store, hheld]
    exact hclosing

end Attempt

namespace World

variable {key : ObjectKey} {dnsRequeue : Nat} {cancelled : Bool} {world : World σ}

/-- The patch calls of an invocation: those of its run, if it comes to one. -/
def patchCalls (cloud : Cloud σ) (dnsRequeue : Nat) (key : ObjectKey) (cancelled : Bool)
    (world : World σ) : List PatchCall :=
  match world.enter key with
  | (.ok (some (mode, scope)), world) =>
    Attempt.patchCalls cloud dnsRequeue (mode = .deleting) { world, scope, cancelled }
  | _ => []

/-- A read uses up faults, and changes nothing else. -/
theorem read_eq {α : Type} {call : StoreCall} {look : Store → α} {result : Except ControllerError α}
    {read : World σ}
    (h : (world.access call fun store => (.ok (look store), store)) = (result, read)) :
    ∃ faults, read = { world with faults } := by
  rcases world.access_eq call fun store => (.ok (look store), store) with
    ⟨message, faults, -, heq⟩ | ⟨faults, -, heq⟩
  · exact ⟨faults, congrArg Prod.snd (h.symm.trans heq)⟩
  · exact ⟨faults, congrArg Prod.snd (h.symm.trans heq)⟩

/-- An object that cannot be read ends the invocation. -/
theorem reconcile_of_unread {e : ControllerError} {read : World σ}
    (h : world.getAwsCluster key = (.error e, read)) :
    world.reconcile cloud dnsRequeue key cancelled = (.error e, read) ∧
      ∃ faults, read = { world with faults } := by
  refine ⟨?_, read_eq h⟩
  rw [reconcile, h]

/-- So does an owner that cannot be read. -/
theorem reconcile_of_unread_owner {object : AwsCluster} {name : String} {e : ControllerError}
    {read after : World σ} (h : world.getAwsCluster key = (.ok (some object), read))
    (hmanaged : object.metadata.isExternallyManaged = false)
    (howner : object.metadata.ownerCluster? = some name)
    (hread : read.getCluster ⟨object.metadata.ns.getD "", name⟩ = (.error e, after)) :
    world.reconcile cloud dnsRequeue key cancelled = (.error e, after) ∧
      ∃ faults, after = { world with faults } := by
  have hresolved : read.resolveOwner object = (.error e, after) := by
    simp only [resolveOwner, howner, hread]
  refine ⟨?_, ?_⟩
  · rw [reconcile, h]
    simp only [hmanaged, Bool.false_eq_true, if_false, hresolved]
  · obtain ⟨faults, rfl⟩ := read_eq h
    obtain ⟨faults', rfl⟩ := read_eq hread
    exact ⟨faults', rfl⟩

/-- The result of an invocation that comes to a pass: the error of the pass if there is one, else
the error of the close if there is one, else the outcome of the pass. -/
theorem fst_reconcile_of_entry {mode : Mode} {scope : Scope} {entered : World σ}
    (h : world.enter key = (.ok (some (mode, scope)), entered)) :
    (world.reconcile cloud dnsRequeue key cancelled).1
      = ((Attempt.pass cloud dnsRequeue (mode = .deleting) { world := entered, scope, cancelled }).1
        |>.bind fun outcome => (Attempt.pass cloud dnsRequeue (mode = .deleting)
          { world := entered, scope, cancelled }).2.close.1.map fun _ => outcome) := by
  rw [reconcile_eq, h]
  change (Attempt.finish (Attempt.pass cloud dnsRequeue (mode = .deleting)
    { world := entered, scope, cancelled })).1 = _
  rcases Attempt.pass cloud dnsRequeue (mode = .deleting)
    { world := entered, scope, cancelled } with
    ⟨e | outcome, b⟩
  · exact Attempt.finish_error e b
  · simp only [Attempt.finish]
    rcases b.close with ⟨_ | _, c⟩ <;> rfl

/-- A normal pass that cannot store the finalizer fails with that, and calls nothing. -/
theorem reconcile_of_unsecured {scope : Scope} {entered : World σ} {e : ControllerError}
    (h : world.enter key = (.ok (some (.active, scope)), entered))
    (herror : (Attempt.ensureFinalizer { world := entered, scope, cancelled }).1 = .error e) :
    (world.reconcile cloud dnsRequeue key cancelled).1 = .error e ∧
      (world.reconcile cloud dnsRequeue key cancelled).2.journal = world.journal := by
  have hrun :
      (Attempt.run cloud dnsRequeue false { world := entered, scope, cancelled }).1 = _ ∧ _ :=
    Attempt.run_of_error herror
  have hentered : entered.journal = world.journal := by
    have hreads := world.reads_enter key
    generalize world.store.entry key = found at hreads
    rw [h] at hreads
    cases hreads
    rfl
  rw [reconcile_eq, h]
  exact ⟨hrun.1, hrun.2.trans hentered⟩

/-- What an invocation leaves stored under its key is what its patch calls leave. -/
theorem leaves_reconcile (hkeyed : world.store.Keyed) (hquiet : cloud.Quiet) (dnsRequeue : Nat)
    (key : ObjectKey) (cancelled : Bool) :
    let made := (world.enter key).2.replay (world.patchCalls cloud dnsRequeue key cancelled)
    let after := (world.reconcile cloud dnsRequeue key cancelled).2
    made.2.SameStore after ∧
      Leaves key made.1 (world.store.awsClusters.get? key) (after.store.awsClusters.get? key) := by
  have hinvoked := world.invoked_reconcile cloud dnsRequeue key cancelled
  rw [patchCalls]
  generalize world.reconcile cloud dnsRequeue key cancelled = invocation at hinvoked
  cases hinvoked with
  | failed hentry =>
    rw [hentry]
    exact ⟨⟨rfl, rfl⟩, .nil _⟩
  | skipped hentry =>
    rw [hentry]
    exact ⟨⟨rfl, rfl⟩, .nil _⟩
  | @passed mode scope faults hentry hadmits result a hrun =>
    have hfresh := hadmits.fresh hkeyed faults cancelled
    have hleaves := hfresh.leaves_run hquiet dnsRequeue (mode = .deleting)
    rw [hrun] at hleaves
    rw [hentry, hadmits.stored]
    have hkey : scope.saved.key = key := hkeyed key scope.saved hadmits.stored
    rw [← hkey]
    exact hleaves

/-- Wherever calls of the store fail, an invocation reports it and does no harm. A read that fails
ends it with that error before anything is done. A finalizer that cannot be stored ends it with that
error before any service is called. The error of the pass counts before the one of the close, and
the invocation succeeds only if both do. What is stored under the key in the end is what was left
there by its patch calls: those that failed left nothing, and the others were applied in full. -/
theorem store_failures_do_no_harm (cloud : Cloud σ) (dnsRequeue : Nat) (key : ObjectKey)
    (cancelled : Bool) (world : World σ) :
    let out := world.reconcile cloud dnsRequeue key cancelled
    (∀ e read, world.getAwsCluster key = (.error e, read) →
      out = (.error e, read) ∧ ∃ faults, read = { world with faults }) ∧
    (∀ object name e read after, world.getAwsCluster key = (.ok (some object), read) →
      object.metadata.isExternallyManaged = false → object.metadata.ownerCluster? = some name →
      read.getCluster ⟨object.metadata.ns.getD "", name⟩ = (.error e, after) →
      out = (.error e, after) ∧ ∃ faults, after = { world with faults }) ∧
    (∀ mode scope entered, world.enter key = (.ok (some (mode, scope)), entered) →
      let a : Attempt σ := { world := entered, scope, cancelled }
      let pass := a.pass cloud dnsRequeue (mode = .deleting)
      (∀ e, mode = .active → a.ensureFinalizer.1 = .error e →
        out.1 = .error e ∧ out.2.journal = world.journal) ∧
      (∀ e, pass.1 = .error e → out.1 = .error e) ∧
      (∀ outcome e, pass.1 = .ok outcome → pass.2.close.1 = .error e → out.1 = .error e) ∧
      (∀ outcome, out.1 = .ok outcome → pass.1 = .ok outcome ∧ pass.2.close.1 = .ok ())) ∧
    (world.store.Keyed → cloud.Quiet →
      let made := (world.enter key).2.replay (world.patchCalls cloud dnsRequeue key cancelled)
      out.2.store = made.2.store ∧ out.2.faults = made.2.faults ∧
        Leaves key made.1 (world.store.awsClusters.get? key)
          (out.2.store.awsClusters.get? key)) := by
  refine ⟨fun e read h => reconcile_of_unread h,
    fun object name e read after h hmanaged howner hread =>
      reconcile_of_unread_owner h hmanaged howner hread,
    fun mode scope entered h => ⟨?_, ?_, ?_, ?_⟩, fun hkeyed hquiet => ?_⟩
  · rintro e rfl herror
    exact reconcile_of_unsecured h herror
  · intro e hpass
    rw [fst_reconcile_of_entry h, hpass]
    rfl
  · intro outcome e hpass hclose
    rw [fst_reconcile_of_entry h, hpass, hclose]
    rfl
  · intro outcome hok
    rw [reconcile_eq, h] at hok
    exact Attempt.finish_fst_eq_ok_iff.1 hok
  · obtain ⟨hsame, hleaves⟩ := leaves_reconcile hkeyed hquiet dnsRequeue key cancelled
    exact ⟨hsame.store, hsame.faults, hleaves⟩

end World

/-! ### Some failures -/

namespace Sample

/-- The world in which an object is stored beside its owner, and a call of the store is to fail. -/
def faulty (object : AwsCluster) (call : StoreCall) : World Unit :=
  world [.putCluster owner, .putAwsCluster object, .inject ⟨call, 0, "conflict"⟩]

/-- The finalizer is not stored before the close. -/
def unsecured : World Unit := faulty (object none) .patch

/-- The object is released, and this is not stored. -/
def unclosed : World Unit := faulty (deleted (some [clusterFinalizer])) .patch

theorem keyed_faulty (object : AwsCluster) (call : StoreCall) : (faulty object call).store.Keyed :=
  (reachable_world _).keyed Cloud.quiet_obliging

end Sample

namespace World

/-- An object that cannot be read, an owner that cannot be read, a finalizer that is stored by the
close only, and a deletion whose close fails. -/
theorem sample_store_failures_do_no_harm :
    ((Sample.faulty (Sample.object none) .getAwsCluster).reconcile Cloud.obliging 15 Sample.key
      false).1 = .error (.io "conflict") ∧
    ((Sample.faulty (Sample.object none) .getCluster).reconcile Cloud.obliging 15 Sample.key
      false).1 = .error (.io "conflict") ∧
    (Sample.unsecured.reconcile Cloud.obliging 15 Sample.key false).1 = .error (.io "conflict") ∧
    (Sample.unsecured.reconcile Cloud.obliging 15 Sample.key false).2.journal = [] ∧
    (∃ first second version, ((Sample.unsecured.enter Sample.key).2.replay
        (Sample.unsecured.patchCalls Cloud.obliging 15 Sample.key false)).1
          = [(first, .error (.io "conflict")), (second, .ok version)] ∧
      (Sample.unsecured.reconcile Cloud.obliging 15 Sample.key false).2.store.awsClusters.get?
        Sample.key = second.outcome) ∧
    (Sample.unclosed.reconcile Cloud.obliging 15 Sample.key false).1 = .error (.io "conflict") := by
  have hentered : Sample.unsecured.enter Sample.key
      = (.ok (some (.active, ⟨Sample.owner, Sample.object none, Sample.object none⟩)),
        (Sample.unsecured.enter Sample.key).2) := Prod.ext (by decide +kernel) rfl
  have hreleased : Sample.unclosed.enter Sample.key
      = (.ok (some (.deleting, ⟨Sample.owner, Sample.deleted (some [clusterFinalizer]),
          Sample.deleted (some [clusterFinalizer])⟩)),
        (Sample.unclosed.enter Sample.key).2) := Prod.ext (by decide +kernel) rfl
  obtain ⟨hread, -⟩ := store_failures_do_no_harm Cloud.obliging 15 Sample.key false
    (Sample.faulty (Sample.object none) .getAwsCluster)
  obtain ⟨-, howned, -⟩ := store_failures_do_no_harm Cloud.obliging 15 Sample.key false
    (Sample.faulty (Sample.object none) .getCluster)
  obtain ⟨-, -, hsecuring, hstored⟩ :=
    store_failures_do_no_harm Cloud.obliging 15 Sample.key false Sample.unsecured
  obtain ⟨-, -, hclosing, -⟩ :=
    store_failures_do_no_harm Cloud.obliging 15 Sample.key false Sample.unclosed
  obtain ⟨hunsecured, hsilent⟩ :=
    (hsecuring _ _ _ hentered).1 (.io "conflict") rfl (by decide +kernel)
  have hunclosed := (hclosing _ _ _ hreleased).2.2.1 .noRequeue (.io "conflict") (by decide +kernel)
    (by decide +kernel)
  have hunread := (hread (.io "conflict") _ (Prod.ext (by decide +kernel) rfl)).1
  have hunowned := (howned (Sample.object none) "owner" (.io "conflict") _ _
    (Prod.ext (by decide +kernel) rfl) (by decide) (by decide) (Prod.ext (by decide +kernel) rfl)).1
  obtain ⟨-, -, hleaves⟩ := hstored (Sample.keyed_faulty _ _) Cloud.quiet_obliging
  refine ⟨congrArg Prod.fst hunread, congrArg Prod.fst hunowned, hunsecured, hsilent, ?_, hunclosed⟩
  have hmade : ((Sample.unsecured.enter Sample.key).2.replay
      (Sample.unsecured.patchCalls Cloud.obliging 15 Sample.key false)).1.map
        (fun made => (made.1.after.key, made.2))
      = [(Sample.key, .error (.io "conflict")), (Sample.key, .ok (some "3"))] := by
    decide +kernel
  generalize ((Sample.unsecured.enter Sample.key).2.replay
    (Sample.unsecured.patchCalls Cloud.obliging 15 Sample.key false)).1 = made at hmade hleaves
  obtain ⟨⟨first, failure⟩, rest, rfl, hfirst, hrest⟩ := List.map_eq_cons_iff.1 hmade
  obtain ⟨⟨second, success⟩, others, rfl, hsecond, hothers⟩ := List.map_eq_cons_iff.1 hrest
  cases List.map_eq_nil_iff.1 hothers
  obtain ⟨-, rfl⟩ := Prod.mk.inj hfirst
  obtain ⟨hkey', rfl⟩ := Prod.mk.inj hsecond
  refine ⟨first, second, _, rfl, ?_⟩
  exact hleaves.of_failed.eq_outcome hkey'

end World

end ClusterInfra
