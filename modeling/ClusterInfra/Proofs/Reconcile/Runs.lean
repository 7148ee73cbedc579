import ClusterInfra.Proofs.Reconcile.Entry
import ClusterInfra.Proofs.Reconcile.Passes
import ClusterInfra.Proofs.Sample
/-!
Runs of the reconciler.

A run starts from an empty store and takes steps: somebody stores an object, a fault is prepared, or
the reconciler is invoked for a key. In every world that a run leads to, each object is stored under
its own key.
-/

namespace ClusterInfra

/-! ### Objects under their own keys -/

/-- Every object is stored under its own key. -/
def Store.Keyed (store : Store) : Prop :=
  ∀ key object, store.awsClusters.get? key = some object → object.key = key

namespace Store

variable {store store' : Store} {key : ObjectKey}

theorem keyed_empty : ({} : Store).Keyed := fun _ _ h => nomatch h

theorem Keyed.insertAwsCluster (h : store.Keyed) (object : AwsCluster) :
    (store.insertAwsCluster object).Keyed := by
  intro key found hfound
  by_cases hkey : key = object.key
  · subst hkey
    cases (Table.get?_insert_self store.awsClusters object.key _).symm.trans hfound
    rfl
  · exact h key found ((Table.get?_insert_of_ne _ hkey _).symm.trans hfound)

/-- Persisting a change leaves every object under its key, since it stores the same object. -/
theorem Keyed.alters (h : store.Keyed) {before after : AwsCluster} {stored : Option AwsCluster}
    {result : Except ControllerError (Option String)} {patches : List Json.Patch}
    (hpersisted : Persisted before after (store.awsClusters.get? key) result stored patches)
    (halters : store.Alters key stored patches store') : store'.Keyed := by
  intro other updated hupdated
  by_cases hother : other = key
  · subst hother
    rw [halters.stored] at hupdated
    subst hupdated
    cases hobject : store.awsClusters.get? other with
    | none => rw [hobject] at hpersisted; cases hpersisted.eq_none
    | some object =>
      rw [hobject] at hpersisted
      rw [hpersisted.sameObject.key, h other object hobject]
  · exact h other updated ((halters.others other hother).symm.trans hupdated)

end Store

variable {σ : Type} {cloud : Cloud σ}

/-- Every piece of a pass leaves the objects under their keys. -/
theorem Attempt.respects_keyed : Respects (σ := σ) (fun _ => ())
    (fun a b => a.world.store.Keyed → b.world.store.Keyed) where
  trans h h' := fun ha => h' (h ha)
  advances h := fun ha => h.store ▸ ha
  persist a := by
    intro h
    have hpersists := a.persists_of_persist
    generalize a.persist = persisted at hpersists
    rcases persisted with ⟨result, b⟩
    cases hpersists with
    | unchanged => exact h
    | failed faults hpersisted halters => exact h.alters hpersisted halters
    | done faults hpersisted halters => exact h.alters hpersisted halters
  addFinalizer _ := fun h => h

namespace World

theorem keyed_reconcile (hquiet : cloud.Quiet) {world : World σ} (h : world.store.Keyed)
    (dnsRequeue : Nat) (key : ObjectKey) (cancelled : Bool) :
    (world.reconcile cloud dnsRequeue key cancelled).2.store.Keyed := by
  have hinvoked := world.invoked_reconcile cloud dnsRequeue key cancelled
  generalize world.reconcile cloud dnsRequeue key cancelled = invocation at hinvoked
  cases hinvoked with
  | failed => exact h
  | skipped => exact h
  | @passed mode scope faults hentry hadmits result a hrun =>
    have hpass := (Attempt.respects_keyed.pieces hquiet fun _ _ _ _ => rfl).run dnsRequeue
      (mode = .deleting) { world := { world with faults }, scope, cancelled } (fun _ _ _ h => h)
    rw [hrun] at hpass
    exact hpass h

/-! ### Runs -/

/-- A step of a run. -/
inductive Step
  | putAwsCluster (object : AwsCluster)
  | putCluster (cluster : Cluster)
  | inject (fault : StoreFault)
  | reconcile (key : ObjectKey) (cancelled : Bool)

/-- Takes a step. -/
def perform (cloud : Cloud σ) (dnsRequeue : Nat) (world : World σ) : Step → World σ
  | .putAwsCluster object => { world with store := world.store.insertAwsCluster object }
  | .putCluster cluster => { world with store := world.store.insertCluster cluster }
  | .inject fault => { world with faults := world.faults ++ [fault] }
  | .reconcile key cancelled => (world.reconcile cloud dnsRequeue key cancelled).2

/-- The worlds that runs lead to. -/
inductive Reachable (cloud : Cloud σ) (dnsRequeue : Nat) : World σ → Prop
  | start (clock : Clock) (state : σ) : Reachable cloud dnsRequeue { clock, cloud := state }
  | step {world : World σ} (h : Reachable cloud dnsRequeue world) (step : Step) :
      Reachable cloud dnsRequeue (perform cloud dnsRequeue world step)

theorem keyed_perform (hquiet : cloud.Quiet) (dnsRequeue : Nat) {world : World σ}
    (h : world.store.Keyed) (step : Step) : (perform cloud dnsRequeue world step).store.Keyed := by
  cases step with
  | putAwsCluster object => exact h.insertAwsCluster object
  | putCluster cluster => exact h
  | inject fault => exact h
  | reconcile key cancelled => exact keyed_reconcile hquiet h dnsRequeue key cancelled

theorem Reachable.keyed (hquiet : cloud.Quiet) {dnsRequeue : Nat} {world : World σ}
    (h : world.Reachable cloud dnsRequeue) : world.store.Keyed := by
  induction h with
  | start clock state => exact Store.keyed_empty
  | step _ step ih => exact keyed_perform hquiet dnsRequeue ih step

theorem Reachable.foldl {dnsRequeue : Nat} : ∀ (steps : List Step) {world : World σ},
    world.Reachable cloud dnsRequeue →
      (steps.foldl (perform cloud dnsRequeue) world).Reachable cloud dnsRequeue
  | [], _, h => h
  | next :: rest, _, h => Reachable.foldl rest (h.step next)

end World

/-! ### A small world -/

/-- Services that do all that is asked of them without leaving a trace, and a resolver that knows
every name. -/
def Cloud.obliging : Cloud Unit where
  call _ _ object _ := ({ object, ending := .done }, ())
  lookUp _ _ := (.answered true, ())

theorem Cloud.quiet_obliging : Cloud.obliging.Quiet := fun _ _ _ _ => rfl

theorem Cloud.keeps_obliging {ν : Type} (view : Metadata → ν) : Cloud.obliging.Keeps view :=
  fun _ _ _ _ => rfl

/-- Services that do all that is asked of them, and change the object on the way. -/
def Cloud.changing (change : ServiceCall → AwsCluster → AwsCluster) : Cloud Unit where
  call call _ object _ := ({ object := change call object, ending := .done }, ())
  lookUp _ _ := (.answered true, ())

theorem Cloud.quiet_changing (change : ServiceCall → AwsCluster → AwsCluster) :
    (Cloud.changing change).Quiet := fun _ _ _ _ => rfl

namespace Sample

/-- The world after some steps. -/
def world (steps : List World.Step) : World Unit :=
  steps.foldl (World.perform Cloud.obliging 15) { clock := { reading := fun _ => newYear }, cloud := () }

/-- The steps that store an object without finalizers, to which the next patch will be refused. -/
def refusing : List World.Step :=
  [.putCluster owner, .putAwsCluster (object none), .inject ⟨.patch, 0, "conflict"⟩]

/-- The world in which an object is stored beside its owner. -/
def holding (object : AwsCluster) : World Unit := world [.putCluster owner, .putAwsCluster object]

theorem reachable_world (steps : List World.Step) : (world steps).Reachable Cloud.obliging 15 :=
  .foldl steps (.start _ _)

theorem reachable_holding (object : AwsCluster) : (holding object).Reachable Cloud.obliging 15 :=
  reachable_world _

/-- That world is one of any services, since they have not been called. -/
theorem reachable_stored (cloud : Cloud Unit) (object : AwsCluster) :
    (holding object).Reachable cloud 15 :=
  ((World.Reachable.start _ ()).step (.putCluster owner)).step (.putAwsCluster object)

end Sample

end ClusterInfra
