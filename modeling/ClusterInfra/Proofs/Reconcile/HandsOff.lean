import ClusterInfra.Proofs.Reconcile.Invocation
import Mathlib.Logic.ExistsUnique
/-!
When an invocation keeps its hands off.

What an invocation does is decided by what it finds before its pass. The findings count in this
order: the object cannot be read, it is not there, something else manages it, no `Cluster` owns it,
its owner cannot be read or is not there, one of the two is paused, the object lacks what a pass
needs. An object that gets past all of them goes through one pass. In every other case nothing is
called, looked up or stored, so a paused object stays what it is through any run.
-/

namespace ClusterInfra

/-! ### What there is to find -/

/-- The reference is to a `Cluster`, in any version of its group. -/
def OwnerReference.IsCluster (owner : OwnerReference) : Prop :=
  groupOf owner.apiVersion = clusterGroup ∧ owner.kind = "Cluster"

theorem OwnerReference.resourceKind_eq_cluster_iff {owner : OwnerReference} :
    owner.resourceKind = .cluster ↔ owner.IsCluster := by
  rw [resourceKind, ResourceKind.ofType, IsCluster]
  split
  next h => exact ⟨fun _ => h, fun _ => rfl⟩
  next h =>
    refine ⟨fun heq => ?_, fun hcluster => absurd hcluster h⟩
    split at heq <;> cases heq

namespace Metadata

/-- No owner is a `Cluster`. -/
def Unowned (metadata : Metadata) : Prop :=
  ∀ owner ∈ metadata.ownerReferences.getD [], ¬ owner.IsCluster

/-- The first owner that is a `Cluster` has this name. -/
def OwnedBy (metadata : Metadata) (name : String) : Prop :=
  ∃ before owner after, metadata.ownerReferences.getD [] = before ++ owner :: after ∧
    (∀ other ∈ before, ¬ other.IsCluster) ∧ owner.IsCluster ∧ owner.name = name

theorem ownerCluster?_eq_none_iff {metadata : Metadata} :
    metadata.ownerCluster? = none ↔ metadata.Unowned := by
  rw [ownerCluster?, Option.map_eq_none_iff, List.find?_eq_none, Unowned]
  simp only [decide_eq_true_eq, OwnerReference.resourceKind_eq_cluster_iff]

theorem ownerCluster?_eq_some_iff {metadata : Metadata} {name : String} :
    metadata.ownerCluster? = some name ↔ metadata.OwnedBy name := by
  rw [ownerCluster?, Option.map_eq_some_iff, OwnedBy]
  simp only [List.find?_eq_some_iff_append, decide_eq_true_eq, Bool.not_eq_true',
    decide_eq_false_iff_not, OwnerReference.resourceKind_eq_cluster_iff]
  constructor
  · rintro ⟨owner, ⟨hcluster, before, after, heq, hbefore⟩, hname⟩
    exact ⟨before, owner, after, heq, hbefore, hcluster, hname⟩
  · rintro ⟨before, owner, after, heq, hbefore, hcluster, hname⟩
    exact ⟨owner, ⟨hcluster, before, after, heq, hbefore⟩, hname⟩

end Metadata

/-- The owner pauses its objects, by its spec or by the annotation with any value. -/
def Cluster.Pauses (owner : Cluster) : Prop :=
  owner.spec.paused = true ∨ owner.metadata.hasAnnotation Annotation.paused = true

instance (owner : Cluster) : Decidable owner.Pauses := inferInstanceAs (Decidable (_ ∨ _))

namespace AwsCluster

/-- The object itself carries the pause annotation, with any value. -/
def IsPaused (object : AwsCluster) : Prop :=
  object.metadata.hasAnnotation Annotation.paused = true

instance (object : AwsCluster) : Decidable object.IsPaused := inferInstanceAs (Decidable (_ = _))

/-- What an object lacks that a pass needs, with the message that says so. -/
inductive Lacks (object : AwsCluster) : String → Prop
  | name (h : object.metadata.name.getD "" = "") : Lacks object "AWSCluster has no name"
  | ns (hname : object.metadata.name.getD "" ≠ "") (h : object.metadata.ns.getD "" = "") :
      Lacks object ("AWSCluster " ++ object.metadata.name.getD "" ++ " has no namespace")
  | region (hname : object.metadata.name.getD "" ≠ "") (hns : object.metadata.ns.getD "" ≠ "")
      (h : object.spec.region = "") :
      Lacks object ("AWSCluster " ++ object.metadata.name.getD "" ++ " has no region")

/-- The object has all that a pass needs. -/
structure Suffices (object : AwsCluster) : Prop where
  name : object.metadata.name.getD "" ≠ ""
  ns : object.metadata.ns.getD "" ≠ ""
  region : object.spec.region ≠ ""

theorem Lacks.scope_of {object : AwsCluster} {message : String} (h : object.Lacks message)
    (owner : Cluster) : Scope.of owner object = .error (.invalidScope message) := by
  cases h <;> simp_all [Scope.of, isBlankName, String.isEmpty_iff]

theorem Suffices.scope_of {object : AwsCluster} (h : object.Suffices) (owner : Cluster) :
    Scope.of owner object = .ok ⟨owner, object, object⟩ := by
  simp [Scope.of, isBlankName, String.isEmpty_iff, h.name, h.ns, h.region]

theorem lacks_or_suffices (object : AwsCluster) :
    (∃ message, object.Lacks message) ∨ object.Suffices := by
  by_cases hname : object.metadata.name.getD "" = ""
  · exact .inl ⟨_, .name hname⟩
  · by_cases hns : object.metadata.ns.getD "" = ""
    · exact .inl ⟨_, .ns hname hns⟩
    · by_cases hregion : object.spec.region = ""
      · exact .inl ⟨_, .region hname hns hregion⟩
      · exact .inr ⟨hname, hns, hregion⟩

end AwsCluster

/-- The object is paused, by itself or by the stored owner that it names. -/
def Store.Pauses (store : Store) (object : AwsCluster) : Prop :=
  object.IsPaused ∨ ∃ name owner, object.metadata.OwnedBy name ∧
    store.clusters.get? ⟨object.metadata.ns.getD "", name⟩ = some owner ∧ owner.Pauses

/-- What an invocation finds. -/
inductive Finding
  /-- It cannot go on. -/
  | failure (error : ControllerError)
  /-- There is nothing to do. -/
  | idle
  /-- The object is due for the normal pass or, if its deletion was requested, for the delete pass.
  -/
  | due (deleting : Bool) (object : AwsCluster) (owner : Cluster)

/-- What an invocation goes on with. -/
def Finding.entry : Finding → Except ControllerError (Option (Mode × Scope))
  | failure error => .error error
  | idle => .ok none
  | due deleting object owner =>
    .ok (some (if deleting then .deleting else .active, ⟨owner, object, object⟩))

theorem Finding.entry_injective {a b : Finding} (h : a.entry = b.entry) : a = b := by
  rcases a with e | _ | ⟨_ | _, object, owner⟩ <;> rcases b with e' | _ | ⟨_ | _, object', owner'⟩ <;>
    cases h <;> rfl

namespace World

variable {σ : Type} {world : World σ} {key : ObjectKey} {faults : List StoreFault}

/-- The object is there to be read, is nobody else's to manage and names its owner. -/
structure Meets (world : World σ) (key : ObjectKey) (object : AwsCluster) (name : String)
    (faults : List StoreFault) : Prop where
  read : StoreFault.strike .getAwsCluster world.faults = (none, faults)
  stored : world.store.awsClusters.get? key = some object
  managed : object.metadata.hasAnnotation Annotation.managedBy = false
  named : object.metadata.OwnedBy name

/-- The owner in the namespace of the object is there to be read as well. -/
def MeetsBoth (world : World σ) (key : ObjectKey) (object : AwsCluster) (owner : Cluster)
    (faults : List StoreFault) : Prop :=
  ∃ name between, world.Meets key object name between ∧
    StoreFault.strike .getCluster between = (none, faults) ∧
    world.store.clusters.get? ⟨object.metadata.ns.getD "", name⟩ = some owner

/-- What an invocation finds, and the faults that its reading leaves. -/
inductive Finds (world : World σ) (key : ObjectKey) : List StoreFault → Finding → Prop
  | unread {message : String} {faults : List StoreFault}
      (hread : StoreFault.strike .getAwsCluster world.faults = (some message, faults)) :
      Finds world key faults (.failure (.io message))
  | missing {faults : List StoreFault}
      (hread : StoreFault.strike .getAwsCluster world.faults = (none, faults))
      (hstored : world.store.awsClusters.get? key = none) : Finds world key faults .idle
  | managed {faults : List StoreFault} {object : AwsCluster}
      (hread : StoreFault.strike .getAwsCluster world.faults = (none, faults))
      (hstored : world.store.awsClusters.get? key = some object)
      (hmanaged : object.metadata.hasAnnotation Annotation.managedBy = true) :
      Finds world key faults .idle
  | unowned {faults : List StoreFault} {object : AwsCluster}
      (hread : StoreFault.strike .getAwsCluster world.faults = (none, faults))
      (hstored : world.store.awsClusters.get? key = some object)
      (hmanaged : object.metadata.hasAnnotation Annotation.managedBy = false)
      (howner : object.metadata.Unowned) : Finds world key faults .idle
  | ownerUnread {between faults : List StoreFault} {object : AwsCluster} {name message : String}
      (h : world.Meets key object name between)
      (howner : StoreFault.strike .getCluster between = (some message, faults)) :
      Finds world key faults (.failure (.io message))
  | ownerMissing {between faults : List StoreFault} {object : AwsCluster} {name : String}
      (h : world.Meets key object name between)
      (hread : StoreFault.strike .getCluster between = (none, faults))
      (howner : world.store.clusters.get? ⟨object.metadata.ns.getD "", name⟩ = none) :
      Finds world key faults
        (.failure (.ownerNotFound (object.metadata.ns.getD "" ++ "/" ++ name)))
  | paused {faults : List StoreFault} {object : AwsCluster} {owner : Cluster}
      (h : world.MeetsBoth key object owner faults) (hpaused : owner.Pauses ∨ object.IsPaused) :
      Finds world key faults .idle
  | invalid {faults : List StoreFault} {object : AwsCluster} {owner : Cluster} {message : String}
      (h : world.MeetsBoth key object owner faults) (hlive : ¬ (owner.Pauses ∨ object.IsPaused))
      (hlacks : object.Lacks message) :
      Finds world key faults (.failure (.invalidScope message))
  | due {faults : List StoreFault} {object : AwsCluster} {owner : Cluster}
      (h : world.MeetsBoth key object owner faults) (hlive : ¬ (owner.Pauses ∨ object.IsPaused))
      (hsuffices : object.Suffices) :
      Finds world key faults (.due object.metadata.deletionTimestamp.isSome object owner)

/-! ### The decision -/

theorem access_of_struck {α : Type} {call : StoreCall} {message : String}
    {run : Store → Except ControllerError α × Store} (world : World σ)
    (h : StoreFault.strike call world.faults = (some message, faults)) :
    world.access call run = (.error (.io message), { world with faults }) := by
  rw [access, h]

theorem access_of_spared {α : Type} {call : StoreCall} {look : Store → α} (world : World σ)
    (h : StoreFault.strike call world.faults = (none, faults)) :
    world.access call (fun store => (.ok (look store), store))
      = (.ok (look world.store), { world with faults }) := by
  rw [access, h]

theorem paused_iff {object : AwsCluster} {owner : Cluster} :
    (owner.isPaused || object.metadata.isPaused) = true ↔ owner.Pauses ∨ object.IsPaused := by
  rw [Cluster.isPaused, Bool.or_eq_true, Bool.or_eq_true]
  rfl

theorem scope?_of_paused {object : AwsCluster} {owner : Cluster}
    (h : owner.Pauses ∨ object.IsPaused) : scope? object (some owner) = .ok none := by
  have hmode : Mode.observe object (some owner) = .paused := if_pos (paused_iff.2 h)
  unfold scope?
  rw [hmode]

theorem scope?_of_live {object : AwsCluster} {owner : Cluster}
    (h : ¬ (owner.Pauses ∨ object.IsPaused)) : scope? object (some owner)
      = (Scope.of owner object).map fun scope =>
          some (if object.metadata.isDeleting then .deleting else .active, scope) := by
  have hmode : Mode.observe object (some owner)
      = if object.metadata.isDeleting then .deleting else .active :=
    if_neg fun hpaused => h (paused_iff.1 hpaused)
  unfold scope?
  rw [hmode]
  cases object.metadata.isDeleting <;> rfl

theorem Meets.enter {object : AwsCluster} {name : String} (h : world.Meets key object name faults) :
    world.enter key =
      match resolveOwner { world with faults } object with
      | (.error e, world) => (.error e, world)
      | (.ok owner, world) => (scope? object owner, world) := by
  rw [World.enter, getAwsCluster, access_of_spared world h.read, h.stored]
  exact if_neg (Bool.eq_false_iff.1 h.managed)

theorem MeetsBoth.enter {object : AwsCluster} {owner : Cluster}
    (h : world.MeetsBoth key object owner faults) :
    world.enter key = (scope? object (some owner), { world with faults }) := by
  obtain ⟨name, between, hmeets, hread, howner⟩ := h
  rw [hmeets.enter, resolveOwner, Metadata.ownerCluster?_eq_some_iff.2 hmeets.named]
  simp only
  rw [getCluster, access_of_spared { world with faults := between } hread, howner]

/-- A finding is what the invocation goes on with. -/
theorem Finds.enter {finding : Finding} (h : world.Finds key faults finding) :
    world.enter key = (finding.entry, { world with faults }) := by
  cases h with
  | unread hread =>
    rw [World.enter, getAwsCluster, access_of_struck world hread]
    rfl
  | missing hread hstored =>
    rw [World.enter, getAwsCluster, access_of_spared world hread, hstored]
    rfl
  | managed hread hstored hmanaged =>
    rw [World.enter, getAwsCluster, access_of_spared world hread, hstored]
    exact if_pos hmanaged
  | @unowned faults object hread hstored hmanaged howner =>
    have hours : ¬ object.metadata.isExternallyManaged = true := Bool.eq_false_iff.1 hmanaged
    rw [World.enter, getAwsCluster, access_of_spared world hread, hstored]
    simp only
    rw [if_neg hours, resolveOwner, Metadata.ownerCluster?_eq_none_iff.2 howner]
    rfl
  | @ownerUnread between faults object name message hmeets howner =>
    rw [hmeets.enter, resolveOwner, Metadata.ownerCluster?_eq_some_iff.2 hmeets.named]
    simp only
    rw [getCluster, access_of_struck { world with faults := between } howner]
    rfl
  | @ownerMissing between faults object name hmeets hread howner =>
    rw [hmeets.enter, resolveOwner, Metadata.ownerCluster?_eq_some_iff.2 hmeets.named]
    simp only
    rw [getCluster, access_of_spared { world with faults := between } hread, howner]
    rfl
  | @paused faults object owner hboth hpaused =>
    rw [hboth.enter, scope?_of_paused hpaused]
    rfl
  | @invalid faults object owner message hboth hlive hlacks =>
    rw [hboth.enter, scope?_of_live hlive, hlacks.scope_of owner]
    rfl
  | @due faults object owner hboth hlive hsuffices =>
    rw [hboth.enter, scope?_of_live hlive, hsuffices.scope_of owner]
    rfl

/-- There is always something to find. -/
theorem exists_finds (world : World σ) (key : ObjectKey) :
    ∃ faults finding, world.Finds key faults finding := by
  rcases hread : StoreFault.strike .getAwsCluster world.faults with ⟨_ | message, between⟩
  · cases hstored : world.store.awsClusters.get? key with
    | none => exact ⟨_, _, .missing hread hstored⟩
    | some object =>
      cases hmanaged : object.metadata.hasAnnotation Annotation.managedBy with
      | true => exact ⟨_, _, .managed hread hstored hmanaged⟩
      | false =>
        cases hnamed : object.metadata.ownerCluster? with
        | none =>
          have hunowned := Metadata.ownerCluster?_eq_none_iff.1 hnamed
          exact ⟨_, _, .unowned hread hstored hmanaged hunowned⟩
        | some name =>
          have hmeets : world.Meets key object name between :=
            ⟨hread, hstored, hmanaged, Metadata.ownerCluster?_eq_some_iff.1 hnamed⟩
          rcases hread' : StoreFault.strike .getCluster between with ⟨_ | message, faults⟩
          · cases howner : world.store.clusters.get? ⟨object.metadata.ns.getD "", name⟩ with
            | none => exact ⟨_, _, .ownerMissing hmeets hread' howner⟩
            | some owner =>
              have hboth : world.MeetsBoth key object owner faults :=
                ⟨name, between, hmeets, hread', howner⟩
              by_cases hpaused : owner.Pauses ∨ object.IsPaused
              · exact ⟨_, _, .paused hboth hpaused⟩
              · rcases object.lacks_or_suffices with ⟨message, hlacks⟩ | hsuffices
                · exact ⟨_, _, .invalid hboth hpaused hlacks⟩
                · exact ⟨_, _, .due hboth hpaused hsuffices⟩
          · exact ⟨_, _, .ownerUnread hmeets hread'⟩
  · exact ⟨_, _, .unread hread⟩

/-- There is one thing to find. -/
theorem Finds.unique {faults' : List StoreFault} {finding finding' : Finding}
    (h : world.Finds key faults finding) (h' : world.Finds key faults' finding') :
    (faults, finding) = (faults', finding') := by
  have henter := h.enter.symm.trans h'.enter
  have hentry : finding.entry = finding'.entry := congrArg Prod.fst henter
  have hfaults : faults = faults' := congrArg (·.2.faults) henter
  rw [Finding.entry_injective hentry, hfaults]

/-! ### What is made of a finding -/

section Invocation

variable (cloud : Cloud σ) (dnsRequeue : Nat) (cancelled : Bool)

theorem Finds.reconcile_failure {e : ControllerError} (h : world.Finds key faults (.failure e)) :
    world.reconcile cloud dnsRequeue key cancelled = (.error e, { world with faults }) := by
  rw [reconcile_eq, h.enter]
  rfl

theorem Finds.reconcile_idle (h : world.Finds key faults .idle) :
    world.reconcile cloud dnsRequeue key cancelled = (.ok .noRequeue, { world with faults }) := by
  rw [reconcile_eq, h.enter]
  rfl

/-- The attempt on an object that is due. -/
def begin (world : World σ) (faults : List StoreFault) (object : AwsCluster) (owner : Cluster)
    (cancelled : Bool) : Attempt σ where
  world := { world with faults }
  scope := ⟨owner, object, object⟩
  cancelled

theorem Finds.reconcile_due {deleting : Bool} {object : AwsCluster} {owner : Cluster}
    (h : world.Finds key faults (.due deleting object owner)) :
    ∃ result a,
      Attempt.finish (if deleting then (world.begin faults object owner cancelled).runDelete cloud
        else (world.begin faults object owner cancelled).runNormal cloud dnsRequeue) = (result, a) ∧
      world.reconcile cloud dnsRequeue key cancelled = (result, a.world) := by
  refine ⟨_, _, rfl, ?_⟩
  rw [reconcile_eq, h.enter]
  cases deleting <;> rfl

end Invocation

/-! ### Paused objects -/

/-- An invocation for a paused object leaves no more than a fault behind. -/
theorem reconcile_paused (cloud : Cloud σ) (dnsRequeue : Nat) (cancelled : Bool)
    {object : AwsCluster} (hstored : world.store.awsClusters.get? key = some object)
    (hpaused : world.store.Pauses object) :
    ∃ faults, (world.reconcile cloud dnsRequeue key cancelled).2 = { world with faults } := by
  obtain ⟨faults, finding, hfinds⟩ := world.exists_finds key
  cases finding with
  | failure e => exact ⟨faults, by rw [hfinds.reconcile_failure]⟩
  | idle => exact ⟨faults, by rw [hfinds.reconcile_idle]⟩
  | due deleting found owner =>
    cases hfinds with
    | due hboth hlive hsuffices =>
      obtain ⟨name, between, hmeets, -, howner⟩ := hboth
      cases hstored.symm.trans hmeets.stored
      refine absurd ?_ hlive
      rcases hpaused with hpaused | ⟨name', owner', hnamed, howner', hpaused⟩
      · exact .inr hpaused
      · have hname := (Metadata.ownerCluster?_eq_some_iff.2 hnamed).symm.trans
          (Metadata.ownerCluster?_eq_some_iff.2 hmeets.named)
        cases hname
        cases howner.symm.trans howner'
        exact .inl hpaused

/-- A step that happens to other objects: it neither stores the object anew, nor takes a pause away
that the object has from its owner. -/
def Step.Bypasses (object : AwsCluster) : Step → Prop
  | .putAwsCluster other => other.key ≠ object.key
  | .putCluster cluster => object.IsPaused ∨ cluster.Pauses ∨
      ∀ name, object.metadata.OwnedBy name → cluster.key ≠ ⟨object.metadata.ns.getD "", name⟩
  | .inject _ => True
  | .reconcile _ _ => True

/-- A paused object is stored under its key, and the state of the cloud is fit. -/
structure Dormant (fit : σ → Prop) (key : ObjectKey) (object : AwsCluster) (world : World σ) :
    Prop where
  keyed : world.store.Keyed
  stored : world.store.awsClusters.get? key = some object
  paused : world.store.Pauses object
  fit : fit world.cloud

variable {cloud : Cloud σ} {fit : σ → Prop} {object : AwsCluster}

theorem Dormant.perform (hspares : cloud.SparesKey fit key) (dnsRequeue : Nat)
    (h : Dormant fit key object world) (step : Step) (hstep : step.Bypasses object) :
    Dormant fit key object (perform cloud dnsRequeue world step) := by
  cases step with
  | putAwsCluster other =>
    have hother : key ≠ other.key := fun heq => hstep ((h.keyed key object h.stored).trans heq).symm
    exact ⟨h.keyed.insertAwsCluster other, (Table.get?_insert_of_ne _ hother _).trans h.stored,
      h.paused, h.fit⟩
  | putCluster cluster =>
    refine ⟨h.keyed, h.stored, ?_, h.fit⟩
    rcases h.paused with hpaused | ⟨name, owner, hnamed, howner, hpaused⟩
    · exact .inl hpaused
    · by_cases hkey : cluster.key = ⟨object.metadata.ns.getD "", name⟩
      · rcases hstep with hself | hcluster | hother
        · exact .inl hself
        · refine .inr ⟨name, cluster, hnamed, ?_, hcluster⟩
          rw [← hkey]
          exact Table.get?_insert_self ..
        · exact absurd hkey (hother name hnamed)
      · refine .inr ⟨name, owner, hnamed, ?_, hpaused⟩
        exact (Table.get?_insert_of_ne _ (fun heq => hkey heq.symm) _).trans howner
  | inject fault => exact ⟨h.keyed, h.stored, h.paused, h.fit⟩
  | reconcile other cancelled =>
    by_cases hother : key = other
    · subst hother
      obtain ⟨faults, heq⟩ := reconcile_paused cloud dnsRequeue cancelled h.stored h.paused
      rw [World.perform, heq]
      exact ⟨h.keyed, h.stored, h.paused, h.fit⟩
    · have hclusters := clusters_reconcile cloud dnsRequeue other cancelled world
      obtain ⟨hfit, hkeyed, halone⟩ := others_reconcile dnsRequeue cancelled h.keyed
        hspares h.fit hother
      refine ⟨hkeyed, halone.trans h.stored, ?_, hfit⟩
      rw [World.perform, Store.Pauses, hclusters]
      exact h.paused

theorem Dormant.foldl (hspares : cloud.SparesKey fit key) (dnsRequeue : Nat) :
    ∀ (steps : List Step) {world : World σ}, Dormant fit key object world →
      (∀ step ∈ steps, step.Bypasses object) →
        Dormant fit key object (steps.foldl (World.perform cloud dnsRequeue) world)
  | [], _, h, _ => h
  | step :: rest, _, h, hsteps => by
    rw [List.forall_mem_cons] at hsteps
    exact Dormant.foldl hspares dnsRequeue rest (h.perform hspares dnsRequeue step hsteps.1) hsteps.2

end World

namespace Sample

/-- The object with its deletion requested and an empty pause annotation. -/
def paused : AwsCluster :=
  let object := deleted (some [clusterFinalizer])
  { object with metadata := { object.metadata with
      annotations := some (Dict.empty.insert Annotation.paused "") } }

end Sample

namespace World

variable {σ : Type}

/-- There is one thing that an invocation finds. If it cannot go on or there is nothing to do,
nothing but faults of the store is used up; if the object is due, one pass is made, and which one
depends on its deletion timestamp. So a paused object stays what it is, whatever happens to other
objects. -/
theorem hands_off_unless_due (cloud : Cloud σ) (dnsRequeue : Nat) (key : ObjectKey)
    (cancelled : Bool) (world : World σ) :
    (∃! found : List StoreFault × Finding, world.Finds key found.1 found.2) ∧
    (∀ faults e, world.Finds key faults (.failure e) →
      world.reconcile cloud dnsRequeue key cancelled = (.error e, { world with faults })) ∧
    (∀ faults, world.Finds key faults .idle →
      world.reconcile cloud dnsRequeue key cancelled = (.ok .noRequeue, { world with faults })) ∧
    (∀ faults deleting object owner, world.Finds key faults (.due deleting object owner) →
      ∃ result a,
        Attempt.finish (if deleting then (world.begin faults object owner cancelled).runDelete cloud
          else (world.begin faults object owner cancelled).runNormal cloud dnsRequeue) = (result, a) ∧
        world.reconcile cloud dnsRequeue key cancelled = (result, a.world)) ∧
    (∀ fit object, cloud.SparesKey fit key → Dormant fit key object world →
      ∀ steps : List Step, (∀ step ∈ steps, step.Bypasses object) →
        (steps.foldl (perform cloud dnsRequeue) world).store.awsClusters.get? key = some object) := by
  refine ⟨?_, fun faults e h => h.reconcile_failure .., fun faults h => h.reconcile_idle ..,
    fun faults deleting object owner h => h.reconcile_due .., ?_⟩
  · obtain ⟨faults, finding, h⟩ := world.exists_finds key
    exact ⟨(faults, finding), h, fun found hfound => hfound.unique h⟩
  · intro fit object hspares hdormant steps hsteps
    exact (hdormant.foldl hspares dnsRequeue steps hsteps).stored

/-- A paused object is left alone though it is being deleted, one without its owner is an error, and
one that is due goes through its delete pass. The paused object is still the same when its neighbour
has been stored and all have been reconciled. -/
theorem hands_off_samples :
    let deleted := Sample.deleted (some [clusterFinalizer])
    let orphaned := Sample.world [.putAwsCluster (Sample.object none)]
    (Sample.holding Sample.paused).reconcile Cloud.obliging 15 Sample.key false
      = (.ok .noRequeue, Sample.holding Sample.paused) ∧
    orphaned.reconcile Cloud.obliging 15 Sample.key true
      = (.error (.ownerNotFound "default/owner"), orphaned) ∧
    (∃ result a, Attempt.finish (((Sample.holding deleted).begin [] deleted Sample.owner
        false).runDelete Cloud.obliging) = (result, a) ∧
      (Sample.holding deleted).reconcile Cloud.obliging 15 Sample.key false = (result, a.world)) ∧
    ([.putAwsCluster Sample.neighbour, .reconcile Sample.neighbour.key false, .inject ⟨.patch, 0, ""⟩,
        .reconcile Sample.key true].foldl (perform Cloud.obliging 15)
      (Sample.holding Sample.paused)).store.awsClusters.get? Sample.key = some Sample.paused := by
  have hnamed : ∀ object : AwsCluster, object.metadata.ownerCluster? = some "owner" →
      object.metadata.OwnedBy "owner" := fun object => Metadata.ownerCluster?_eq_some_iff.1
  have hmeets : ∀ object : AwsCluster, (Sample.holding object).store.awsClusters.get? Sample.key
      = some object → object.metadata.hasAnnotation Annotation.managedBy = false →
      object.metadata.ownerCluster? = some "owner" → object.metadata.ns = some "default" →
      (Sample.holding object).MeetsBoth Sample.key object Sample.owner [] := by
    intro object hstored hmanaged howner hns
    refine ⟨"owner", [], ⟨rfl, hstored, hmanaged, hnamed object howner⟩, rfl, ?_⟩
    rw [hns]
    rfl
  have hpaused := hmeets Sample.paused (by decide +kernel) (by decide +kernel) (by decide +kernel) rfl
  have hdeleted := hmeets (Sample.deleted (some [clusterFinalizer])) (by decide +kernel)
    (by decide +kernel) (by decide +kernel) rfl
  refine ⟨?_, ?_, ?_, ?_⟩
  · exact (hands_off_unless_due Cloud.obliging 15 Sample.key false
      (Sample.holding Sample.paused)).2.2.1 [] (.paused hpaused (.inr (by decide +kernel)))
  · have hlost := hnamed (Sample.object none) (by decide +kernel)
    exact (hands_off_unless_due Cloud.obliging 15 Sample.key true
      (Sample.world [.putAwsCluster (Sample.object none)])).2.1 [] _
      (.ownerMissing ⟨rfl, by decide +kernel, by decide +kernel, hlost⟩ rfl (by decide +kernel))
  · exact (hands_off_unless_due Cloud.obliging 15 Sample.key false (Sample.holding
      (Sample.deleted (some [clusterFinalizer])))).2.2.2.1 [] true _ Sample.owner
      (.due hdeleted (by decide +kernel) ⟨by decide +kernel, by decide +kernel, by decide +kernel⟩)
  · refine (hands_off_unless_due Cloud.obliging 15 Sample.key false (Sample.holding
      Sample.paused)).2.2.2.2 _ Sample.paused (Cloud.quiet_obliging.sparesKey
        (Cloud.keeps_obliging _) _) ?_ _ ?_
    · exact ⟨(Sample.reachable_holding _).keyed Cloud.quiet_obliging, by decide +kernel,
        .inl (by decide +kernel), trivial⟩
    · intro step hstep
      simp only [List.mem_cons, List.not_mem_nil, or_false] at hstep
      rcases hstep with rfl | rfl | rfl | rfl
      · exact (by decide +kernel : Sample.neighbour.key ≠ Sample.paused.key)
      all_goals trivial

end World

end ClusterInfra
