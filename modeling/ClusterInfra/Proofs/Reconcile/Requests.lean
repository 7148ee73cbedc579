import ClusterInfra.Proofs.Reconcile.HandsOff
import ClusterInfra.Reconcile.Mapping
/-!
Events ask for what an invocation is due for.

Two decisions are made about an object. An event of a `Cluster` starts from its infrastructure
reference and decides whether to ask for the object; an invocation starts from the object, follows
its owner references back, and decides whether to leave it alone. Where the two refer to each other,
and the object is not paused by itself, the decisions agree: an event asks for an object exactly if
an invocation for it would get to work.
-/

namespace ClusterInfra

/-! ### References -/

/-- What stands before the first slash of an API version is its group. -/
theorem groupOf_append {group : String} (h : '/' ∉ group.toList) (version : String) :
    groupOf (group ++ "/" ++ version) = group := by
  have hchars : (group ++ "/" ++ version).toList = group.toList ++ '/' :: version.toList := by
    rw [String.toList_append, String.toList_append, List.append_assoc]
    rfl
  have htake : (group.toList ++ '/' :: version.toList).takeWhile (· ≠ '/') = group.toList := by
    rw [List.takeWhile_append_of_pos, List.takeWhile_cons_of_neg (by simp), List.append_nil]
    intro c hc
    exact decide_eq_true fun heq => h (heq ▸ hc)
  rw [groupOf, hchars, if_pos (by simp), htake, String.ofList_toList]

/-- The reference is to an `AWSCluster`, in any version of its group. -/
def ObjectReference.IsAwsCluster (reference : ObjectReference) : Prop :=
  (∃ version, reference.apiVersion = infrastructureGroup ++ "/" ++ version) ∧
    reference.kind = "AWSCluster"

theorem ObjectReference.IsAwsCluster.resourceKind {reference : ObjectReference}
    (h : reference.IsAwsCluster) : reference.resourceKind = .awsCluster := by
  obtain ⟨⟨version, hversion⟩, hkind⟩ := h
  have hgroup : groupOf reference.apiVersion = infrastructureGroup := by
    rw [hversion]
    exact groupOf_append (by decide) version
  have hother : ¬ (infrastructureGroup = clusterGroup ∧ "AWSCluster" = "Cluster") := by decide
  rw [ObjectReference.resourceKind, ResourceKind.ofType, hgroup, hkind, if_neg hother,
    if_pos ⟨rfl, rfl⟩]

namespace Cluster

variable {cluster : Cluster} {key : ObjectKey}

/-- The cluster has a namespace and refers to the object of this key in it. The reference names that
namespace or none. -/
structure RefersTo (cluster : Cluster) (key : ObjectKey) : Prop where
  located : cluster.metadata.ns = some key.ns
  ns : key.ns ≠ ""
  reference : ∃ reference, cluster.spec.infrastructureRef = some reference ∧
    reference.IsAwsCluster ∧ reference.name = key.name ∧
    (reference.ns = none ∨ reference.ns = some "" ∨ reference.ns = some key.ns)

theorem RefersTo.infrastructureKey? (h : cluster.RefersTo key) :
    cluster.infrastructureKey? = some key := by
  obtain ⟨reference, href, haws, hname, hns⟩ := h.reference
  have hfilter : (reference.ns.filter (!·.isEmpty)).getD key.ns = key.ns := by
    rcases hns with hns | hns | hns <;> rw [hns]
    · rfl
    · rfl
    · rw [Option.filter_some]
      split <;> rfl
  have hguard : (guard (reference.resourceKind = .awsCluster) : Option Unit) = some () :=
    if_pos haws.resourceKind
  rw [Cluster.infrastructureKey?, href, Option.bind_eq_bind, Option.bind_some, hguard, h.located,
    Option.getD_some, hfilter, hname]
  rfl

/-- A cluster that is neither deleted nor paused asks for what it refers to, unless that is not
there or managed by something else. -/
theorem RefersTo.requests (h : cluster.RefersTo key)
    (hlive : cluster.metadata.deletionTimestamp = none)
    (lookup : ObjectKey → Option AwsCluster) :
    cluster.requests lookup = if cluster.isPaused then [] else
      ((lookup key).filter fun object => !object.metadata.isExternallyManaged).toList.map
        fun _ => key := by
  have hdeleting : cluster.isDeleting = false := by
    rw [isDeleting, Metadata.isDeleting, hlive]
    rfl
  rw [Cluster.requests, hdeleting, Bool.false_or, h.infrastructureKey?]
  split
  · rfl
  · simp only
    cases lookup key with
    | none => rfl
    | some object =>
      simp only [Option.filter_some]
      cases object.metadata.isExternallyManaged <;> rfl

end Cluster

/-! ### Both decisions -/

/-- An invocation for a key gets past everything that would make it leave the object alone: the
object is there, nothing else manages it, and with its owner it is live or being deleted. -/
def Store.IsDue (store : Store) (key : ObjectKey) : Prop :=
  ∃ object, store.awsClusters.get? key = some object ∧
    object.metadata.hasAnnotation Annotation.managedBy = false ∧
    (Mode.observe object (store.owner? object) = .active ∨
      Mode.observe object (store.owner? object) = .deleting)

namespace World

variable {σ : Type} {world : World σ} {key : ObjectKey} {object : AwsCluster} {owner : Cluster}

/-- The mode of an object that is not paused by itself is up to its owner and its deletion. -/
theorem observe_of_unpaused (owner : Cluster) (hself : ¬ object.IsPaused) :
    Mode.observe object (some owner) = if owner.isPaused then .paused
      else if object.metadata.isDeleting then .deleting else .active := by
  have hpaused : object.metadata.isPaused = false := Bool.eq_false_iff.2 hself
  rw [Mode.observe, hpaused, Bool.or_false]

/-- An object that is stored with its owner is due unless it is managed by something else or its
owner is paused, as long as it is not paused by itself. -/
theorem isDue_iff (hstored : world.store.awsClusters.get? key = some object)
    (howner : world.store.owner? object = some owner) (hself : ¬ object.IsPaused) :
    world.store.IsDue key ↔
      object.metadata.isExternallyManaged = false ∧ owner.isPaused = false := by
  have hmode : (Mode.observe object (some owner) = .active ∨
      Mode.observe object (some owner) = .deleting) ↔ owner.isPaused = false := by
    rw [observe_of_unpaused owner hself]
    cases owner.isPaused with
    | true => simp
    | false => cases object.metadata.isDeleting <;> simp
  rw [Store.IsDue]
  constructor
  · rintro ⟨found, hfound, hours, hlive⟩
    cases hstored.symm.trans hfound
    rw [howner, hmode] at hlive
    exact ⟨hours, hlive⟩
  · rintro ⟨hours, hlive⟩
    refine ⟨object, hstored, hours, ?_⟩
    rw [howner, hmode]
    exact hlive

/-- Without faults an invocation goes on with the stored object and its stored owner. -/
theorem reconcile_of_calm (cloud : Cloud σ) (dnsRequeue : Nat) (cancelled : Bool)
    (hcalm : world.faults = []) (hstored : world.store.awsClusters.get? key = some object)
    (hfind : world.store.findOwner object = .ok (some owner)) :
    world.reconcile cloud dnsRequeue key cancelled =
      if object.metadata.isExternallyManaged then (.ok .noRequeue, world)
      else match Mode.observe object (some owner) with
        | .active => world.attempt cloud dnsRequeue cancelled .active owner object
        | .deleting => world.attempt cloud dnsRequeue cancelled .deleting owner object
        | _ => (.ok .noRequeue, world) := by
  have hread := (world.reads_access .getAwsCluster (·.awsClusters.get? key)).eq_of_calm hcalm
  have howner := (world.reads_resolveOwner object).eq_of_calm hcalm
  rw [reconcile, getAwsCluster, hread, hstored]
  simp only
  split
  · rfl
  · rw [howner, hfind]
    simp only
    cases Mode.observe object (some owner) <;> rfl

end World

namespace Sample

/-- The owner, which refers to the object in a version of its own. -/
def referring (paused : Bool) : Cluster :=
  { owner with spec := { paused, infrastructureRef := some {
      apiVersion := "infrastructure.cluster.x-k8s.io/v1/beta", kind := "AWSCluster", name := "infra"
      ns := some "" } } }

/-- The object beside that owner. -/
def referred (paused : Bool) : World Unit :=
  world [.putCluster (referring paused), .putAwsCluster (deleted none)]

theorem refersTo_referring (paused : Bool) : (referring paused).RefersTo key where
  located := rfl
  ns := by decide
  reference := ⟨_, rfl, ⟨⟨"v1/beta", by decide +kernel⟩, rfl⟩, rfl, .inr (.inl rfl)⟩

end Sample

namespace World

variable {σ : Type} {world : World σ} {key : ObjectKey} {cluster : Cluster}

/-- Let a stored cluster that is not being deleted refer to an object, which, if it is there, is not
paused by itself and belongs to that cluster. Then an event of the cluster asks for this object,
once, exactly if an invocation for it gets to work. Otherwise the event asks for nothing and the
invocation does nothing. -/
theorem requests_what_is_due (cloud : Cloud σ) (dnsRequeue : Nat) (cancelled : Bool)
    (hcalm : world.faults = []) (hkeyed : world.store.Keyed)
    (hcluster : world.store.clusters.get? cluster.key = some cluster)
    (hlive : cluster.metadata.deletionTimestamp = none) (hrefers : cluster.RefersTo key)
    (hobject : ∀ object, world.store.awsClusters.get? key = some object →
      ¬ object.IsPaused ∧ object.metadata.OwnedBy cluster.key.name) :
    (cluster.requests world.store.awsClusters.get? = [key] ↔ world.store.IsDue key) ∧
    (world.store.IsDue key → ∃ object mode, world.store.awsClusters.get? key = some object ∧
      Mode.observe object (some cluster) = mode ∧ (mode = .active ∨ mode = .deleting) ∧
      world.reconcile cloud dnsRequeue key cancelled
        = world.attempt cloud dnsRequeue cancelled mode cluster object) ∧
    (¬ world.store.IsDue key → cluster.requests world.store.awsClusters.get? = [] ∧
      world.reconcile cloud dnsRequeue key cancelled = (.ok .noRequeue, world)) := by
  have hrequests := hrefers.requests hlive world.store.awsClusters.get?
  cases hstored : world.store.awsClusters.get? key with
  | none =>
    have hnone : cluster.requests world.store.awsClusters.get? = [] := by
      rw [hrequests, hstored]
      exact ite_self _
    have hidle : ¬ world.store.IsDue key := by
      rintro ⟨object, hfound, -⟩
      cases hstored.symm.trans hfound
    have hread := (world.reads_access .getAwsCluster (·.awsClusters.get? key)).eq_of_calm hcalm
    refine ⟨?_, fun hdue => absurd hdue hidle, fun _ => ⟨hnone, ?_⟩⟩
    · rw [hnone]
      exact ⟨nofun, fun hdue => absurd hdue hidle⟩
    · rw [reconcile, getAwsCluster, hread, hstored]
  | some object =>
    obtain ⟨hself, hnamed⟩ := hobject object hstored
    -- The owner is looked up in the namespace of the object, which is that of the cluster.
    have hns : object.metadata.ns.getD "" = cluster.key.ns := by
      have hkey : object.metadata.ns.getD "" = key.ns :=
        congrArg ObjectKey.ns (hkeyed key object hstored)
      rw [hkey, Cluster.key, Metadata.key, hrefers.located]
      rfl
    have hname := Metadata.ownerCluster?_eq_some_iff.2 hnamed
    have hfind : world.store.findOwner object = .ok (some cluster) := by
      rw [Store.findOwner, hname, hns]
      simp only
      rw [hcluster]
    have hdue := isDue_iff hstored (Store.owner?_of_findOwner hfind) hself
    have hreconcile := reconcile_of_calm cloud dnsRequeue cancelled hcalm hstored hfind
    have hmode := observe_of_unpaused cluster hself
    rw [hstored, Option.filter_some] at hrequests
    refine ⟨?_, fun h => ?_, fun h => ?_⟩
    · rw [hdue, hrequests]
      cases object.metadata.isExternallyManaged <;> cases cluster.isPaused <;> simp
    · obtain ⟨hours, hunpaused⟩ := hdue.1 h
      rw [hunpaused, if_neg Bool.false_ne_true] at hmode
      rw [hours, if_neg Bool.false_ne_true] at hreconcile
      refine ⟨object, _, rfl, rfl, ?_, ?_⟩
      · rw [hmode]
        cases object.metadata.isDeleting <;> simp
      · rw [hreconcile, hmode]
        cases object.metadata.isDeleting <;> rfl
    · rw [hdue, Classical.not_and_iff_not_or_not] at h
      rw [hrequests, hreconcile, hmode]
      rcases h with hmanaged | hpaused
      · rw [Bool.not_eq_false] at hmanaged
        rw [hmanaged]
        exact ⟨ite_self _, rfl⟩
      · rw [Bool.not_eq_false] at hpaused
        rw [hpaused]
        exact ⟨rfl, ite_self _⟩

/-- An event of the owner asks for the object that it refers to, which an invocation would go on to
delete. While the owner is paused, neither happens. -/
theorem requests_sample_when_due :
    (Sample.referring false).requests (Sample.referred false).store.awsClusters.get?
      = [Sample.key] ∧
    (Sample.referring true).requests (Sample.referred true).store.awsClusters.get? = [] ∧
    (Sample.referred true).reconcile Cloud.obliging 15 Sample.key false
      = (.ok .noRequeue, Sample.referred true) := by
  have happly : ∀ paused : Bool, _ := fun paused =>
    requests_what_is_due Cloud.obliging 15 false (rfl : (Sample.referred paused).faults = [])
      ((Sample.reachable_world _).keyed Cloud.quiet_obliging) (by cases paused <;> decide +kernel)
      (by rfl) (Sample.refersTo_referring paused) (by
        intro object hobject
        have hstored : (Sample.referred paused).store.awsClusters.get? Sample.key
            = some (Sample.deleted none) := by cases paused <;> decide +kernel
        cases hstored.symm.trans hobject
        exact ⟨by decide +kernel, Metadata.ownerCluster?_eq_some_iff.1
          (by cases paused <;> decide +kernel)⟩)
  have hidle : ¬ (Sample.referred true).store.IsDue Sample.key := by
    rintro ⟨object, hobject, -, hmode⟩
    have hstored : (Sample.referred true).store.awsClusters.get? Sample.key
        = some (Sample.deleted none) := by decide +kernel
    cases hstored.symm.trans hobject
    revert hmode
    decide +kernel
  have hdue : (Sample.referred false).store.IsDue Sample.key :=
    ⟨Sample.deleted none, by decide +kernel, by decide +kernel, by decide +kernel⟩
  exact ⟨(happly false).1.2 hdue, (happly true).2.2 hidle⟩

end World

end ClusterInfra
