import ClusterInfra.Proofs.Json.Members
import ClusterInfra.Proofs.Resource.Verdicts
import ClusterInfra.Reconcile.Dispatch
/-!
The marks that passes leave on an object.

Whatever a pass does to the status and the spec of its object is one of five marks, left at some
time. A mark has a place, and works on nothing outside of it. It is settled in an object where
leaving it once more would change nothing, whatever the time: so it is right after it was left, and
it stays so while marks are left in other places.
-/

namespace ClusterInfra

/-- The spec with an endpoint: at a host, unless there is an endpoint already. -/
def AwsClusterSpec.reachedAt (spec : AwsClusterSpec) (host : String) : AwsClusterSpec :=
  { spec with controlPlaneEndpoint :=
      if spec.controlPlaneEndpoint.isZero then
        { host, port := spec.apiServerPort.getD defaultApiServerPort }
      else spec.controlPlaneEndpoint }

theorem AwsClusterSpec.reachedAt_reachedAt (spec : AwsClusterSpec) (host : String) :
    (spec.reachedAt host).reachedAt host = spec.reachedAt host := by
  by_cases h : spec.controlPlaneEndpoint.isZero = true <;> simp [reachedAt, h]

namespace AwsCluster

/-- Changes the conditions; where there is no status, in the default one. -/
def modifyConditions (object : AwsCluster) (change : Conditions → Conditions) : AwsCluster :=
  object.modifyStatus fun status => { status with conditions := change status.conditions }

/-- The conditions of a type. -/
def recorded (object : AwsCluster) (type : String) : Conditions := object.conditions.ofType type

/-- The verdicts on a type. -/
def verdicts (object : AwsCluster) (type : String) : List Verdict :=
  object.conditions.verdicts type

/-- The verdict on a type: the one of its condition. -/
def verdict? (object : AwsCluster) (type : String) : Option Verdict :=
  object.conditions.verdict? type

theorem verdict?_eq (object : AwsCluster) (type : String) :
    object.verdict? type = (object.verdicts type).head? :=
  Conditions.verdict_get? type object.conditions

/-- The verdict on a type is the one of its conditions. -/
theorem verdict?_of_recorded {a b : AwsCluster} {type : String}
    (h : b.recorded type = a.recorded type) : b.verdict? type = a.verdict? type := by
  rw [verdict?_eq, verdict?_eq]
  exact congrArg (fun conditions => (conditions.map Condition.verdict).head?) h

/-- The zones of some subnets published as failure domains of the control plane. -/
def withZones (domains : Dict FailureDomain) (subnets : List Subnet) : Dict FailureDomain :=
  subnets.foldl (fun domains subnet =>
    domains.insert subnet.availabilityZone { controlPlane := true }) domains

/-- The object published behind a host: with an endpoint, with its zones, and ready. -/
def published (object : AwsCluster) (host : String) : AwsCluster where
  metadata := object.metadata
  spec := object.spec.reachedAt host
  status := some { object.statusOrDefault with
    failureDomains := withZones object.statusOrDefault.failureDomains object.privateSubnets
    ready := true }

/-- The object with a DNS name for its load balancer. -/
def withDnsName (object : AwsCluster) (dnsName : String) : AwsCluster :=
  object.modifyStatus fun status => { status with network := { status.network with
    apiServerLoadBalancer := { status.network.apiServerLoadBalancer with dnsName } } }

/-- The `Ready` condition that the other conditions amount to. -/
def summary (object : AwsCluster) : Condition :=
  object.conditions.summarize (Scope.summarizedTypes object.spec.bastion.enabled)

theorem dnsName?_eq (object : AwsCluster) : object.dnsName?
    = object.statusOrDefault.network.apiServerLoadBalancer.dnsName.filter (!·.isEmpty) := by
  cases h : object.status <;> simp [dnsName?, statusOrDefault, h]

theorem conditions_modifyConditions (object : AwsCluster) (change : Conditions → Conditions) :
    (object.modifyConditions change).conditions = change object.conditions := by
  cases h : object.status <;>
    simp [modifyConditions, modifyStatus, conditions, statusOrDefault, h]

theorem conditions_withDnsName (object : AwsCluster) (dnsName : String) :
    (object.withDnsName dnsName).conditions = object.conditions := by
  cases h : object.status <;>
    simp [withDnsName, modifyStatus, conditions, statusOrDefault, h]

theorem conditions_published (object : AwsCluster) (host : String) :
    (object.published host).conditions = object.conditions := by
  cases h : object.status <;> simp [published, conditions, statusOrDefault, h]

/-- A DNS name that is there already changes nothing. -/
theorem withDnsName_eq_self {object : AwsCluster} {name : String}
    (h : object.statusOrDefault.network.apiServerLoadBalancer.dnsName = some name) :
    object.withDnsName name = object := by
  cases hstatus : object.status with
  | none => simp [statusOrDefault, hstatus] at h
  | some status =>
    simp only [statusOrDefault, hstatus, Option.getD_some] at h
    simp only [withDnsName, modifyStatus, statusOrDefault, hstatus, Option.getD_some, ← h]
    rw [← hstatus]

/-! ### Publishing -/

/-- A zone that is published stays published, and each of the subnets publishes its own. -/
theorem find?_withZones {zone : String} : ∀ (subnets : List Subnet) (domains : Dict FailureDomain),
    (domains.find? zone = some { controlPlane := true } ∨
      ∃ subnet ∈ subnets, subnet.availabilityZone = zone) →
      (withZones domains subnets).find? zone = some { controlPlane := true }
  | [], domains, h => h.elim id fun ⟨_, hmem, _⟩ => nomatch hmem
  | subnet :: rest, domains, h => by
    refine find?_withZones rest _ ?_
    by_cases hzone : subnet.availabilityZone = zone
    · exact .inl (hzone ▸ Dict.find?_insert_self ..)
    · rcases h with h | ⟨other, hmem, hother⟩
      · exact .inl (by rw [Dict.find?_insert_of_ne _ (Ne.symm hzone), h])
      · rcases List.mem_cons.1 hmem with rfl | hmem
        · exact absurd hother hzone
        · exact .inr ⟨other, hmem, hother⟩

/-- Publishing zones that are published changes nothing. -/
theorem withZones_eq_self : ∀ {subnets : List Subnet} {domains : Dict FailureDomain},
    (∀ subnet ∈ subnets, domains.find? subnet.availabilityZone = some { controlPlane := true }) →
      withZones domains subnets = domains
  | [], _, _ => rfl
  | subnet :: rest, domains, h => by
    have hinsert : domains.insert subnet.availabilityZone { controlPlane := true } = domains := by
      have hentries := Entries.Sorted.insert_eq_self domains.sorted (h subnet List.mem_cons_self)
      rw [Dict.insert]
      congr
    have hrest := withZones_eq_self fun other hmem => h other (List.mem_cons_of_mem subnet hmem)
    rw [withZones, List.foldl_cons, hinsert]
    exact hrest

theorem withZones_withZones (domains : Dict FailureDomain) (subnets : List Subnet) :
    withZones (withZones domains subnets) subnets = withZones domains subnets :=
  withZones_eq_self fun subnet hmem => find?_withZones subnets domains (.inr ⟨subnet, hmem, rfl⟩)

/-- Publishing a second time changes nothing. -/
theorem published_published (object : AwsCluster) (host : String) :
    (object.published host).published host = object.published host := by
  have hzones := withZones_withZones object.statusOrDefault.failureDomains object.privateSubnets
  have hsubnets : (object.published host).privateSubnets = object.privateSubnets := rfl
  have hstatus : (object.published host).statusOrDefault
      = { object.statusOrDefault with
        failureDomains := withZones object.statusOrDefault.failureDomains object.privateSubnets
        ready := true } := rfl
  rw [published, hsubnets, hstatus, hzones, published, AwsClusterSpec.reachedAt_reachedAt]

/-- An object is published behind a host if its endpoint is set, it is ready and its zones are
published. -/
theorem published_eq_self_iff {object : AwsCluster} {host : String} :
    object.published host = object ↔ object.spec.reachedAt host = object.spec ∧
      object.statusOrDefault.ready = true ∧
      withZones object.statusOrDefault.failureDomains object.privateSubnets
        = object.statusOrDefault.failureDomains := by
  constructor
  · intro h
    refine ⟨congrArg (·.spec) h, ?_, ?_⟩
    · exact (congrArg (·.statusOrDefault.ready) h).symm
    · exact congrArg (·.statusOrDefault.failureDomains) h
  · rintro ⟨hspec, hready, hzones⟩
    cases hstatus : object.status with
    | none => simp [statusOrDefault, hstatus] at hready
    | some status =>
      rw [published, hspec, hzones]
      simp only [statusOrDefault, hstatus, Option.getD_some] at hready ⊢
      rw [← hready, ← hstatus]

end AwsCluster

/-! ### Marks -/

/-- What a pass leaves on its object. -/
inductive Mark
  /-- A condition was recorded. -/
  | set (condition : Condition)
  /-- The conditions of a type were taken out. -/
  | unset (type : String)
  /-- The load balancer got its DNS name. -/
  | dnsName (name : String)
  /-- The object was published behind a host. -/
  | publish (host : String)
  /-- The `Ready` condition was brought up to date. -/
  | summary

/-- What a mark works on. -/
inductive Place
  | condition (type : String)
  | dnsName
  | publication
  deriving DecidableEq

namespace Mark

/-- Leaves a mark at a time. -/
def apply (now : Instant) (object : AwsCluster) : Mark → AwsCluster
  | .set condition => object.modifyConditions (·.set condition now)
  | .unset type =>
    if object.status.isNone then object else object.modifyConditions (·.delete type)
  | .dnsName name => object.withDnsName name
  | .publish host => object.published host
  | .summary => object.modifyConditions (·.set object.summary now)

/-- The place of a mark. -/
def place : Mark → Place
  | .set condition => .condition condition.type
  | .unset type => .condition type
  | .dnsName _ => .dnsName
  | .publish _ => .publication
  | .summary => .condition ConditionType.ready

/-- Leaving the mark would change nothing. -/
def Settled (object : AwsCluster) : Mark → Prop
  | .set condition => (object.verdicts condition.type).head? = some condition.verdict
  | .unset type => object.verdicts type = []
  | .dnsName name =>
    object.statusOrDefault.network.apiServerLoadBalancer.dnsName = some name
  | .publish host => object.published host = object
  | .summary => (object.verdicts ConditionType.ready).head? = some object.summary.verdict

variable {mark : Mark} {object : AwsCluster} {now : Instant} {type : String}

theorem conditions_unset (now : Instant) (object : AwsCluster) (type : String) :
    ((Mark.unset type).apply now object).conditions = object.conditions.delete type := by
  rw [apply]
  split
  next h =>
    rw [AwsCluster.conditions, Option.isNone_iff_eq_none.1 h]
    rfl
  next => exact object.conditions_modifyConditions _

/-- A mark leaves the conditions outside of its place alone. -/
theorem recorded_apply (h : mark.place ≠ .condition type) :
    (mark.apply now object).recorded type = object.recorded type := by
  rw [AwsCluster.recorded, AwsCluster.recorded]
  cases mark with
  | set condition =>
    have hne : type ≠ condition.type := fun heq => h (by rw [heq]; rfl)
    rw [apply, AwsCluster.conditions_modifyConditions, Conditions.ofType_set_of_ne hne]
  | unset unset =>
    have hne : type ≠ unset := fun heq => h (by rw [heq]; rfl)
    rw [conditions_unset, Conditions.ofType_delete_of_ne hne]
  | dnsName name => rw [apply, AwsCluster.conditions_withDnsName]
  | publish host => rw [apply, AwsCluster.conditions_published]
  | summary =>
    have hne : type ≠ object.summary.type := fun heq => h (by
      rw [heq, AwsCluster.summary, Conditions.type_summarize]
      rfl)
    rw [apply, AwsCluster.conditions_modifyConditions, Conditions.ofType_set_of_ne hne]

theorem verdicts_apply (h : mark.place ≠ .condition type) :
    (mark.apply now object).verdicts type = object.verdicts type :=
  congrArg (List.map Condition.verdict) (recorded_apply h)

theorem verdicts_set_apply (condition : Condition) (now : Instant) (object : AwsCluster) :
    ((Mark.set condition).apply now object).verdicts condition.type
      = condition.verdict :: (object.verdicts condition.type).tail := by
  rw [AwsCluster.verdicts, apply, AwsCluster.conditions_modifyConditions,
    Conditions.verdicts_set_self]
  rfl

theorem verdicts_unset_apply (type : String) (now : Instant) (object : AwsCluster) :
    ((Mark.unset type).apply now object).verdicts type = [] := by
  rw [AwsCluster.verdicts, conditions_unset, Conditions.verdicts_delete_self]

theorem verdicts_summary_apply (now : Instant) (object : AwsCluster) :
    (Mark.summary.apply now object).verdicts ConditionType.ready
      = object.summary.verdict :: (object.verdicts ConditionType.ready).tail := by
  have htype : object.summary.type = ConditionType.ready := Conditions.type_summarize _ _
  rw [← htype]
  exact verdicts_set_apply object.summary now object

/-- A summary is not one of what it summarizes. -/
theorem summary_apply (now : Instant) (object : AwsCluster) :
    (Mark.summary.apply now object).summary = object.summary := by
  refine Conditions.summarize_congr fun type hmem => ?_
  have hne : Mark.summary.place ≠ .condition type := fun heq => by
    cases heq
    revert hmem
    change ConditionType.ready ∈ Scope.summarizedTypes object.spec.bastion.enabled → False
    cases object.spec.bastion.enabled <;> decide
  have hverdicts : (Mark.summary.apply now object).verdicts type = object.verdicts type :=
    verdicts_apply hne
  exact congrArg List.head? hverdicts

theorem verdict?_apply (h : mark.place ≠ .condition type) :
    (mark.apply now object).verdict? type = object.verdict? type := by
  rw [AwsCluster.verdict?_eq, verdicts_apply h, AwsCluster.verdict?_eq]

theorem verdict?_set_apply (condition : Condition) (now : Instant) (object : AwsCluster) :
    ((Mark.set condition).apply now object).verdict? condition.type = some condition.verdict := by
  rw [AwsCluster.verdict?_eq, verdicts_set_apply, List.head?_cons]

theorem verdict?_unset_apply (type : String) (now : Instant) (object : AwsCluster) :
    ((Mark.unset type).apply now object).verdict? type = none := by
  rw [AwsCluster.verdict?_eq, verdicts_unset_apply, List.head?_nil]

theorem verdict?_summary_apply (now : Instant) (object : AwsCluster) :
    (Mark.summary.apply now object).verdict? ConditionType.ready = some object.summary.verdict := by
  rw [AwsCluster.verdict?_eq, verdicts_summary_apply, List.head?_cons]

/-! ### What a mark leaves alone -/

theorem metadata_apply (mark : Mark) (now : Instant) (object : AwsCluster) :
    (mark.apply now object).metadata = object.metadata := by
  cases mark with
  | unset type =>
    rw [apply]
    split <;> rfl
  | _ => rfl

/-- A mark that is left in a condition works on the conditions only. -/
theorem apply_of_condition (h : mark.place = .condition type) (now : Instant)
    (object : AwsCluster) : (mark.apply now object).spec = object.spec ∧
      (mark.apply now object).statusOrDefault
        = { object.statusOrDefault with conditions := (mark.apply now object).conditions } := by
  cases mark with
  | unset unset =>
    rw [apply]
    split
    next hnone =>
      simp [AwsCluster.statusOrDefault, AwsCluster.conditions, Option.isNone_iff_eq_none.1 hnone]
    next => exact ⟨rfl, rfl⟩
  | set condition => exact ⟨rfl, rfl⟩
  | summary => exact ⟨rfl, rfl⟩
  | dnsName name => cases h
  | publish host => cases h

/-- Only publishing changes the spec. -/
theorem spec_apply (h : mark.place ≠ .publication) (now : Instant) (object : AwsCluster) :
    (mark.apply now object).spec = object.spec := by
  cases mark with
  | publish host => exact absurd rfl h
  | dnsName name => rfl
  | set condition => exact (apply_of_condition rfl now object).1
  | unset type => exact (apply_of_condition rfl now object).1
  | summary => exact (apply_of_condition rfl now object).1

/-- Of the network, only the DNS name is ever set. -/
theorem network_apply (h : mark.place ≠ .dnsName) (now : Instant) (object : AwsCluster) :
    (mark.apply now object).statusOrDefault.network = object.statusOrDefault.network := by
  cases mark with
  | dnsName name => exact absurd rfl h
  | publish host => rfl
  | set condition => rw [(apply_of_condition rfl now object).2]
  | unset type => rw [(apply_of_condition rfl now object).2]
  | summary => rw [(apply_of_condition rfl now object).2]

/-- Only publishing sets the ready flag and the failure domains. -/
theorem publication_apply (h : mark.place ≠ .publication) (now : Instant) (object : AwsCluster) :
    (mark.apply now object).statusOrDefault.ready = object.statusOrDefault.ready ∧
      (mark.apply now object).statusOrDefault.failureDomains
        = object.statusOrDefault.failureDomains := by
  cases mark with
  | publish host => exact absurd rfl h
  | dnsName name => exact ⟨rfl, rfl⟩
  | set condition => rw [(apply_of_condition rfl now object).2]; exact ⟨rfl, rfl⟩
  | unset type => rw [(apply_of_condition rfl now object).2]; exact ⟨rfl, rfl⟩
  | summary => rw [(apply_of_condition rfl now object).2]; exact ⟨rfl, rfl⟩

/-! ### Settled marks -/

/-- A condition that is recorded already is not recorded again. -/
theorem modifyConditions_set_eq_self {condition : Condition}
    (h : (object.verdicts condition.type).head? = some condition.verdict) (now : Instant) :
    object.modifyConditions (·.set condition now) = object := by
  cases hstatus : object.status with
  | none => simp [AwsCluster.verdicts, AwsCluster.conditions, hstatus, Conditions.verdicts] at h
  | some status =>
    have hset : status.conditions.set condition now = status.conditions :=
      Conditions.set_eq_self now (by
        simpa [AwsCluster.verdicts, AwsCluster.conditions, hstatus] using h)
    simp only [AwsCluster.modifyConditions, AwsCluster.modifyStatus, AwsCluster.statusOrDefault,
      hstatus, Option.getD_some, hset]
    rw [← hstatus]

/-- Leaving a settled mark changes nothing. -/
theorem Settled.apply_eq_self (h : mark.Settled object) (now : Instant) :
    mark.apply now object = object := by
  cases mark with
  | set condition => exact modifyConditions_set_eq_self h now
  | unset type =>
    rw [apply]
    split
    · rfl
    next hsome =>
      obtain ⟨status, hstatus⟩ := Option.ne_none_iff_exists'.1 (by simpa using hsome)
      have hdelete : status.conditions.delete type = status.conditions :=
        Conditions.delete_eq_self (by
          simpa [Settled, AwsCluster.verdicts, AwsCluster.conditions, hstatus] using h)
      simp only [AwsCluster.modifyConditions, AwsCluster.modifyStatus, AwsCluster.statusOrDefault,
        hstatus, Option.getD_some, hdelete]
      rw [← hstatus]
  | dnsName name => exact AwsCluster.withDnsName_eq_self h
  | publish host => exact h
  | summary =>
    refine modifyConditions_set_eq_self ?_ now
    rw [AwsCluster.summary, Conditions.type_summarize]
    exact h

/-- A mark that was just left is settled. -/
theorem settled_apply (mark : Mark) (now : Instant) (object : AwsCluster) :
    mark.Settled (mark.apply now object) := by
  cases mark with
  | set condition => rw [Settled, verdicts_set_apply, List.head?_cons]
  | unset type => exact verdicts_unset_apply type now object
  | dnsName name => rfl
  | publish host => exact object.published_published host
  | summary => rw [Settled, verdicts_summary_apply, summary_apply, List.head?_cons]

/-- The metadata of an object plays no part. -/
theorem Settled.congr {a b : AwsCluster} (h : mark.Settled a) (hspec : b.spec = a.spec)
    (hstatus : b.status = a.status) : mark.Settled b := by
  obtain ⟨metadata, spec, status⟩ := a
  obtain ⟨metadata', spec', status'⟩ := b
  cases hspec
  cases hstatus
  cases mark with
  | publish host =>
    rw [Settled, AwsCluster.published_eq_self_iff] at h ⊢
    exact h
  | _ => exact h

/-- A mark stays settled while marks are left in other places. -/
theorem Settled.of_place_ne {other : Mark} (h : mark.Settled object)
    (hplace : other.place ≠ mark.place) (hsummary : mark ≠ .summary) (now : Instant) :
    mark.Settled (other.apply now object) := by
  cases mark with
  | set condition => rw [Settled, verdicts_apply hplace]; exact h
  | unset type => rw [Settled, verdicts_apply hplace]; exact h
  | dnsName name => rw [Settled, network_apply hplace]; exact h
  | publish host =>
    have hspec := spec_apply hplace now object
    have hpublication := publication_apply hplace now object
    rw [Settled, AwsCluster.published_eq_self_iff] at h ⊢
    rw [hspec, hpublication.1, hpublication.2, AwsCluster.privateSubnets, hspec]
    exact h
  | summary => exact absurd rfl hsummary

end Mark

/-! ### Marking -/

/-- Some marks are left on an object, one after the other, each at some time. -/
inductive Marked : List Mark → AwsCluster → AwsCluster → Prop
  | nil (object : AwsCluster) : Marked [] object object
  | cons (mark : Mark) (now : Instant) {rest : List Mark} {object marked : AwsCluster}
      (h : Marked rest (mark.apply now object) marked) : Marked (mark :: rest) object marked

namespace Marked

variable {marks marks' : List Mark} {mark : Mark} {a b c : AwsCluster}

theorem single (mark : Mark) (now : Instant) (object : AwsCluster) :
    Marked [mark] object (mark.apply now object) := .cons mark now (.nil _)

theorem trans (h : Marked marks a b) (h' : Marked marks' b c) : Marked (marks ++ marks') a c := by
  induction h with
  | nil object => exact h'
  | cons mark now _ ih => exact .cons mark now (ih h')

theorem metadata (h : Marked marks a b) : b.metadata = a.metadata := by
  induction h with
  | nil object => rfl
  | cons mark now _ ih => rw [ih, Mark.metadata_apply]

/-- Of the spec, marks change the endpoint at most. -/
theorem spec (h : Marked marks a b) :
    ∃ controlPlaneEndpoint, b.spec = { a.spec with controlPlaneEndpoint } := by
  induction h with
  | nil object => exact ⟨_, rfl⟩
  | cons mark now _ ih =>
    obtain ⟨endpoint, ih⟩ := ih
    refine ⟨endpoint, ?_⟩
    rw [ih]
    by_cases hplace : mark.place = .publication
    · cases mark with
      | publish host => rfl
      | _ => cases hplace
    · rw [Mark.spec_apply hplace]

/-- Marks leave the conditions outside of their places alone. -/
theorem recorded (h : Marked marks a b) {type : String}
    (hplace : ∀ mark ∈ marks, mark.place ≠ .condition type) : b.recorded type = a.recorded type := by
  induction h with
  | nil object => rfl
  | cons mark now _ ih =>
    rw [List.forall_mem_cons] at hplace
    rw [ih hplace.2, Mark.recorded_apply hplace.1]

theorem verdict? (h : Marked marks a b) {type : String}
    (hplace : ∀ mark ∈ marks, mark.place ≠ .condition type) : b.verdict? type = a.verdict? type :=
  AwsCluster.verdict?_of_recorded (h.recorded hplace)

/-- Marks leave the DNS name alone, unless one of them sets it. -/
theorem dnsName? (h : Marked marks a b) (hplace : ∀ mark ∈ marks, mark.place ≠ .dnsName) :
    b.dnsName? = a.dnsName? := by
  induction h with
  | nil object => rfl
  | cons mark now _ ih =>
    rw [List.forall_mem_cons] at hplace
    rw [ih hplace.2, AwsCluster.dnsName?_eq, Mark.network_apply hplace.1, ← AwsCluster.dnsName?_eq]

/-- A settled mark stays settled while marks are left in other places. -/
theorem settled (h : Marked marks a b) (hmark : mark.Settled a)
    (hplace : ∀ other ∈ marks, other.place ≠ mark.place) (hsummary : mark ≠ .summary) :
    mark.Settled b := by
  induction h with
  | nil object => exact hmark
  | cons other now _ ih =>
    rw [List.forall_mem_cons] at hplace
    exact ih (hmark.of_place_ne hplace.1 hsummary now) hplace.2

/-- Marks that were left in places of their own are settled afterwards. -/
theorem settled_of_nodup (h : Marked marks a b) (hplaces : (marks.map (·.place)).Nodup)
    (hsummary : .summary ∉ marks) : ∀ mark ∈ marks, mark.Settled b := by
  induction h with
  | nil object => intro mark hmem; cases hmem
  | cons first now hrest ih =>
    rw [List.map_cons, List.nodup_cons] at hplaces
    rw [List.mem_cons, not_or] at hsummary
    intro mark hmem
    rcases List.mem_cons.1 hmem with rfl | hmem
    · refine hrest.settled (mark.settled_apply now _) ?_ (Ne.symm hsummary.1)
      intro other hother heq
      exact hplaces.1 (heq ▸ List.mem_map_of_mem hother)
    · exact ih hplaces.2 hsummary.2 mark hmem

/-- Leaving marks that are settled changes nothing. -/
theorem eq_of_settled (h : Marked marks a b) (hsettled : ∀ mark ∈ marks, mark.Settled a) :
    b = a := by
  induction h with
  | nil object => rfl
  | cons mark now _ ih =>
    rw [List.forall_mem_cons] at hsettled
    rw [hsettled.1.apply_eq_self] at ih
    exact ih hsettled.2

/-- After a summary all marks before it are settled, too. -/
theorem settled_of_concluded (h : Marked marks a b) (hplaces : (marks.map (·.place)).Nodup)
    (hready : ∀ mark ∈ marks, mark.place ≠ Mark.summary.place) (now : Instant) :
    ∀ mark ∈ marks ++ [.summary], mark.Settled (Mark.summary.apply now b) := by
  have hsummary : .summary ∉ marks := fun hmem => hready _ hmem rfl
  intro mark hmem
  rcases List.mem_append.1 hmem with hmem | hmem
  · refine (h.settled_of_nodup hplaces hsummary mark hmem).of_place_ne ?_ ?_ now
    · exact (hready mark hmem).symm
    · rintro rfl
      exact hsummary hmem
  · cases List.mem_singleton.1 hmem
    exact Mark.settled_apply .summary now b

end Marked

/-! ### What a scope marks -/

/-- The mark of a report in the condition of a subsystem, if it has one. -/
def Subsystem.reportMarks (subsystem : Subsystem) (reason : String) (severity : Severity)
    (message : String) : List Mark :=
  subsystem.condition?.toList.map fun type => .set (.fails type reason severity message)

/-- The mark of a subsystem that was reconciled. -/
def Subsystem.readyMarks (bastionEnabled : Bool) : Subsystem → List Mark
  | .network | .loadBalancer => []
  | .securityGroups => [.set (.holds ConditionType.securityGroupsReady)]
  | .bastion =>
    if bastionEnabled then [.set (.holds ConditionType.bastionReady)]
    else [.unset ConditionType.bastionReady]

namespace Scope

theorem marked_report (scope : Scope) (subsystem : Subsystem) (reason : String)
    (severity : Severity) (message : String) (now : Instant) :
    Marked (subsystem.reportMarks reason severity message) scope.object
      (scope.report subsystem reason severity message now).object := by
  cases subsystem with
  | network => exact .nil _
  | _ => exact .single _ now _

theorem marked_reconciled (scope : Scope) (subsystem : Subsystem) (now : Instant) :
    Marked (subsystem.readyMarks scope.object.spec.bastion.enabled) scope.object
      (scope.reconciled subsystem now).object := by
  cases subsystem with
  | network => exact .nil _
  | loadBalancer => exact .nil _
  | securityGroups => exact .single _ now _
  | bastion =>
    rw [Subsystem.readyMarks, reconciled, deleteCondition]
    split
    · exact .single _ now _
    · have hmarked := Marked.single (.unset ConditionType.bastionReady) now scope.object
      rw [Mark.apply] at hmarked
      split
      next hnone =>
        rw [hnone] at hmarked
        exact hmarked
      next hsome =>
        rw [hsome] at hmarked
        exact hmarked

/-- Publishing zone by zone is publishing all zones. -/
theorem object_foldl_setFailureDomain : ∀ (subnets : List Subnet) {scope : Scope}
    {status : AwsClusterStatus}, scope.object.status = some status →
    (subnets.foldl (fun scope subnet =>
        scope.setFailureDomain subnet.availabilityZone { controlPlane := true }) scope).object
      = { scope.object with status := some { status with
          failureDomains := AwsCluster.withZones status.failureDomains subnets } }
  | [], scope, status, h => by
    rw [List.foldl_nil, AwsCluster.withZones, List.foldl_nil, ← h]
  | subnet :: rest, scope, status, h => by
    have hstatus : (scope.setFailureDomain subnet.availabilityZone ⟨true, {}⟩).object.status
        = some { status with failureDomains :=
            status.failureDomains.insert subnet.availabilityZone ⟨true, {}⟩ } := by
      simp [setFailureDomain, modifyStatus, modifyObject, AwsCluster.modifyStatus,
        AwsCluster.statusOrDefault, h]
    rw [List.foldl_cons, object_foldl_setFailureDomain rest hstatus]
    rfl

theorem object_ensureEndpoint (scope : Scope) (host : String) : (scope.ensureEndpoint host).object
    = { scope.object with spec := scope.object.spec.reachedAt host } := by
  rw [ensureEndpoint, AwsClusterSpec.reachedAt]
  split
  next hzero => rfl
  next hset => rfl

/-- A scope that has a status is published in one mark. -/
theorem object_publish {scope : Scope} {status : AwsClusterStatus}
    (h : scope.object.status = some status) (host : String) :
    (((scope.ensureEndpoint host).publishZones).setReady true).object
      = scope.object.published host := by
  have hendpoint := scope.object_ensureEndpoint host
  have hstatus : (scope.ensureEndpoint host).object.status = some status := by rw [hendpoint, h]
  have hzones := object_foldl_setFailureDomain
    (scope.ensureEndpoint host).object.privateSubnets hstatus
  rw [publishZones, setReady, modifyStatus, modifyObject, hzones, hendpoint, AwsCluster.published]
  simp only [AwsCluster.modifyStatus, AwsCluster.statusOrDefault, h, Option.getD_some]
  rfl

/-- Publishing is marking the load balancer as ready, and publishing what comes of that. -/
theorem object_publish_balanced (scope : Scope) (host : String) (now : Instant) :
    (scope.publish host now).object
      = ((Mark.set (.holds ConditionType.loadBalancerReady)).apply now scope.object).published
          host := by
  rw [publish]
  exact object_publish rfl host

theorem marked_publish (scope : Scope) (host : String) (now : Instant) :
    Marked [.set (.holds ConditionType.loadBalancerReady), .publish host] scope.object
      (scope.publish host now).object := by
  refine .cons _ now ?_
  rw [object_publish_balanced]
  exact .single _ now _

end Scope

end ClusterInfra
