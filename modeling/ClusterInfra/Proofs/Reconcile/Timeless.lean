import ClusterInfra.Proofs.Reconcile.Scripted
import ClusterInfra.Proofs.Reconcile.InStep
/-!
Objects apart from the times in their conditions.

A clock decides nothing but those times. The same marks, left at whatever times on objects that are
the same apart from times, leave such objects again. And if they change the status at one time they
change it at any other, so the patches of a change, and the versions they lead to, do not depend on
the clock either.
-/

namespace ClusterInfra

/-- A condition without its time. -/
def Condition.untimed (condition : Condition) : Condition :=
  { condition with lastTransitionTime := none }

/-- A status without times. -/
def AwsClusterStatus.untimed (status : AwsClusterStatus) : AwsClusterStatus :=
  { status with conditions := status.conditions.map Condition.untimed }

/-- An object without times. -/
def AwsCluster.untimed (object : AwsCluster) : AwsCluster :=
  { object with status := object.status.map AwsClusterStatus.untimed }

/-! ### Conditions -/

/-- Two observations of a condition differ in times at most. -/
theorem Condition.untimed_observe (condition new : Condition) (now now' : Instant) :
    (condition.observe new now).untimed = (condition.untimed.observe new now').untimed := by
  by_cases h : condition.status = new.status <;> simp [observe, untimed, h]

namespace Conditions

theorem untimed_set (new : Condition) (now now' : Instant) : ∀ conditions : Conditions,
    (conditions.set new now).map Condition.untimed
      = (set new now' (conditions.map Condition.untimed)).map Condition.untimed
  | [] => rfl
  | condition :: rest => by
    have htype : condition.untimed.type = condition.type := rfl
    rw [List.map_cons, set, set, htype]
    split
    · rw [List.map_cons, List.map_cons, Condition.untimed_observe condition new now now',
        List.map_map]
      rfl
    · rw [List.map_cons, List.map_cons, untimed_set new now now' rest]
      rfl

theorem untimed_delete (type : String) (conditions : Conditions) :
    (conditions.delete type).map Condition.untimed
      = (delete (conditions.map Condition.untimed) type).map Condition.untimed := by
  rw [delete, delete, List.filter_map, List.map_map]
  rfl

theorem verdicts_untimed (type : String) (conditions : Conditions) :
    verdicts (conditions.map Condition.untimed) type = conditions.verdicts type := by
  rw [verdicts, verdicts, List.filter_map, List.map_map]
  rfl

end Conditions

/-! ### Marks -/

namespace AwsCluster

variable {a b : AwsCluster}

theorem conditions_untimed (object : AwsCluster) :
    object.untimed.conditions = object.conditions.map Condition.untimed := by
  cases h : object.status <;> simp [untimed, AwsClusterStatus.untimed, conditions, h]

theorem statusOrDefault_untimed (object : AwsCluster) :
    object.untimed.statusOrDefault = object.statusOrDefault.untimed := by
  cases h : object.status <;> simp [untimed, AwsClusterStatus.untimed, statusOrDefault, h]

theorem dnsName?_untimed (object : AwsCluster) : object.untimed.dnsName? = object.dnsName? := by
  rw [dnsName?_eq, dnsName?_eq, statusOrDefault_untimed]
  rfl

theorem summary_untimed (object : AwsCluster) : object.untimed.summary = object.summary := by
  refine Conditions.summarize_congr fun type _ => ?_
  rw [conditions_untimed, Conditions.verdicts_untimed]

/-- A change of the status that does the same to it without its times. -/
theorem untimed_modifyStatus {change change' : AwsClusterStatus → AwsClusterStatus}
    (object : AwsCluster) (h : (change object.statusOrDefault).untimed
      = (change' object.statusOrDefault.untimed).untimed) :
    (object.modifyStatus change).untimed = (object.untimed.modifyStatus change').untimed := by
  rw [modifyStatus, modifyStatus, statusOrDefault_untimed]
  exact congrArg (fun status => AwsCluster.mk object.metadata object.spec (some status)) h

theorem untimed_modifyConditions {change change' : Conditions → Conditions} (object : AwsCluster)
    (h : ∀ conditions, (change conditions).map Condition.untimed
      = (change' (conditions.map Condition.untimed)).map Condition.untimed) :
    (object.modifyConditions change).untimed = (object.untimed.modifyConditions change').untimed := by
  refine object.untimed_modifyStatus ?_
  simp only [AwsClusterStatus.untimed, h]

theorem untimed_published (object : AwsCluster) (host : String) :
    (object.published host).untimed = (object.untimed.published host).untimed := by
  have htwice : object.statusOrDefault.untimed.untimed = object.statusOrDefault.untimed := by
    simp only [AwsClusterStatus.untimed, List.map_map]
    rfl
  have hconditions := congrArg (·.conditions) htwice
  rw [published, published, statusOrDefault_untimed]
  simp only [untimed, AwsClusterStatus.untimed, Option.map_some] at hconditions ⊢
  rw [hconditions]
  rfl

end AwsCluster

/-- Leaving a mark at another time makes no more than a difference in times. -/
theorem Mark.untimed_apply (mark : Mark) (now now' : Instant) (object : AwsCluster) :
    (mark.apply now object).untimed = (mark.apply now' object.untimed).untimed := by
  cases mark with
  | set condition =>
    exact object.untimed_modifyConditions (Conditions.untimed_set condition now now')
  | unset type =>
    have hnone : object.untimed.status.isNone = object.status.isNone := Option.isNone_map ..
    rw [apply, apply, hnone]
    split
    · cases object with | mk metadata spec status => cases status <;> simp_all [AwsCluster.untimed]
    · exact object.untimed_modifyConditions (Conditions.untimed_delete type)
  | dnsName name =>
    refine object.untimed_modifyStatus ?_
    simp only [AwsClusterStatus.untimed, List.map_map]
    rfl
  | publish host => exact object.untimed_published host
  | summary =>
    rw [apply, apply, AwsCluster.summary_untimed]
    exact object.untimed_modifyConditions (Conditions.untimed_set object.summary now now')

namespace Marked

variable {marks : List Mark} {base a b c d : AwsCluster}

/-- The same marks leave the same apart from times. -/
theorem untimed (h : Marked marks a b) (h' : Marked marks c d) (hsame : c.untimed = a.untimed) :
    d.untimed = b.untimed := by
  induction h generalizing c with
  | nil object =>
    cases h'
    exact hsame
  | cons mark now _ ih =>
    cases h' with
    | cons _ now' h' =>
      refine ih h' ?_
      rw [Mark.untimed_apply mark now' now, hsame, ← Mark.untimed_apply mark now now]

end Marked

/-! ### Whether the status changes -/

/-- Two objects have the same status, and the same spec up to the endpoint. -/
def AwsCluster.UpToEndpoint (a b : AwsCluster) : Prop :=
  b.status = a.status ∧ ∃ controlPlaneEndpoint, b.spec = { a.spec with controlPlaneEndpoint }

theorem Mark.upToEndpoint_apply {a b : AwsCluster} (h : a.UpToEndpoint b) (mark : Mark)
    (now : Instant) : (mark.apply now a).UpToEndpoint (mark.apply now b) := by
  obtain ⟨metadata, spec, status⟩ := a
  obtain ⟨metadata', spec', status'⟩ := b
  obtain ⟨hstatus, endpoint, hspec⟩ := h
  cases hstatus
  cases hspec
  cases mark with
  | unset type => cases status <;> exact ⟨rfl, endpoint, rfl⟩
  | publish host => exact ⟨rfl, _, rfl⟩
  | _ => exact ⟨rfl, endpoint, rfl⟩

namespace Marked

variable {marks : List Mark} {base a b c d : AwsCluster}

/-- Marks can be left on an object with another endpoint, and make the same of its status. -/
theorem upToEndpoint (h : Marked marks a b) (hsame : a.UpToEndpoint c) :
    ∃ d, Marked marks c d ∧ b.UpToEndpoint d := by
  induction h generalizing c with
  | nil object => exact ⟨c, .nil c, hsame⟩
  | cons mark now _ ih =>
    obtain ⟨d, hmarked, hup⟩ := ih (Mark.upToEndpoint_apply hsame mark now)
    exact ⟨d, .cons mark now hmarked, hup⟩

/-- If marks and a summary leave the status as it was, they do so at all times: they are settled in
what they left, and that is the object they were left on, up to its endpoint. -/
theorem status_eq (h : Marked marks base a) (h' : Marked marks base b) (hapart : Mark.Apart marks)
    (now now' : Instant) (hsame : (Mark.summary.apply now a).status = base.status) :
    (Mark.summary.apply now' b).status = base.status := by
  rw [Mark.Apart, List.nodup_cons, List.mem_map] at hapart
  have hready : ∀ mark ∈ marks, mark.place ≠ Mark.summary.place :=
    fun mark hmem heq => hapart.1 ⟨mark, hmem, heq⟩
  have hsettled := h.settled_of_concluded hapart.2 hready now
  have hup : base.UpToEndpoint (Mark.summary.apply now a) :=
    ⟨hsame, (h.trans (.single .summary now a)).spec⟩
  obtain ⟨c, hmarked, hstatus, -⟩ := (h'.trans (.single .summary now' b)).upToEndpoint hup
  rw [hmarked.eq_of_settled hsettled] at hstatus
  rw [← hstatus, hsame]

/-- Marks take no notice of metadata. -/
theorem withMetadata (h : Marked marks a b) (metadata : Metadata) :
    Marked marks { a with metadata } { b with metadata } := by
  have hmark : ∀ (mark : Mark) (now : Instant) (object : AwsCluster),
      mark.apply now { object with metadata } = { mark.apply now object with metadata } := by
    intro mark now object
    cases mark with
    | unset type =>
      obtain ⟨_, _, status⟩ := object
      cases status <;> rfl
    | _ => rfl
  induction h with
  | nil object => exact .nil _
  | cons mark now _ ih =>
    refine .cons mark now ?_
    rw [hmark]
    exact ih

end Marked

/-! ### What is stored -/

namespace Changes

variable {before a b : AwsCluster}

/-- Two changes of an object to the same, apart from times, if both or none change its status. -/
structure SameChange (before a b : AwsCluster) : Prop where
  untimed : b.untimed = a.untimed
  status : a.status = before.status ↔ b.status = before.status

theorem SameChange.metadata (h : SameChange before a b) : b.metadata = a.metadata :=
  congrArg (·.metadata) h.untimed

theorem SameChange.spec (h : SameChange before a b) : b.spec = a.spec := congrArg (·.spec) h.untimed

theorem bumped_congr {version : Option String} {patch? patch'? : Option Json.Patch}
    (h : patch'? = none ↔ patch? = none) : bumped version patch'? = bumped version patch? := by
  cases patch? <;> cases patch'? <;> simp_all [bumped]

/-- Such changes lead to the same version. -/
theorem SameChange.version (h : SameChange before a b) : version before b = version before a := by
  have hobject : ∀ version, bumped version (objectPatch? before b version)
      = bumped version (objectPatch? before a version) := by
    intro version
    refine bumped_congr ?_
    rw [objectPatch?_eq_none_iff, objectPatch?_eq_none_iff, h.spec, AwsCluster.hasFinalizer,
      AwsCluster.hasFinalizer, AwsCluster.hasFinalizer, h.metadata]
  have hstatus : ∀ version, bumped version (statusPatch? before b version)
      = bumped version (statusPatch? before a version) := by
    intro version
    refine bumped_congr ?_
    rw [statusPatch?_eq_none_iff, statusPatch?_eq_none_iff, eq_comm, ← h.status, eq_comm]
  rw [Changes.version, Changes.version]
  simp only [hstatus, hobject]

/-- Such changes store the same, apart from times. -/
theorem SameChange.outcome (h : SameChange before a b) (version : Option String) :
    (outcome before b version).untimed = (outcome before a version).untimed := by
  have hstatus := congrArg (·.status) h.untimed
  simp only [AwsCluster.untimed] at hstatus
  have hfinalizers : storedFinalizers before b = storedFinalizers before a := by
    simp only [storedFinalizers, AwsCluster.hasFinalizer, h.metadata]
  simp only [Changes.outcome, AwsCluster.untimed, hfinalizers, h.spec, hstatus]

end Changes

end ClusterInfra
