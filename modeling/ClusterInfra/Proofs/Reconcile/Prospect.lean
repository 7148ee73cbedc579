import ClusterInfra.Proofs.Reconcile.Marks
import ClusterInfra.Service.Script
/-!
What is left of the past of an object when a pass over it succeeds.

A script has a prospect of every object: the object as a successful pass is going to leave it, but
for its conditions and its version. Of the verdicts it is going to leave those that no pass records.
A pass that stops halfway may leave any of its marks, yet none of them changes the prospect of the
object or these verdicts.
-/

namespace ClusterInfra

/-! ### The work of the load balancer -/

namespace Script

/-- The mark that the work of a call leaves. -/
def workMarks (script : Script) (call : ServiceCall) : List Mark :=
  match call, script.dnsName with
  | ⟨.reconcile, .loadBalancer⟩, some dnsName => [.dnsName dnsName]
  | _, _ => []

theorem marked_work (script : Script) (call : ServiceCall) (now : Instant) (object : AwsCluster) :
    Marked (script.workMarks call) object (script.work call object) := by
  rcases call with ⟨_ | _, _ | _ | _ | _⟩
  case reconcile.loadBalancer =>
    unfold workMarks work
    cases script.dnsName with
    | none => exact .nil object
    | some name => exact .single (.dnsName name) now object
  all_goals exact .nil object

theorem mem_workMarks {script : Script} {call : ServiceCall} {mark : Mark}
    (h : mark ∈ script.workMarks call) : ∃ name, script.dnsName = some name ∧
      mark = .dnsName name := by
  unfold workMarks at h
  split at h
  next name hname => exact ⟨name, hname, List.mem_singleton.1 h⟩
  next => cases h

/-- The object with the DNS name that its load balancer gets, if it gets one. -/
def named (script : Script) (object : AwsCluster) : AwsCluster :=
  script.work ⟨.reconcile, .loadBalancer⟩ object

/-- The DNS name of an object once its load balancer has been reconciled. -/
def dnsName? (script : Script) (object : AwsCluster) : Option String :=
  (script.named object).dnsName?

theorem named_eq (script : Script) (object : AwsCluster) :
    script.named object = script.dnsName.elim object object.withDnsName := by
  unfold named work
  cases script.dnsName <;> rfl

end Script

/-! ### The prospect -/

namespace AwsCluster

/-- The object without its conditions; where there is no status, with the default one. -/
def bare (object : AwsCluster) : AwsCluster :=
  { object with status := some { object.statusOrDefault with conditions := [] } }

/-- The object with the finalizer, and without a version. -/
def guarded (object : AwsCluster) : AwsCluster :=
  { object with metadata := { object.metadata with
      finalizers := if object.hasFinalizer then object.metadata.finalizers
        else some (object.metadata.finalizers.getD [] ++ [clusterFinalizer])
      resourceVersion := none } }

/-- The verdicts on a type that no pass records: the first one on a type that a pass reports is
overwritten, and those on a bastion that is not wanted are taken out. -/
def remainder (object : AwsCluster) (type : String) : List Verdict :=
  if type = ConditionType.bastionReady then
    if object.spec.bastion.enabled then (object.verdicts type).tail else []
  else if type ∈ [ConditionType.ready, ConditionType.securityGroupsReady,
      ConditionType.loadBalancerReady] then (object.verdicts type).tail
  else object.verdicts type

end AwsCluster

namespace Script

/-- The object published behind its DNS name, if it has one that resolves. -/
def reached (script : Script) (object : AwsCluster) : AwsCluster :=
  (object.dnsName?.filter script.hosts.contains).elim object object.published

/-- What becomes of an object when a pass over it succeeds, but for conditions and version. -/
def prospect (script : Script) (object : AwsCluster) : AwsCluster :=
  script.reached (script.named object.bare.guarded)

variable (script : Script) (object : AwsCluster)

theorem dnsName?_reached : (script.reached object).dnsName? = object.dnsName? := by
  rw [reached]
  cases object.dnsName?.filter script.hosts.contains with
  | none => rfl
  | some host =>
    rw [AwsCluster.dnsName?_eq, AwsCluster.dnsName?_eq]
    rfl

theorem dnsName?_named :
    (script.named object.bare.guarded).dnsName? = script.dnsName? object := by
  rw [dnsName?, named_eq, named_eq, AwsCluster.dnsName?_eq, AwsCluster.dnsName?_eq]
  cases script.dnsName <;> rfl

theorem dnsName?_prospect : (script.prospect object).dnsName? = script.dnsName? object := by
  rw [prospect, dnsName?_reached, dnsName?_named]

theorem spec_prospect : ∃ controlPlaneEndpoint,
    (script.prospect object).spec = { object.spec with controlPlaneEndpoint } := by
  have hnamed : (script.named object.bare.guarded).spec = object.spec := by
    rw [named_eq]
    cases script.dnsName <;> rfl
  rw [prospect, reached]
  cases (script.named object.bare.guarded).dnsName?.filter script.hosts.contains with
  | none => exact ⟨_, hnamed⟩
  | some host => exact ⟨_, by rw [← hnamed]; rfl⟩

theorem bastion_prospect : (script.prospect object).spec.bastion = object.spec.bastion := by
  obtain ⟨endpoint, hspec⟩ := script.spec_prospect object
  rw [hspec]

end Script

/-! ### Routine marks -/

/-- Marks that a pass may leave on an object with a prospect. -/
def Mark.Routine (script : Script) (prospect : AwsCluster) : Mark → Prop
  | .set condition => condition.type ∈ [ConditionType.securityGroupsReady,
      ConditionType.bastionReady, ConditionType.loadBalancerReady]
  | .unset type => type = ConditionType.bastionReady ∧ prospect.spec.bastion.enabled = false
  | .dnsName name => script.dnsName = some name
  | .publish host => prospect.dnsName?.filter script.hosts.contains = some host
  | .summary => True

namespace Mark

variable {script : Script} {mark : Mark} {object : AwsCluster} {type : String}

theorem bare_apply (h : mark.place = .condition type) (now : Instant) (object : AwsCluster) :
    (mark.apply now object).bare = object.bare := by
  obtain ⟨hspec, hstatus⟩ := apply_of_condition h now object
  rw [AwsCluster.bare, AwsCluster.bare, hspec, hstatus, metadata_apply]

/-- A routine mark does not change the prospect. -/
theorem Routine.prospect_apply (h : mark.Routine script (script.prospect object)) (now : Instant) :
    script.prospect (mark.apply now object) = script.prospect object := by
  cases mark with
  | set condition => rw [Script.prospect, bare_apply rfl]; rfl
  | unset type => rw [Script.prospect, bare_apply rfl]; rfl
  | summary => rw [Script.prospect, bare_apply rfl]; rfl
  | dnsName name =>
    have hname : script.dnsName = some name := h
    rw [Script.prospect, Script.prospect, Script.named_eq, Script.named_eq, hname]
    rfl
  | publish host =>
    rw [Routine, Script.dnsName?_prospect] at h
    have hpublished : script.named (object.published host).bare.guarded
        = (script.named object.bare.guarded).published host := by
      rw [Script.named_eq, Script.named_eq]
      cases script.dnsName <;> rfl
    have hname : ((script.named object.bare.guarded).published host).dnsName?
        = script.dnsName? object := by
      rw [← script.dnsName?_named, AwsCluster.dnsName?_eq, AwsCluster.dnsName?_eq]
      rfl
    rw [Script.prospect, Script.prospect, apply, hpublished, Script.reached, Script.reached, hname,
      script.dnsName?_named, h]
    exact AwsCluster.published_published _ host

/-- A routine mark leaves every verdict alone that is not one of a pass. -/
theorem Routine.remainder_apply (h : mark.Routine script (script.prospect object)) (now : Instant)
    (type : String) : (mark.apply now object).remainder type = object.remainder type := by
  obtain ⟨endpoint, hspec⟩ := (Marked.single mark now object).spec
  by_cases hplace : mark.place = .condition type
  · rw [AwsCluster.remainder, AwsCluster.remainder, hspec]
    cases mark with
    | set condition =>
      cases hplace
      rw [verdicts_set_apply, List.tail_cons]
      simp only [Routine, List.mem_cons, List.not_mem_nil, or_false] at h
      split
      · rfl
      · rcases h with h | h | h <;> simp_all
    | unset unset =>
      cases hplace
      obtain ⟨rfl, hdisabled⟩ := h
      rw [script.bastion_prospect] at hdisabled
      simp [hdisabled]
    | summary =>
      cases hplace
      rw [verdicts_summary_apply, List.tail_cons]
      rfl
    | dnsName name => cases hplace
    | publish host => cases hplace
  · rw [AwsCluster.remainder, AwsCluster.remainder, verdicts_apply hplace, hspec]

/-- Work that is done stays done, since it is done again in the same way only. -/
theorem Settled.of_routine {script : Script} {call : ServiceCall} {prospect object : AwsCluster}
    {mark other : Mark} (h : mark.Settled object) (hwork : mark ∈ script.workMarks call)
    (hother : other.Routine script prospect) (now : Instant) :
    mark.Settled (other.apply now object) := by
  obtain ⟨name, hname, rfl⟩ := Script.mem_workMarks hwork
  cases other with
  | dnsName name' =>
    have hsame : some name = some name' := hname.symm.trans hother
    cases hsame
    exact Mark.settled_apply (.dnsName name) now object
  | set condition => refine h.of_place_ne ?_ ?_ now <;> nofun
  | unset type => refine h.of_place_ne ?_ ?_ now <;> nofun
  | publish host => refine h.of_place_ne ?_ ?_ now <;> nofun
  | summary => refine h.of_place_ne ?_ ?_ now <;> nofun

end Mark

/-- Work that was done among routine marks is still done afterwards. -/
theorem Marked.settled_of_work {script : Script} {call : ServiceCall} {prospect a b : AwsCluster}
    {marks : List Mark} {mark : Mark} (h : Marked marks a b)
    (hroutine : ∀ other ∈ marks, other.Routine script prospect)
    (hwork : mark ∈ script.workMarks call) (hmark : mark.Settled a ∨ mark ∈ marks) :
    mark.Settled b := by
  induction h with
  | nil object => exact hmark.elim id fun hmem => nomatch hmem
  | cons other now _ ih =>
    rw [List.forall_mem_cons] at hroutine
    refine ih hroutine.2 ?_
    rcases hmark with hmark | hmem
    · exact .inl (hmark.of_routine hwork hroutine.1 now)
    · rcases List.mem_cons.1 hmem with rfl | hmem
      · exact .inl (Mark.settled_apply mark now _)
      · exact .inr hmem

/-- Where the load balancer got its DNS name, this is the one that was awaited. -/
theorem Script.dnsName?_of_settled {script : Script} {object : AwsCluster}
    (h : ∀ mark ∈ script.workMarks ⟨.reconcile, .loadBalancer⟩, mark.Settled object) :
    object.dnsName? = script.dnsName? object := by
  rw [Script.dnsName?, Script.named_eq]
  cases hname : script.dnsName with
  | none => rfl
  | some name =>
    have hmem : Mark.dnsName name ∈ script.workMarks ⟨.reconcile, .loadBalancer⟩ := by
      simp [Script.workMarks, hname]
    have hsettled : object.statusOrDefault.network.apiServerLoadBalancer.dnsName = some name :=
      h _ hmem
    rw [AwsCluster.dnsName?_eq, hsettled]
    rfl

/-! ### Akin objects -/

/-- Two objects of which the same is going to become. -/
structure Script.Akin (script : Script) (a b : AwsCluster) : Prop where
  prospect : script.prospect b = script.prospect a
  remainder : ∀ type, b.remainder type = a.remainder type

namespace Script.Akin

variable {script : Script} {a b c : AwsCluster}

theorem refl (object : AwsCluster) : script.Akin object object := ⟨rfl, fun _ => rfl⟩

theorem symm (h : script.Akin a b) : script.Akin b a :=
  ⟨h.prospect.symm, fun type => (h.remainder type).symm⟩

theorem trans (h : script.Akin a b) (h' : script.Akin b c) : script.Akin a c :=
  ⟨h'.prospect.trans h.prospect, fun type => (h'.remainder type).trans (h.remainder type)⟩

/-- Akin objects await the same DNS name. -/
theorem dnsName? (h : script.Akin a b) : script.dnsName? b = script.dnsName? a := by
  rw [← dnsName?_prospect, ← dnsName?_prospect, h.prospect]

/-- Akin objects agree on whether a bastion is wanted. -/
theorem bastion (h : script.Akin a b) : b.spec.bastion = a.spec.bastion := by
  rw [← script.bastion_prospect b, ← script.bastion_prospect a, h.prospect]

/-- Whatever routine marks are left on an object, the same is going to become of it. -/
theorem of_marked {marks : List Mark} (h : Marked marks a b)
    (hroutine : ∀ mark ∈ marks, mark.Routine script (script.prospect a)) : script.Akin a b := by
  induction h with
  | nil object => exact .refl object
  | cons mark now _ ih =>
    rw [List.forall_mem_cons] at hroutine
    have hprospect := hroutine.1.prospect_apply now
    have hrest := ih (by rw [hprospect]; exact hroutine.2)
    exact trans ⟨hprospect, hroutine.1.remainder_apply now⟩ hrest

/-- Of the metadata, neither the version nor the finalizer of this controller makes a difference. -/
theorem of_guarded (hguarded : b.guarded.metadata = a.guarded.metadata) (hspec : b.spec = a.spec)
    (hstatus : b.status = a.status) : script.Akin a b := by
  obtain ⟨metadata, spec, status⟩ := a
  obtain ⟨metadata', spec', status'⟩ := b
  cases hspec
  cases hstatus
  have hbare : (AwsCluster.mk metadata' spec status).bare.guarded
      = (AwsCluster.mk metadata spec status).bare.guarded :=
    congrArg (fun metadata' => AwsCluster.mk metadata' spec
      (AwsCluster.mk metadata spec status).bare.status) hguarded
  exact ⟨congrArg (fun object => script.reached (script.named object)) hbare, fun _ => rfl⟩

theorem withVersion (object : AwsCluster) (version : Option String) :
    script.Akin object (object.withVersion version) := .of_guarded rfl rfl rfl

theorem addFinalizer (scope : Scope) : script.Akin scope.object scope.addFinalizer.2.object := by
  rw [Scope.addFinalizer]
  split
  next => exact .refl _
  next h =>
    refine .of_guarded ?_ rfl rfl
    have hadded : (scope.setFinalizers (some (scope.object.metadata.finalizers.getD []
        ++ [clusterFinalizer]))).object.hasFinalizer = true := by
      simp [AwsCluster.hasFinalizer, Metadata.hasFinalizer, Scope.setFinalizers, Scope.modifyObject]
    rw [AwsCluster.guarded, AwsCluster.guarded, if_pos hadded, if_neg h]
    rfl

end Script.Akin

end ClusterInfra
