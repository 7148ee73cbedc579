import ClusterInfra.Proofs.Reconcile.Scripted
/-!
What a clean pass leaves behind.

Where no call fails, all that a pass can mark is settled afterwards. Such an object is as its
prospect says, and what it says on each type is known but for the verdicts that no pass records. So
two clean passes leave objects that agree if they started from akin ones.
-/

namespace ClusterInfra

/-- Two objects agree if they differ in their version and in the order and times of their conditions
at most: the same metadata, spec and status, and on each type the same verdicts. -/
structure AwsCluster.Agrees (a b : AwsCluster) : Prop where
  metadata : b.metadata = { a.metadata with resourceVersion := b.metadata.resourceVersion }
  spec : b.spec = a.spec
  status : b.status.map (fun status => { status with conditions := [] })
    = a.status.map fun status => { status with conditions := [] }
  verdicts : ∀ type, b.verdicts type = a.verdicts type

theorem AwsCluster.Agrees.refl (object : AwsCluster) : object.Agrees object :=
  ⟨rfl, rfl, rfl, fun _ => rfl⟩

/-- All that a pass marks when it succeeds is settled. -/
structure Script.Done (script : Script) (object : AwsCluster) : Prop where
  finalizer : object.hasFinalizer = true
  created : ∀ subsystem ∈ Subsystem.creationOrder,
    ∀ mark ∈ Attempt.creationMarks script object.spec.bastion.enabled subsystem (.ok ()),
      mark.Settled object
  awaited : ∀ mark ∈ Attempt.awaitMarks (script.dnsName? object)
    ((script.dnsName? object).map script.hosts.contains), mark.Settled object
  summary : Mark.summary.Settled object

namespace Script.Done

variable {script : Script} {object a b : AwsCluster}

theorem named (h : script.Done object) {mark : Mark}
    (hmem : mark ∈ script.workMarks ⟨.reconcile, .loadBalancer⟩) : mark.Settled object :=
  h.created .loadBalancer (by decide) mark (List.mem_append_left _ hmem)

/-- Such an object is as its prospect says. -/
theorem prospect (h : script.Done object) : script.prospect object = object.bare.guarded := by
  have hname : object.dnsName? = script.dnsName? object := dnsName?_of_settled fun _ => h.named
  have hnamed : script.named object.bare.guarded = object.bare.guarded := by
    rw [named_eq]
    cases hscript : script.dnsName with
    | none => rfl
    | some name =>
      have hsettled : (Mark.dnsName name).Settled object := h.named (by simp [workMarks, hscript])
      exact AwsCluster.withDnsName_eq_self hsettled
  rw [Script.prospect, hnamed, reached]
  have hbare : object.bare.guarded.dnsName? = object.dnsName? := by
    rw [AwsCluster.dnsName?_eq, AwsCluster.dnsName?_eq]
    rfl
  have hawaited := h.awaited
  rw [← hname] at hawaited
  rw [hbare]
  cases hhost : object.dnsName? with
  | none => rfl
  | some host =>
    rw [hhost] at hawaited
    rw [Option.filter_some]
    split
    next hresolves =>
      have hmem : Mark.publish host ∈ Attempt.awaitMarks (some host)
          ((some host).map script.hosts.contains) := by
        rw [Option.map_some, hresolves]
        exact List.mem_cons_of_mem _ (List.mem_singleton_self _)
      have hpublished : object.published host = object := hawaited _ hmem
      rw [AwsCluster.published_eq_self_iff] at hpublished
      exact AwsCluster.published_eq_self_iff.2 hpublished
    next => rfl

/-- Whatever came of waiting for the DNS name, it was recorded in the condition of the load
balancer. -/
theorem exists_awaitMarks (name : Option String) (resolves : String → Bool) : ∃ condition,
    condition.type = ConditionType.loadBalancerReady ∧
      Mark.set condition ∈ Attempt.awaitMarks name (name.map resolves) := by
  cases name with
  | none => exact ⟨_, rfl, List.mem_singleton_self _⟩
  | some host =>
    rw [Option.map_some]
    cases resolves host with
    | false => exact ⟨_, rfl, List.mem_singleton_self _⟩
    | true => exact ⟨_, rfl, List.mem_cons_self⟩

/-- A subsystem that was reconciled is on record alike in akin objects. -/
theorem head?_created (ha : script.Done a) (hb : script.Done b) (h : script.Akin a b)
    (subsystem : Subsystem) {condition : Condition}
    (hmem : .set condition
      ∈ Attempt.creationMarks script a.spec.bastion.enabled subsystem (.ok ())) :
    (b.verdicts condition.type).head? = (a.verdicts condition.type).head? := by
  have hsubsystem : subsystem ∈ Subsystem.creationOrder := by cases subsystem <;> decide
  have ha' := ha.created subsystem hsubsystem _ hmem
  have hb' := hb.created subsystem hsubsystem _ (h.bastion ▸ hmem)
  exact hb'.trans ha'.symm

/-- What is summarized is on record alike in akin objects. -/
theorem head?_eq (ha : script.Done a) (hb : script.Done b) (h : script.Akin a b) {type : String}
    (htype : type ∈ Scope.summarizedTypes a.spec.bastion.enabled) :
    (b.verdicts type).head? = (a.verdicts type).head? := by
  have hsecurityGroups : (b.verdicts ConditionType.securityGroupsReady).head?
      = (a.verdicts ConditionType.securityGroupsReady).head? :=
    head?_created ha hb h .securityGroups (List.mem_append_right _ (List.mem_singleton_self _))
  have hloadBalancer : (b.verdicts ConditionType.loadBalancerReady).head?
      = (a.verdicts ConditionType.loadBalancerReady).head? := by
    obtain ⟨condition, htype, hmem⟩ :=
      exists_awaitMarks (script.dnsName? a) script.hosts.contains
    have ha' := ha.awaited _ hmem
    have hb' := hb.awaited _ (h.dnsName? ▸ hmem)
    rw [← htype]
    exact hb'.trans ha'.symm
  have hbastion : a.spec.bastion.enabled = true →
      (b.verdicts ConditionType.bastionReady).head?
        = (a.verdicts ConditionType.bastionReady).head? := by
    intro henabled
    have hmem : Mark.set (.holds ConditionType.bastionReady)
        ∈ Subsystem.bastion.readyMarks a.spec.bastion.enabled := by
      rw [henabled]
      exact List.mem_singleton_self _
    exact head?_created ha hb h .bastion (List.mem_append_right _ hmem)
  rw [Scope.summarizedTypes] at htype
  split at htype
  next henabled =>
    simp only [List.mem_cons, List.not_mem_nil, or_false] at htype
    rcases htype with rfl | rfl | rfl
    · exact hsecurityGroups
    · exact hbastion henabled
    · exact hloadBalancer
  next =>
    simp only [List.mem_cons, List.not_mem_nil, or_false] at htype
    rcases htype with rfl | rfl
    · exact hsecurityGroups
    · exact hloadBalancer

/-- So is the summary. -/
theorem head?_ready (ha : script.Done a) (hb : script.Done b) (h : script.Akin a b) :
    (b.verdicts ConditionType.ready).head? = (a.verdicts ConditionType.ready).head? := by
  have hsummary : b.summary = a.summary := by
    rw [AwsCluster.summary, AwsCluster.summary, h.bastion]
    exact Conditions.summarize_congr fun type htype => ha.head?_eq hb h htype
  have hready : (b.verdicts ConditionType.ready).head? = some b.summary.verdict := hb.summary
  rw [hready, hsummary]
  exact ha.summary.symm

/-- The verdicts on every type are those that a pass records, and those that none does. -/
theorem verdicts_eq (ha : script.Done a) (hb : script.Done b) (h : script.Akin a b)
    (type : String) : b.verdicts type = a.verdicts type := by
  have hjoin : (b.verdicts type).head? = (a.verdicts type).head? →
      (b.verdicts type).tail = (a.verdicts type).tail → b.verdicts type = a.verdicts type := by
    intro hhead htail
    cases hverdicts : a.verdicts type <;> cases hverdicts' : b.verdicts type <;> simp_all
  have hremainder := h.remainder type
  rw [AwsCluster.remainder, AwsCluster.remainder, h.bastion] at hremainder
  by_cases hbastion : type = ConditionType.bastionReady
  · subst hbastion
    cases henabled : a.spec.bastion.enabled with
    | true =>
      rw [henabled] at hremainder
      refine hjoin (ha.head?_eq hb h ?_) hremainder
      rw [henabled]
      decide
    | false =>
      have hmem : Mark.unset ConditionType.bastionReady
          ∈ Attempt.creationMarks script false .bastion (.ok ()) :=
        List.mem_append_right _ (List.mem_singleton_self _)
      have ha' := ha.created .bastion (by decide) _ (by rw [henabled]; exact hmem)
      have hb' := hb.created .bastion (by decide) _ (by rw [h.bastion, henabled]; exact hmem)
      exact hb'.trans ha'.symm
  rw [if_neg hbastion, if_neg hbastion] at hremainder
  by_cases hreported : type ∈ [ConditionType.ready, ConditionType.securityGroupsReady,
      ConditionType.loadBalancerReady]
  · rw [if_pos hreported, if_pos hreported] at hremainder
    refine hjoin ?_ hremainder
    simp only [List.mem_cons, List.not_mem_nil, or_false] at hreported
    rcases hreported with rfl | rfl | rfl
    · exact ha.head?_ready hb h
    · refine ha.head?_eq hb h ?_
      cases a.spec.bastion.enabled <;> decide
    · refine ha.head?_eq hb h ?_
      cases a.spec.bastion.enabled <;> decide
  · rw [if_neg hreported, if_neg hreported] at hremainder
    exact hremainder

theorem isSome_status (h : script.Done object) : object.status.isSome = true := by
  have hready : (object.verdicts ConditionType.ready).head? = _ := h.summary
  cases hstatus : object.status with
  | some status => rfl
  | none =>
    simp [AwsCluster.verdicts, AwsCluster.conditions, hstatus, Conditions.verdicts] at hready

/-- What becomes of akin objects when a pass succeeds agrees. -/
theorem agrees (ha : script.Done a) (hb : script.Done b) (h : script.Akin a b) : a.Agrees b := by
  have hguarded : b.bare.guarded = a.bare.guarded := by
    rw [← hb.prospect, ← ha.prospect, h.prospect]
  have hmetadata : ∀ {object : AwsCluster}, script.Done object →
      object.bare.guarded.metadata = { object.metadata with resourceVersion := none } := by
    intro object hdone
    have hfinalizer : object.bare.hasFinalizer = true := hdone.finalizer
    rw [AwsCluster.guarded, if_pos hfinalizer]
    rfl
  have hstatus : ∀ {object : AwsCluster}, script.Done object → object.bare.guarded.status
      = object.status.map fun status => { status with conditions := [] } := by
    intro object hdone
    obtain ⟨status, hsome⟩ := Option.isSome_iff_exists.1 hdone.isSome_status
    simp [AwsCluster.guarded, AwsCluster.bare, AwsCluster.statusOrDefault, hsome]
  refine ⟨?_, congrArg (·.spec) hguarded, ?_, ha.verdicts_eq hb h⟩
  · have heq := congrArg (·.metadata) hguarded
    simp only [hmetadata ha, hmetadata hb] at heq
    exact congrArg (fun metadata : Metadata =>
      { metadata with resourceVersion := b.metadata.resourceVersion }) heq
  · have heq := congrArg (·.status) hguarded
    simp only [hstatus ha, hstatus hb] at heq
    exact heq

end Script.Done

end ClusterInfra
