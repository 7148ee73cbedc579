import ClusterInfra.Proofs.Reconcile.Exits
/-!
Conditions report on the calls of the invocation that stored them.

Whichever exit a pass takes, the condition of each subsystem that it called says how the call ended,
however the conditions stood before. One exit leaves a gap: if the invocation is cancelled at the
look-up of the DNS name, the load balancer keeps the condition that it had.
-/

namespace ClusterInfra

variable {σ : Type} {cloud : Cloud σ}

theorem AwsCluster.verdict?_congr {a b : AwsCluster} (h : b.status = a.status) (type : String) :
    b.verdict? type = a.verdict? type := by
  simp only [verdict?, conditions, h]

/-- How the load balancer stands once it was reconciled: by its DNS name and by what the resolver
answered, with the result of the pass. The verdict that was left before stays if the invocation is
cancelled before there is an answer. -/
inductive Cloud.Awaited (cloud : Cloud σ) (dnsRequeue : Nat) (left : Option Verdict) (state : σ) :
    Option String → Except ControllerError Outcome → Option Verdict → Prop
  | unnamed :
      Awaited cloud dnsRequeue left state none (.ok (.requeueAfter dnsRequeue))
        (some (.fails Reason.waitForDnsName .info ""))
  | unresolved {host : String} {asked : σ}
      (h : cloud.lookUp host asked = (.answered false, state)) :
      Awaited cloud dnsRequeue left state (some host) (.ok (.requeueAfter dnsRequeue))
        (some (.fails Reason.waitForDnsNameResolve .info (host ++ " does not resolve yet")))
  | resolved {host : String} {asked : σ} (h : cloud.lookUp host asked = (.answered true, state)) :
      Awaited cloud dnsRequeue left state (some host) (.ok .noRequeue) (some .holds)
  | interrupted (host : String) :
      Awaited cloud dnsRequeue left state (some host) (.error (.cancelled .loadBalancer)) left

/-- If the pass asks for nothing more, the load balancer is ready. -/
theorem Cloud.Awaited.eq_holds {dnsRequeue : Nat} {left verdict : Option Verdict} {state : σ}
    {name : Option String} (h : cloud.Awaited dnsRequeue left state name (.ok .noRequeue) verdict) :
    verdict = some .holds := by
  cases h
  rfl

/-- If the pass asks to be repeated, the load balancer is not ready. -/
theorem Cloud.Awaited.exists_fails {dnsRequeue seconds : Nat} {left verdict : Option Verdict}
    {state : σ} {name : Option String}
    (h : cloud.Awaited dnsRequeue left state name (.ok (.requeueAfter seconds)) verdict) :
    ∃ reason message, verdict = some (.fails reason .info message) := by
  cases h with
  | unnamed => exact ⟨_, _, rfl⟩
  | unresolved => exact ⟨_, _, rfl⟩

namespace Attempt

variable {dnsRequeue : Nat} {deleting : Bool} {a b c : Attempt σ}
  {steps : List (ServiceCall × Except StepError Unit)}
  {out : Except ControllerError Outcome × Attempt σ}

/-- The summary is the only verdict that the close of an attempt changes. -/
theorem verdict?_concluded (a : Attempt σ) {type : String} (hne : type ≠ ConditionType.ready) :
    a.concluded.scope.object.verdict? type = a.scope.object.verdict? type := by
  have hplace : Mark.summary.place ≠ .condition type := fun heq =>
    hne (Place.condition.inj heq).symm
  exact Mark.verdict?_apply hplace

/-! ### The end of a normal pass -/

/-- Waiting for the DNS name marks the load balancer and the publication only. -/
theorem Awaits.marked (h : a.Awaits cloud dnsRequeue out) :
    ∃ marks, Marked marks a.scope.object out.2.scope.object ∧ ∀ mark ∈ marks,
      mark.place = .condition ConditionType.loadBalancerReady ∨ mark.place = .publication := by
  have hwaiting : ∀ (scope : Scope) (reason message : String) (now : Instant), ∃ marks,
      Marked marks scope.object (scope.waiting reason message now).object ∧ ∀ mark ∈ marks,
        mark.place = .condition ConditionType.loadBalancerReady ∨ mark.place = .publication := by
    intro scope reason message now
    refine ⟨_, scope.marked_report .loadBalancer reason .info message now, fun mark hmem => ?_⟩
    cases List.mem_singleton.1 hmem
    exact .inl rfl
  cases h with
  | unnamed hname => exact hwaiting a.scope ..
  | interrupted hname hlookUp =>
    rw [(spec_of_lookUp hlookUp).1]
    exact ⟨[], .nil _, List.forall_mem_nil _⟩
  | @unresolved host b hname hlookUp =>
    rw [← (spec_of_lookUp hlookUp).1]
    exact hwaiting b.scope ..
  | @resolved host b hname hlookUp =>
    rw [← (spec_of_lookUp hlookUp).1]
    refine ⟨_, b.scope.marked_publish host b.world.clock.read.1, ?_⟩
    simp [Mark.place, Condition.holds]

/-- Waiting for the DNS name makes no calls. -/
theorem Awaits.told (h : a.Awaits cloud dnsRequeue out) :
    out.2.world.metrics = a.world.metrics ∧
    ∃ looked, out.2.world.journal = a.world.journal ++ looked ∧
      Event.calls looked = [] ∧ Event.returns looked = [] := by
  cases h with
  | unnamed hname => exact ⟨rfl, [], (List.append_nil _).symm, rfl, rfl⟩
  | interrupted hname hlookUp => exact (spec_of_lookUp hlookUp).2
  | unresolved hname hlookUp => exact (spec_of_lookUp hlookUp).2
  | resolved hname hlookUp => exact (spec_of_lookUp hlookUp).2

theorem Awaits.bastion (h : a.Awaits cloud dnsRequeue out) :
    out.2.scope.object.spec.bastion = a.scope.object.spec.bastion := by
  obtain ⟨marks, hmarked, -⟩ := h.marked
  obtain ⟨endpoint, hspec⟩ := hmarked.spec
  rw [hspec]

theorem Awaits.dnsName? (h : a.Awaits cloud dnsRequeue out) :
    out.2.scope.object.dnsName? = a.scope.object.dnsName? := by
  obtain ⟨marks, hmarked, hplaces⟩ := h.marked
  refine hmarked.dnsName? fun mark hmem hplace => ?_
  rcases hplaces mark hmem with heq | heq
  · cases hplace.symm.trans heq
  · cases hplace.symm.trans heq

theorem Awaits.verdict?_of_ne (h : a.Awaits cloud dnsRequeue out) {type : String}
    (hne : type ≠ ConditionType.loadBalancerReady) :
    out.2.scope.object.verdict? type = a.scope.object.verdict? type := by
  obtain ⟨marks, hmarked, hplaces⟩ := h.marked
  refine hmarked.verdict? fun mark hmem hplace => ?_
  rcases hplaces mark hmem with heq | heq
  · cases hplace.symm.trans heq
    exact hne rfl
  · cases hplace.symm.trans heq

/-- The load balancer stands as its DNS name and the resolver have it. -/
theorem Awaits.awaited (h : a.Awaits cloud dnsRequeue out) :
    cloud.Awaited dnsRequeue (a.scope.object.verdict? ConditionType.loadBalancerReady)
      out.2.world.cloud out.2.scope.object.dnsName? out.1
      (out.2.scope.object.verdict? ConditionType.loadBalancerReady) := by
  rw [h.dnsName?]
  have hwaiting : ∀ (scope : Scope) (reason message : String) (now : Instant),
      (scope.waiting reason message now).object.verdict? ConditionType.loadBalancerReady
        = some (.fails reason .info message) := fun scope reason message now =>
    ServiceCall.verdict?_of_reportMarks rfl
      (scope.marked_report .loadBalancer reason .info message now)
  cases h with
  | unnamed hname =>
    rw [hname]
    have hverdict := hwaiting a.scope Reason.waitForDnsName "" a.world.clock.read.1
    exact hverdict ▸ .unnamed
  | @interrupted host b hname hlookUp =>
    rw [hname]
    simp only [(spec_of_lookUp hlookUp).1]
    exact .interrupted host
  | @unresolved host b hname hlookUp =>
    rw [hname]
    have hverdict := hwaiting b.scope Reason.waitForDnsNameResolve (host ++ " does not resolve yet")
      b.world.clock.read.1
    exact hverdict ▸ .unresolved (answer_of_lookUp hlookUp).1
  | @resolved host b hname hlookUp =>
    rw [hname]
    have hverdict : (b.scope.publish host b.world.clock.read.1).object.verdict?
        ConditionType.loadBalancerReady = some .holds := by
      rcases b.scope.marked_publish host b.world.clock.read.1 with _ | ⟨first, now, hrest⟩
      rw [hrest.verdict? (by simp [Mark.place])]
      exact Mark.verdict?_set_apply (.holds _) now b.scope.object
    exact hverdict ▸ .resolved (answer_of_lookUp hlookUp).1

/-! ### What a pass tells of its calls -/

/-- A pass carried some calls out, and tells the same of them in the journal, in the counts and in
the conditions. How the load balancer stands once it was reconciled is up to its DNS name. -/
structure Worked (cloud : Cloud σ) (dnsRequeue : Nat) (deleting : Bool)
    (steps : List (ServiceCall × Except StepError Unit)) (a : Attempt σ)
    (out : Except ControllerError Outcome × Attempt σ) : Prop where
  told : ∃ events looked, out.2.world.journal = a.world.journal ++ (events ++ looked) ∧
    Event.Tells events steps ∧ Event.calls looked = [] ∧ Event.returns looked = []
  counted : ∀ call : ServiceCall, (∀ e, (call, .error e) ∉ steps) →
    out.2.world.metrics.failureCount call.subsystem call.action.label
      = a.world.metrics.failureCount call.subsystem call.action.label
  bastion : cloud.Impartial →
    out.2.scope.object.spec.bastion.enabled = a.scope.object.spec.bastion.enabled
  verdict : cloud.Impartial → ∀ {call result type}, (call, result) ∈ steps →
    call.subsystem.condition? = some type → (call, result) ≠ ServiceCall.deferred →
    out.2.scope.object.verdict? type = call.verdict a.scope.object.spec.bastion.enabled result
  awaited : ServiceCall.deferred ∈ steps → deleting = false ∧ ∃ c : Attempt σ,
    c.Awaits cloud dnsRequeue out ∧ (cloud.Impartial →
      c.scope.object.verdict? ConditionType.loadBalancerReady
        = a.scope.object.verdict? ConditionType.loadBalancerReady)

/-- A call that was counted as a failure was one. -/
theorem Worked.exists_error (h : Worked cloud dnsRequeue deleting steps a out) {call : ServiceCall}
    (hcounted : a.world.metrics.failureCount call.subsystem call.action.label
      < out.2.world.metrics.failureCount call.subsystem call.action.label) :
    ∃ e, (call, .error e) ∈ steps := by
  refine Classical.byContradiction fun hnone => ?_
  rw [not_exists] at hnone
  rw [h.counted call hnone] at hcounted
  exact absurd hcounted (Nat.lt_irrefl _)

/-- A pass that goes on from a secured attempt goes on from the loaded one. -/
theorem Worked.of_secured (h : Worked cloud dnsRequeue deleting steps b out)
    (hsecured : a.Secured b) : Worked cloud dnsRequeue deleting steps a out := by
  obtain ⟨store, faults, hworld, -⟩ := hsecured.world
  have hverdict := AwsCluster.verdict?_congr hsecured.status
  have hspec := hsecured.spec
  obtain ⟨told, counted, bastion, verdict, awaited⟩ := h
  simp only [hverdict, hspec, hworld] at told counted bastion verdict awaited
  exact ⟨told, counted, bastion, verdict, awaited⟩

/-- A pass that ends with its calls. -/
theorem CarriedOut.worked {context : ServiceContext} (h : CarriedOut cloud context steps a b)
    (hnodup : (steps.map (·.1.subsystem)).Nodup) (hnow : ServiceCall.deferred ∉ steps)
    (result : Except ControllerError Outcome) (hjournal : c.world.journal = b.world.journal)
    (hmetrics : c.world.metrics = b.world.metrics)
    (hspec : c.scope.object.spec = b.scope.object.spec)
    (hstatus : c.scope.object.status = b.scope.object.status) :
    Worked cloud dnsRequeue deleting steps a (result, c) where
  told := by
    obtain ⟨events, hevents, htells⟩ := h.tells
    exact ⟨events, [], by rw [List.append_nil, hjournal, hevents], htells, rfl, rfl⟩
  counted _ hnone := by
    rw [hmetrics]
    exact h.failureCount hnone
  bastion himpartial := by
    rw [hspec]
    exact h.view_eq AwsCluster.blind_bastion fun _ _ => himpartial.bastion _
  verdict himpartial _ _ _ hmem htype hne := by
    rw [AwsCluster.verdict?_congr hstatus]
    exact h.verdict? himpartial hnodup hmem htype hne
  awaited hmem := absurd hmem hnow

/-- A pass that goes on to the DNS name. -/
theorem CarriedOut.worked_awaits {context : ServiceContext}
    (h : CarriedOut cloud context Subsystem.creations a b)
    (hawaits : b.Awaits cloud dnsRequeue out) :
    Worked cloud dnsRequeue false Subsystem.creations a out where
  told := by
    obtain ⟨events, hevents, htells⟩ := h.tells
    obtain ⟨-, looked, hlooked, hcalls, hreturns⟩ := hawaits.told
    exact ⟨events, looked, by rw [hlooked, hevents, List.append_assoc], htells, hcalls, hreturns⟩
  counted _ hnone := by
    rw [hawaits.told.1]
    exact h.failureCount hnone
  bastion himpartial := by
    rw [hawaits.bastion]
    exact h.view_eq AwsCluster.blind_bastion fun _ _ => himpartial.bastion _
  verdict himpartial call result type hmem htype hne := by
    have hother : type ≠ ConditionType.loadBalancerReady := fun heq => by
      obtain ⟨subsystem, -, hstep⟩ := List.mem_map.1 hmem
      cases hstep
      cases (Subsystem.eq_of_condition? (heq ▸ htype) rfl : Subsystem.loadBalancer = subsystem)
      exact hne rfl
    rw [hawaits.verdict?_of_ne hother]
    exact h.verdict? himpartial (by decide) hmem htype hne
  awaited _ := by
    refine ⟨rfl, b, hawaits, fun himpartial =>
      h.verdict?_of_ne (fun step _ => himpartial.conditions step.1) ?_⟩
    decide

/-- After all creations have succeeded, the conditions say so. -/
theorem Worked.created (h : Worked cloud dnsRequeue deleting Subsystem.creations a out)
    (himpartial : cloud.Impartial) :
    out.2.scope.object.verdict? ConditionType.securityGroupsReady = some .holds ∧
    out.2.scope.object.verdict? ConditionType.bastionReady
      = if out.2.scope.object.spec.bastion.enabled then some .holds else none := by
  rw [h.bastion himpartial]
  have hgroups : (⟨.reconcile, .securityGroups⟩, .ok ()) ∈ Subsystem.creations := by decide
  have hbastion : (⟨.reconcile, .bastion⟩, .ok ()) ∈ Subsystem.creations := by decide
  exact ⟨h.verdict himpartial hgroups rfl (by decide),
    h.verdict himpartial hbastion rfl (by decide)⟩

/-- Whichever exit a pass takes, it tells of its calls. -/
theorem Exits.worked (h : a.Exits cloud dnsRequeue deleting out) :
    ∃ steps, Worked cloud dnsRequeue deleting steps a out := by
  cases h with
  | unguarded message faults =>
    have hsame := spec_addFinalizer a.scope
    have hnothing : CarriedOut cloud a.scope.context [] a a := .nil a
    exact ⟨[], hnothing.worked .nil (fun h => nomatch h) _ rfl rfl hsame.1 hsame.2⟩
  | @stopped b c before rest failed e hsecured horder hsteps =>
    have hnodup : (before ++ failed :: rest).Nodup := horder ▸ by decide
    refine ⟨_, (hsteps.worked ?_ ?_ _ rfl rfl rfl rfl).of_secured hsecured⟩
    · simp only [List.map_append, List.map_map, List.map_cons, List.map_nil, Function.comp_def,
        List.map_id']
      exact hnodup.sublist (List.Sublist.append (.refl _) (.cons_cons _ (List.nil_sublist _)))
    · -- The load balancer comes last, so nothing can have failed after it.
      intro hmem
      rcases List.mem_append.1 hmem with hmem | hmem
      · obtain ⟨subsystem, hbefore, hstep⟩ := List.mem_map.1 hmem
        cases hstep
        have hlast : Subsystem.loadBalancer ∈ Subsystem.creationOrder.dropLast := by
          rw [horder, List.dropLast_append_cons]
          exact List.mem_append_left _ hbefore
        revert hlast
        decide
      · cases List.mem_singleton.1 hmem
  | reached hsecured hsteps hawaits =>
    exact ⟨_, (hsteps.worked_awaits hawaits).of_secured hsecured⟩
  | @deleted b c steps hcalls hsteps result hworld hspec hstatus =>
    refine ⟨steps, hsteps.worked ?_ ?_ result (by rw [hworld]) (by rw [hworld]) hspec hstatus⟩
    · rw [ServiceCall.subsystems_eq hcalls]
      decide
    · intro hmem
      have hcall : ServiceCall.deferred.1 ∈ steps.map (·.1) := List.mem_map_of_mem hmem
      rw [hcalls] at hcall
      revert hcall
      decide

end Attempt

theorem Cloud.impartial_obliging : Cloud.obliging.Impartial :=
  ⟨fun _ _ _ _ => rfl, fun _ _ _ _ => rfl⟩

/-- An object whose load balancer has failed. -/
def Sample.unbalanced : AwsCluster :=
  named [.fails ConditionType.loadBalancerReady Reason.loadBalancerFailed .warning "quota"]

/-- Services that do all that is asked of them, and a resolver that does not answer before the
invocation is cancelled. -/
def Cloud.unanswering : Cloud Unit where
  call := Cloud.obliging.call
  lookUp _ _ := (.interrupted, ())

namespace World

variable {dnsRequeue : Nat} {key : ObjectKey} {cancelled : Bool} {mode : Mode} {world : World σ}
  {a : Attempt σ} {out : Except ControllerError Outcome × Attempt σ} {before stored : AwsCluster}

/-- What is not summarized is stored as the pass left it. -/
theorem Concluded.verdict? (h : world.Concluded cloud dnsRequeue key cancelled mode a out)
    (hstored : (world.reconcile cloud dnsRequeue key cancelled).2.store.awsClusters.get? key
      = some stored) {type : String} (hne : type ≠ ConditionType.ready) :
    stored.verdict? type = out.2.scope.object.verdict? type := by
  rw [AwsCluster.verdict?_congr (h.shown hstored).2, Attempt.verdict?_concluded _ hne]

theorem Concluded.dnsName? (h : world.Concluded cloud dnsRequeue key cancelled mode a out)
    (hstored : (world.reconcile cloud dnsRequeue key cancelled).2.store.awsClusters.get? key
      = some stored) : stored.dnsName? = out.2.scope.object.dnsName? := by
  have hsummary := (Marked.single .summary out.2.world.clock.read.1 out.2.scope.object).dnsName?
    (by simp [Mark.place])
  rw [← hsummary, AwsCluster.dnsName?, (h.shown hstored).2]
  rfl

/-- Whatever the conditions were before, in whatever way services and resolver answer, and wherever
the invocation is cancelled: if it is concluded, the stored condition of each subsystem that it
called says how the call ended. Once the load balancer was reconciled, its condition says how its
DNS name stands, with one exception: it stays what it was if the invocation was cancelled at the
name. -/
theorem conditions_report_calls (hquiet : cloud.Quiet) (himpartial : cloud.Impartial)
    (hworld : world.Reachable cloud dnsRequeue)
    (hconcludes : world.Concludes cloud dnsRequeue key cancelled mode)
    (hbefore : world.store.awsClusters.get? key = some before)
    (hstored : (world.reconcile cloud dnsRequeue key cancelled).2.store.awsClusters.get? key
      = some stored) :
    ∃ events, (world.reconcile cloud dnsRequeue key cancelled).2.journal
        = world.journal ++ events ∧
      Event.calls events = (Event.returns events).map (·.1) ∧
      (∀ call ending type, (call, ending) ∈ Event.returns events →
        call.subsystem.condition? = some type →
        (call, ending) ≠ (⟨.reconcile, .loadBalancer⟩, .done) →
        stored.verdict? type = call.verdict before.spec.bastion.enabled ending.result) ∧
      ((⟨.reconcile, .loadBalancer⟩, .done) ∈ Event.returns events → mode = .active ∧
        cloud.Awaited dnsRequeue (before.verdict? ConditionType.loadBalancerReady)
          (world.reconcile cloud dnsRequeue key cancelled).2.cloud stored.dnsName?
          (world.reconcile cloud dnsRequeue key cancelled).1
          (stored.verdict? ConditionType.loadBalancerReady)) := by
  obtain ⟨a, out, hconcluded⟩ := hconcludes.concluded (hworld.keyed hquiet) hquiet
  have hobject := hconcluded.object hbefore
  obtain ⟨steps, hworked⟩ := hconcluded.exits.worked
  obtain ⟨events, looked, hjournal, htells, hcalls, hreturns⟩ := hworked.told
  have hreturned : Event.returns (events ++ looked) = Event.returns events := by
    rw [Event.returns_append, hreturns, List.append_nil]
  refine ⟨events ++ looked, hconcluded.journal_eq hjournal, ?_, ?_, ?_⟩
  · rw [hreturned, Event.calls_append, hcalls, List.append_nil, htells.calls]
  · intro call ending type hmem htype hne
    rw [hreturned] at hmem
    have hready : type ≠ ConditionType.ready := by
      rintro rfl
      revert htype
      cases call.subsystem <;> decide
    have hnow : (call, ending.result) ≠ ServiceCall.deferred := by
      intro hdeferred
      obtain ⟨rfl, hresult⟩ := Prod.mk.inj hdeferred
      cases ending with
      | done => exact hne rfl
      | failed error => cases hresult
      | interrupted => cases hresult
    rw [hconcluded.verdict? hstored hready, ← hobject]
    exact hworked.verdict himpartial (htells.returned call ending hmem) htype hnow
  · intro hmem
    rw [hreturned] at hmem
    obtain ⟨hmode, c, hawaits, hleft⟩ := hworked.awaited (htells.returned _ _ hmem)
    have hactive : mode = .active := by
      rcases hconcluded.admits.live with h | h
      · exact h
      · rw [h] at hmode
        cases hmode
    refine ⟨hactive, ?_⟩
    have hawaited := hawaits.awaited
    rw [hleft himpartial, hobject, ← hconcluded.verdict? hstored (by decide),
      ← hconcluded.dnsName? hstored] at hawaited
    rw [hconcluded.cloud_eq, hconcluded.reconcile]
    exact hawaited

theorem result_unbalanced : ((Sample.holding Sample.unbalanced).reconcile Cloud.obliging 15
    Sample.key false).1 = .ok .noRequeue := by
  decide +kernel

/-- Obliging services let an invocation for such an object be concluded. -/
theorem concludes_unbalanced :
    (Sample.holding Sample.unbalanced).Concludes Cloud.obliging 15 Sample.key false .active := by
  have hentered : ((Sample.holding Sample.unbalanced).enter Sample.key).1
      = .ok (some (.active, ⟨Sample.owner, Sample.unbalanced, Sample.unbalanced⟩)) := by
    decide +kernel
  have hkeyed := (Sample.reachable_holding Sample.unbalanced).keyed Cloud.quiet_obliging
  exact (enters_of_fst hentered).concludes hkeyed Cloud.quiet_obliging (Cloud.keeps_obliging _)
    result_unbalanced

theorem stored_unbalanced : ∃ stored, ((Sample.holding Sample.unbalanced).reconcile Cloud.obliging
    15 Sample.key false).2.store.awsClusters.get? Sample.key = some stored := by
  rw [← Option.isSome_iff_exists]
  decide +kernel

/-- The condition of a load balancer that had failed follows its name once that resolves. -/
theorem conditions_report_sample_calls :
    (Sample.holding Sample.unbalanced).Concludes Cloud.obliging 15 Sample.key false .active ∧
    ∃ stored, ((Sample.holding Sample.unbalanced).reconcile Cloud.obliging 15 Sample.key
        false).2.store.awsClusters.get? Sample.key = some stored ∧
      stored.verdict? ConditionType.securityGroupsReady = some .holds ∧
      stored.verdict? ConditionType.loadBalancerReady = some .holds := by
  have hbefore : (Sample.holding Sample.unbalanced).store.awsClusters.get? Sample.key
      = some Sample.unbalanced := by
    decide +kernel
  obtain ⟨stored, hstored⟩ := stored_unbalanced
  have hreturns : Event.returns ((Sample.holding Sample.unbalanced).reconcile Cloud.obliging 15
      Sample.key false).2.journal = [(⟨.reconcile, .network⟩, .done),
        (⟨.reconcile, .securityGroups⟩, .done), (⟨.reconcile, .bastion⟩, .done),
        (⟨.reconcile, .loadBalancer⟩, .done)] := by
    decide +kernel
  obtain ⟨events, hevents, -, hreports, hawaited⟩ := conditions_report_calls Cloud.quiet_obliging
    Cloud.impartial_obliging (Sample.reachable_holding Sample.unbalanced) concludes_unbalanced hbefore
    hstored
  have hjournal : (Sample.holding Sample.unbalanced).journal = [] := rfl
  rw [hevents, hjournal, List.nil_append] at hreturns
  rw [hreturns] at hreports hawaited
  refine ⟨concludes_unbalanced, stored, hstored, ?_, ?_⟩
  · exact hreports ⟨.reconcile, .securityGroups⟩ .done _ (by decide) rfl (by decide)
  · have hstands := (hawaited (by decide)).2
    rw [result_unbalanced] at hstands
    exact hstands.eq_holds

/-- A load balancer whose look-up is cancelled is ready still, though its name did not resolve. -/
theorem condition_left_by_cancelled_lookUp :
    Event.returns ((Sample.holding (Sample.named [.holds ConditionType.loadBalancerReady])).reconcile
        Cloud.unanswering 15 Sample.key false).2.journal
      = [(⟨.reconcile, .network⟩, .done), (⟨.reconcile, .securityGroups⟩, .done),
        (⟨.reconcile, .bastion⟩, .done), (⟨.reconcile, .loadBalancer⟩, .done)] ∧
    ((Sample.holding (Sample.named [.holds ConditionType.loadBalancerReady])).reconcile
        Cloud.unanswering 15 Sample.key false).1 = .error (.cancelled .loadBalancer) ∧
    (((Sample.holding (Sample.named [.holds ConditionType.loadBalancerReady])).reconcile
        Cloud.unanswering 15 Sample.key false).2.store.awsClusters.get? Sample.key).bind
      (·.verdict? ConditionType.loadBalancerReady) = some .holds := by
  decide +kernel

end World

end ClusterInfra
