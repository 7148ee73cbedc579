import ClusterInfra.Gateway.Services
import ClusterInfra.Proofs.Reconcile.Steps
/-!
The services of the gateway keep to the network and the bastion.

Whatever the gateway answers, it is written into the network of spec and status and into the bastion
only, and nobody writes to the store on its behalf. So what is proved of services that write nothing
else is proved of these, and it makes no difference if a call is interrupted before its answer is
there.
-/

namespace ClusterInfra

variable {σ τ ρ ν : Type} {view : AwsCluster → ν} {call : ServiceCall}

namespace Gateway

/-- A view hides what the answers to a call are written to. -/
structure Hides (view : AwsCluster → ν) (call : ServiceCall) : Prop where
  network : call = ⟨.reconcile, .network⟩ → ∀ object response,
    view (withNetwork object response) = view object
  securityGroups : ∀ object groups, view (withSecurityGroups object groups) = view object
  bastion : ∀ object bastion, view (withBastion object bastion) = view object
  loadBalancer : ∀ object balancer, view (withLoadBalancer object balancer) = view object

/-- An exchange that brings an object brings one that looks the same. -/
def Spares (view : AwsCluster → ν) (object : AwsCluster) (exchange : Http.Exchange τ AwsCluster) :
    Prop := ∀ updated, exchange.1 = .ok updated → view updated = view object

theorem spares_writeBack {α : Type} {object : AwsCluster} {write : α → AwsCluster}
    (h : ∀ value, view (write value) = view object) (exchange : Http.Exchange τ α) :
    Spares view object (writeBack write exchange) := by
  rcases exchange with ⟨e | value, state⟩
  · intro updated hupdated
    cases hupdated
  · intro updated hupdated
    cases hupdated
    exact h value

theorem view_ifObserved {change : AwsCluster → AwsCluster} {object : AwsCluster}
    (h : view (change object) = view object) : view (ifObserved change object) = view object := by
  rw [ifObserved]
  split
  · exact h
  · rfl

theorem spares_deleteBastion (h : Hides view call) (gateway : Gateway τ) (context : ServiceContext)
    (object : AwsCluster) (state : τ) :
    Spares view object (gateway.deleteBastion context object state) := by
  unfold deleteBastion
  refine spares_writeBack (fun _ => ?_) _
  exact view_ifObserved (h.bastion object none)

theorem spares_reconcileBastion (h : Hides view call) (gateway : Gateway τ)
    (context : ServiceContext) (object : AwsCluster) (state : τ) :
    Spares view object (gateway.reconcileBastion context object state) := by
  unfold reconcileBastion
  split
  · refine spares_writeBack (fun response => ?_) _
    exact h.bastion object response.machine
  · exact spares_deleteBastion h gateway context object state

/-- What a view hides is all that a call of the gateway changes. -/
theorem spares_call (h : Hides view call) (gateway : Gateway τ) (context : ServiceContext)
    (object : AwsCluster) (state : τ) :
    Spares view object (gateway.call call context object state) := by
  obtain ⟨action, subsystem⟩ := call
  cases action with
  | reconcile =>
    cases subsystem with
    | network =>
      simp only [Gateway.call, reconcileNetwork]
      exact spares_writeBack (h.network rfl object) _
    | securityGroups =>
      simp only [Gateway.call, reconcileSecurityGroups]
      refine spares_writeBack (fun response => ?_) _
      exact h.securityGroups object response.securityGroups
    | bastion => exact spares_reconcileBastion h gateway context object state
    | loadBalancer =>
      simp only [Gateway.call, reconcileLoadBalancer]
      refine spares_writeBack (fun response => ?_) _
      exact h.loadBalancer object response.balancer
  | delete =>
    cases subsystem with
    | network =>
      simp only [Gateway.call, deleteNetwork]
      exact spares_writeBack (fun _ => rfl) _
    | securityGroups =>
      simp only [Gateway.call, deleteSecurityGroups]
      exact spares_writeBack (fun _ => h.securityGroups object {}) _
    | bastion => exact spares_deleteBastion h gateway context object state
    | loadBalancer =>
      simp only [Gateway.call, deleteLoadBalancer]
      refine spares_writeBack (fun _ => ?_) _
      exact view_ifObserved (h.loadBalancer object {})

end Gateway

/-! ### Clouds in front of a gateway -/

/-- A cloud passes calls on to a gateway, which answers from any state that it may be in. A call
that is interrupted before it is answered leaves the object alone, and the invocation may be
cancelled at any time. -/
def Cloud.Fronts (cloud : Cloud σ) (gateway : Gateway τ) : Prop :=
  ∀ call context object state,
    (∃ transport cancelled, (cloud.call call context object state).1
      = { Gateway.reply object (gateway.call call context object transport).1 with cancelled }) ∨
    ∃ cancelled, (cloud.call call context object state).1
      = { object, ending := .interrupted, cancelled }

namespace Cloud.Fronts

variable {cloud : Cloud σ} {gateway : Gateway τ}

theorem quiet (h : cloud.Fronts gateway) : cloud.Quiet := by
  intro call context object state
  rcases h call context object state with ⟨transport, cancelled, heq⟩ | ⟨cancelled, heq⟩ <;> rw [heq]
  cases (gateway.call call context object transport).1 <;> rfl

theorem spares (h : cloud.Fronts gateway) (hhides : Gateway.Hides view call) :
    cloud.Spares view call := by
  intro context object state
  have hspares := Gateway.spares_call hhides gateway context object
  rcases h call context object state with ⟨transport, cancelled, heq⟩ | ⟨cancelled, heq⟩ <;> rw [heq]
  cases hresult : (gateway.call call context object transport).1 with
  | error e => rfl
  | ok updated => exact hspares transport updated hresult

/-- No answer of the gateway is written to what is reserved. -/
theorem confined (h : cloud.Fronts gateway) : cloud.Confined :=
  fun _ => h.spares
    ⟨fun _ _ _ => rfl, fun _ _ => rfl, fun _ _ => rfl, fun _ _ => rfl⟩

end Cloud.Fronts

theorem Gateway.fronts_cloud (gateway : Gateway τ) (resolve : String → ρ → Lookup × ρ) :
    (gateway.cloud resolve).Fronts gateway := by
  intro call context object state
  refine .inl ⟨state.1, false, ?_⟩
  simp only [cloud]
  cases (gateway.call call context object state.1).1 <;> rfl

end ClusterInfra
