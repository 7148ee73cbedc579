import ClusterInfra.Proofs.Gateway.Confined
import ClusterInfra.Proofs.Http.Traffic
/-!
The dialogue with the gateway.

All calls of the gateway are one: a document is wanted of a subsystem, or the subsystem is to be
gone, and what the gateway answers to that is written into the object. A cloud may relay calls to a
gateway and remember what was said. Whatever it answers was then made of the last thing that the
gateway said, and nothing was asked but what the call wants.
-/

namespace ClusterInfra

open Http (Exchange Response Tries Traffic)

variable {σ τ ρ : Type}

/-- What the gateway answers about a subsystem that is wanted. -/
def Subsystem.Answer : Subsystem → Type
  | .network => Gateway.NetworkResponse
  | .securityGroups => Gateway.SecurityGroupsResponse
  | .bastion => Gateway.BastionResponse
  | .loadBalancer => Gateway.LoadBalancerResponse

instance codecAnswer : (subsystem : Subsystem) → Codec subsystem.Answer
  | .network => inferInstanceAs (Codec Gateway.NetworkResponse)
  | .securityGroups => inferInstanceAs (Codec Gateway.SecurityGroupsResponse)
  | .bastion => inferInstanceAs (Codec Gateway.BastionResponse)
  | .loadBalancer => inferInstanceAs (Codec Gateway.LoadBalancerResponse)

namespace Gateway

/-! ### All calls as one -/

/-- The document that a call wants of its subsystem; none if the subsystem is to be gone. -/
def wanted? (object : AwsCluster) : ServiceCall → Option Json
  | ⟨.reconcile, .network⟩ => some (NetworkRequest.of object).toJson
  | ⟨.reconcile, .securityGroups⟩ => some (SecurityGroupsRequest.of object).toJson
  | ⟨.reconcile, .bastion⟩ =>
    if object.spec.bastion.enabled then some (BastionRequest.of object).toJson else none
  | ⟨.reconcile, .loadBalancer⟩ => some (LoadBalancerRequest.of object).toJson
  | ⟨.delete, _⟩ => none

/-- The method that goes with what is wanted. -/
def method : Option Json → Http.Method
  | some _ => .put
  | none => .delete

/-- The object with what was answered about a subsystem. -/
def accept (object : AwsCluster) : (subsystem : Subsystem) → subsystem.Answer → AwsCluster
  | .network, (answer : NetworkResponse) => withNetwork object answer
  | .securityGroups, (answer : SecurityGroupsResponse) =>
    withSecurityGroups object answer.securityGroups
  | .bastion, (answer : BastionResponse) => withBastion object answer.machine
  | .loadBalancer, (answer : LoadBalancerResponse) => withLoadBalancer object answer.balancer

/-- The object without a subsystem. -/
def remove (object : AwsCluster) : Subsystem → AwsCluster
  | .network => object
  | .securityGroups => withSecurityGroups object {}
  | .bastion => ifObserved (withBastion · none) object
  | .loadBalancer => ifObserved (withLoadBalancer · {}) object

/-- Whether a response tells that a resource is gone. -/
def gone (path : String) (response : Response) : Except ServiceError Unit :=
  if response.isSuccess || response.isNotFound then .ok ()
  else .error (Http.Client.refusal .delete path response)

/-- The object that a response leaves to what was wanted. -/
def settle (path : String) (object : AwsCluster) (subsystem : Subsystem) :
    Option Json → Response → Except ServiceError AwsCluster
  | some _, response =>
    (Http.Client.content subsystem.Answer .put path response).map (accept object subsystem)
  | none, response => (gone path response).map fun _ => remove object subsystem

theorem writeBack_andThen {α : Type} (write : α → AwsCluster)
    (read : Response → Except ServiceError α) (exchange : Exchange τ Response) :
    writeBack write (Http.Client.andThen read exchange)
      = Http.Client.andThen (fun response => (read response).map write) exchange := by
  rcases exchange with ⟨e | response, state⟩
  · rfl
  · simp only [Http.Client.andThen]
    cases read response <;> rfl

/-- A call is one exchange about what it wants, and its answer is written into the object. -/
theorem call_eq (gateway : Gateway τ) (call : ServiceCall) (context : ServiceContext)
    (object : AwsCluster) (state : τ) :
    gateway.call call context object state =
      let path := context.subsystemPath call.subsystem
      let wanted := wanted? object call
      Http.Client.andThen (settle path object call.subsystem wanted)
        (gateway.client.exchange gateway.transport (method wanted) path wanted state) := by
  have hput : ∀ (subsystem : Subsystem) (document : Json),
      writeBack (accept object subsystem)
          (gateway.put subsystem.Answer context subsystem document state)
        = Http.Client.andThen
          (settle (context.subsystemPath subsystem) object subsystem (some document))
          (gateway.client.exchange gateway.transport .put (context.subsystemPath subsystem)
            (some document) state) := by
    intro subsystem document
    rw [put, Http.Client.put, writeBack_andThen]
    rfl
  have hdelete : ∀ subsystem : Subsystem,
      writeBack (fun _ => remove object subsystem) (gateway.delete context subsystem state)
        = Http.Client.andThen (settle (context.subsystemPath subsystem) object subsystem none)
          (gateway.client.exchange gateway.transport .delete (context.subsystemPath subsystem)
            none state) := by
    intro subsystem
    rw [Gateway.delete, Http.Client.delete, writeBack_andThen]
    rfl
  obtain ⟨action, subsystem⟩ := call
  cases action with
  | reconcile =>
    cases subsystem with
    | network =>
      simp only [Gateway.call, reconcileNetwork, wanted?, method]
      exact hput .network _
    | securityGroups =>
      simp only [Gateway.call, reconcileSecurityGroups, wanted?, method]
      exact hput .securityGroups _
    | bastion =>
      simp only [Gateway.call, reconcileBastion, wanted?]
      split
      · exact hput .bastion _
      · exact hdelete .bastion
    | loadBalancer =>
      simp only [Gateway.call, reconcileLoadBalancer, wanted?, method]
      exact hput .loadBalancer _
  | delete =>
    simp only [wanted?, method]
    rw [← hdelete]
    cases subsystem <;> rfl

/-! ### What is said -/

/-- The gateway, with a record of the traffic. -/
def recorded (gateway : Gateway τ) : Gateway (τ × List Traffic) :=
  { client := gateway.client, transport := gateway.transport.recorded }

/-- An exchange about what is wanted of a subsystem. -/
def Exchanges (client : Http.Client) (context : ServiceContext) (subsystem : Subsystem)
    (wanted : Option Json) : List Traffic → Except ServiceError Response → Prop :=
  client.Exchanges (method wanted) (context.subsystemPath subsystem) wanted

/-- A call makes one exchange about what it wants, and a record of it makes no difference. -/
theorem exchanges_call (gateway : Gateway τ) (call : ServiceCall) (context : ServiceContext)
    (object : AwsCluster) (state : τ) (log : List Traffic) : ∃ traffic result,
      Exchanges gateway.client context call.subsystem (wanted? object call) traffic result ∧
      (gateway.call call context object state).1 = result.bind
        (settle (context.subsystemPath call.subsystem) object call.subsystem
          (wanted? object call)) ∧
      gateway.recorded.call call context object (state, log)
        = ((gateway.call call context object state).1,
          (gateway.call call context object state).2, log ++ traffic) := by
  obtain ⟨traffic, hexchanges, hrecorded⟩ := gateway.client.exchanges_exchange gateway.transport
    (method (wanted? object call)) (context.subsystemPath call.subsystem) (wanted? object call)
    state log
  refine ⟨traffic, _, hexchanges, ?_, ?_⟩
  · rw [call_eq, Http.Client.andThen_eq]
  · simp only [call_eq, Http.Client.andThen_eq, recorded, hrecorded]

/-- What is said in a call, and the reply to it. -/
inductive Talks (client : Http.Client) (context : ServiceContext) (call : ServiceCall)
    (object : AwsCluster) : List Traffic → Reply → Prop
  /-- The reply is made of what the gateway said last. -/
  | heard {traffic : List Traffic} {result : Except ServiceError Response} (cancelled : Bool)
      (h : Exchanges client context call.subsystem (wanted? object call) traffic result) :
      Talks client context call object traffic
        { reply object (result.bind (settle (context.subsystemPath call.subsystem) object
            call.subsystem (wanted? object call))) with cancelled }
  /-- The call was interrupted. -/
  | interrupted {part whole : List Traffic} {result : Except ServiceError Response}
      (cancelled : Bool)
      (h : Exchanges client context call.subsystem (wanted? object call) whole result)
      (hpart : part <+: whole) :
      Talks client context call object part { object, ending := .interrupted, cancelled }

/-- A request is the one for what is wanted of a subsystem. -/
def Asks (client : Http.Client) (context : ServiceContext) (subsystem : Subsystem)
    (wanted : Option Json) (request : Http.Request) : Prop :=
  client.Asks (method wanted) (context.subsystemPath subsystem) wanted request

variable {client : Http.Client} {context : ServiceContext} {call : ServiceCall}
  {object : AwsCluster} {traffic : List Traffic} {answer : Reply}

/-- Nothing is asked but what is wanted. -/
theorem Talks.asks (h : Talks client context call object traffic answer) {request : Http.Request}
    (hmem : request ∈ Traffic.requests traffic) :
    Asks client context call.subsystem (wanted? object call) request := by
  cases h with
  | heard cancelled h => exact Http.Client.Exchanges.asks h hmem
  | interrupted cancelled h hpart =>
    exact Http.Client.Exchanges.asks h (Traffic.mem_requests_of_prefix hpart hmem)

/-- What is wanted is asked, unless the call is interrupted or the client cannot ask for it. -/
theorem Talks.requests_ne_nil (h : Talks client context call object traffic answer)
    (hending : answer.ending ≠ .interrupted)
    (hcan : client.CanAsk (context.subsystemPath call.subsystem)) :
    Traffic.requests traffic ≠ [] := by
  cases h with
  | interrupted => exact absurd rfl hending
  | heard cancelled h => exact Http.Client.Exchanges.requests_ne_nil h hcan

/-- A call that succeeds has heard a response, which leaves its object. -/
theorem Talks.settles (h : Talks client context call object traffic answer)
    (hending : answer.ending = .done) : ∃ request response,
      Tries request Http.Client.pauses traffic (.ok response) ∧
      settle (context.subsystemPath call.subsystem) object call.subsystem (wanted? object call)
        response = .ok answer.object := by
  cases h with
  | interrupted => cases hending
  | heard cancelled h =>
    cases h with
    | unsendable => cases hending
    | failed => cases hending
    | @answered request traffic response hsome htries =>
      refine ⟨request, response, htries, ?_⟩
      simp only [Except.bind] at hending ⊢
      generalize settle _ object call.subsystem (wanted? object call) response = left at hending
      cases left with
      | error e => cases hending
      | ok updated => rfl

end Gateway

/-! ### Clouds that relay calls -/

namespace Cloud.Relays

variable {cloud : Cloud σ} {gateway : Gateway τ} {said : σ → List Traffic}

end Cloud.Relays

end ClusterInfra
