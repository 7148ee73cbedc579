import ClusterInfra.Gateway.Payload
import ClusterInfra.Http.Client
import ClusterInfra.Service.Cloud
/-!
The subsystem services of the infrastructure gateway.

Every subsystem of a cluster has an address of its own, where `PUT` brings it to what is wanted and
`DELETE` removes it. What the gateway answers is written back into the object; an operation that
fails leaves the object alone.
-/

namespace ClusterInfra

/-- The address of a subsystem of a cluster. -/
def ServiceContext.subsystemPath (context : ServiceContext) (subsystem : Subsystem) : String :=
  "/v1/regions/" ++ context.region ++ "/namespaces/" ++ context.ns ++ "/clusters/"
    ++ context.clusterName ++ "/" ++ subsystem.label

/-- A client of the gateway with the transport that it uses. -/
structure Gateway (τ : Type) where
  client : Http.Client
  transport : Http.Transport τ

namespace Gateway

open Http (Exchange)

variable {τ : Type}

/-- Brings a subsystem to what is wanted. -/
def put (α : Type) [Codec α] (gateway : Gateway τ) (context : ServiceContext)
    (subsystem : Subsystem) (body : Json) (state : τ) : Exchange τ α :=
  gateway.client.put α gateway.transport (context.subsystemPath subsystem) body state

/-- Removes a subsystem. -/
def delete (gateway : Gateway τ) (context : ServiceContext) (subsystem : Subsystem) (state : τ) :
    Exchange τ Unit :=
  gateway.client.delete gateway.transport (context.subsystemPath subsystem) state

/-- Writes what an exchange brought into an object. -/
def writeBack {α : Type} (write : α → AwsCluster) : Exchange τ α → Exchange τ AwsCluster
  | (.error e, state) => (.error e, state)
  | (.ok value, state) => (.ok (write value), state)

/-! ### What is written back -/

/-- The object with the network that is there; where no subnets are answered, those wanted stay. -/
def withNetwork (object : AwsCluster) (response : NetworkResponse) : AwsCluster :=
  let network := { object.spec.network with
    vpc := response.vpc
    subnets := if response.subnets.isEmpty then object.spec.network.subnets else response.subnets }
  { object with spec := { object.spec with network } }

/-- The object with the security groups that are there. -/
def withSecurityGroups (object : AwsCluster) (securityGroups : Dict SecurityGroup) : AwsCluster :=
  object.modifyStatus fun status =>
    { status with network := { status.network with securityGroups } }

/-- The object with the bastion that is there. -/
def withBastion (object : AwsCluster) (bastion : Option CloudInstance) : AwsCluster :=
  object.modifyStatus fun status => { status with bastion }

/-- The object with the load balancer that is there. -/
def withLoadBalancer (object : AwsCluster) (balancer : LoadBalancer) : AwsCluster :=
  object.modifyStatus fun status =>
    { status with network := { status.network with apiServerLoadBalancer := balancer } }

/-- A change of the status of an object that has one. -/
def ifObserved (change : AwsCluster → AwsCluster) (object : AwsCluster) : AwsCluster :=
  if object.status.isSome then change object else object

/-! ### The operations -/

/-- Creates or updates the network. -/
def reconcileNetwork (gateway : Gateway τ) (context : ServiceContext) (object : AwsCluster)
    (state : τ) : Exchange τ AwsCluster :=
  writeBack (withNetwork object)
    (gateway.put NetworkResponse context .network (NetworkRequest.of object).toJson state)

/-- Deletes the network. -/
def deleteNetwork (gateway : Gateway τ) (context : ServiceContext) (object : AwsCluster)
    (state : τ) : Exchange τ AwsCluster :=
  writeBack (fun _ => object) (gateway.delete context .network state)

/-- Creates or updates the security groups. -/
def reconcileSecurityGroups (gateway : Gateway τ) (context : ServiceContext) (object : AwsCluster)
    (state : τ) : Exchange τ AwsCluster :=
  writeBack (fun response => withSecurityGroups object response.securityGroups)
    (gateway.put SecurityGroupsResponse context .securityGroups
      (SecurityGroupsRequest.of object).toJson state)

/-- Deletes the security groups. -/
def deleteSecurityGroups (gateway : Gateway τ) (context : ServiceContext) (object : AwsCluster)
    (state : τ) : Exchange τ AwsCluster :=
  writeBack (fun _ => withSecurityGroups object {}) (gateway.delete context .securityGroups state)

/-- Deletes the bastion. -/
def deleteBastion (gateway : Gateway τ) (context : ServiceContext) (object : AwsCluster)
    (state : τ) : Exchange τ AwsCluster :=
  writeBack (fun _ => ifObserved (withBastion · none) object)
    (gateway.delete context .bastion state)

/-- Creates or updates the bastion; one that is not wanted is deleted. -/
def reconcileBastion (gateway : Gateway τ) (context : ServiceContext) (object : AwsCluster)
    (state : τ) : Exchange τ AwsCluster :=
  if object.spec.bastion.enabled then
    writeBack (fun response => withBastion object response.machine)
      (gateway.put BastionResponse context .bastion (BastionRequest.of object).toJson state)
  else gateway.deleteBastion context object state

/-- Creates or updates the load balancer. -/
def reconcileLoadBalancer (gateway : Gateway τ) (context : ServiceContext) (object : AwsCluster)
    (state : τ) : Exchange τ AwsCluster :=
  writeBack (fun response => withLoadBalancer object response.balancer)
    (gateway.put LoadBalancerResponse context .loadBalancer (LoadBalancerRequest.of object).toJson
      state)

/-- Deletes the load balancer. -/
def deleteLoadBalancer (gateway : Gateway τ) (context : ServiceContext) (object : AwsCluster)
    (state : τ) : Exchange τ AwsCluster :=
  writeBack (fun _ => ifObserved (withLoadBalancer · {}) object)
    (gateway.delete context .loadBalancer state)

/-- Makes a call. -/
def call (gateway : Gateway τ) : ServiceCall → ServiceContext → AwsCluster → τ →
    Exchange τ AwsCluster
  | ⟨.reconcile, .network⟩ => gateway.reconcileNetwork
  | ⟨.reconcile, .securityGroups⟩ => gateway.reconcileSecurityGroups
  | ⟨.reconcile, .bastion⟩ => gateway.reconcileBastion
  | ⟨.reconcile, .loadBalancer⟩ => gateway.reconcileLoadBalancer
  | ⟨.delete, .network⟩ => gateway.deleteNetwork
  | ⟨.delete, .securityGroups⟩ => gateway.deleteSecurityGroups
  | ⟨.delete, .bastion⟩ => gateway.deleteBastion
  | ⟨.delete, .loadBalancer⟩ => gateway.deleteLoadBalancer

/-- Checks that the gateway can be reached and accepts the token. -/
def validate (gateway : Gateway τ) (state : τ) : Exchange τ Unit :=
  let (status, state) := gateway.client.get Json gateway.transport "/v1/status" state
  (status.map fun _ => (), state)

/-- The answer of a call that failed or succeeded. -/
def reply (object : AwsCluster) : Except ServiceError AwsCluster → Reply
  | .ok object => { object, ending := .done }
  | .error error => { object, ending := .failed error }

/-- The cloud behind the gateway, beside a resolver of names with a state of its own. -/
def cloud {ρ : Type} (gateway : Gateway τ) (resolve : String → ρ → Lookup × ρ) : Cloud (τ × ρ) where
  call call context object state :=
    let (result, transport) := gateway.call call context object state.1
    (reply object result, transport, state.2)
  lookUp host state :=
    let (answer, resolver) := resolve host state.2
    (answer, state.1, resolver)

end Gateway

end ClusterInfra
