import ClusterInfra.Resource.AwsCluster
/-!
The documents that are exchanged with the infrastructure gateway.

A request is what the spec and the status of an object say about a subsystem. A response is what the
gateway made of it.
-/

namespace ClusterInfra.Gateway

open Record

/-- The wanted network. -/
structure NetworkRequest where
  vpc : Vpc
  subnets : List Subnet
  deriving DecidableEq

/-- The network that is there; the gateway fills in the ids of what it created. -/
structure NetworkResponse where
  vpc : Vpc
  subnets : List Subnet := []
  deriving DecidableEq

/-- The wanted security groups. -/
structure SecurityGroupsRequest where
  vpcId : Option String
  overrides : Dict String
  deriving DecidableEq

/-- The security groups that are there, by role. -/
structure SecurityGroupsResponse where
  securityGroups : Dict SecurityGroup := {}
  deriving DecidableEq

/-- The wanted bastion; it is placed in a public subnet. -/
structure BastionRequest where
  instanceType : Option String
  sshKeyName : Option String
  allowedCidrBlocks : List String
  subnetId : Option String
  deriving DecidableEq

/-- The bastion that is there, if there is one. -/
structure BastionResponse where
  machine : Option CloudInstance := none
  deriving DecidableEq

/-- The wanted load balancer of the API server. -/
structure LoadBalancerRequest where
  subnetIds : List String
  securityGroupIds : List String
  port : Int32
  deriving DecidableEq

/-- The load balancer that is there. -/
structure LoadBalancerResponse where
  balancer : LoadBalancer
  deriving DecidableEq

/-! ### Requests from objects -/

/-- The network that an object asks for. -/
def NetworkRequest.of (object : AwsCluster) : NetworkRequest :=
  { vpc := object.spec.network.vpc, subnets := object.spec.network.subnets }

/-- The security groups that an object asks for. -/
def SecurityGroupsRequest.of (object : AwsCluster) : SecurityGroupsRequest :=
  { vpcId := object.spec.network.vpc.id, overrides := object.spec.network.securityGroupOverrides }

/-- The bastion that an object asks for, in its first public subnet. -/
def BastionRequest.of (object : AwsCluster) : BastionRequest :=
  { instanceType := object.spec.bastion.instanceType
    sshKeyName := object.spec.sshKeyName
    allowedCidrBlocks := object.spec.bastion.allowedCidrBlocks
    subnetId := (object.spec.network.subnets.find? (·.isPublic)).bind (·.id) }

/-- The load balancer that an object asks for, in all its subnets, behind the security group that
was made for it. -/
def LoadBalancerRequest.of (object : AwsCluster) : LoadBalancerRequest :=
  let group := object.status.bind fun status =>
    status.network.securityGroups.find? SecurityGroupRole.apiServerLoadBalancer.key
  { subnetIds := object.spec.network.subnets.filterMap (·.id)
    securityGroupIds := group.toList.map (·.id)
    port := object.apiServerPort }

/-! ### JSON forms -/

/-- The document of a request. -/
def NetworkRequest.toJson (request : NetworkRequest) : Json :=
  .obj (member "subnets" request.subnets ++ member "vpc" request.vpc)

/-- The document of a request. -/
def SecurityGroupsRequest.toJson (request : SecurityGroupsRequest) : Json :=
  .obj (member "overrides" request.overrides ++ memberOrNull "vpcId" request.vpcId)

/-- The document of a request. -/
def BastionRequest.toJson (request : BastionRequest) : Json :=
  .obj (member "allowedCidrBlocks" request.allowedCidrBlocks
    ++ memberOrNull "instanceType" request.instanceType
    ++ memberOrNull "sshKeyName" request.sshKeyName
    ++ memberOrNull "subnetId" request.subnetId)

/-- The document of a request. -/
def LoadBalancerRequest.toJson (request : LoadBalancerRequest) : Json :=
  .obj (member "port" request.port
    ++ member "securityGroupIds" request.securityGroupIds
    ++ member "subnetIds" request.subnetIds)

instance : Codec NetworkResponse where
  encode response := .obj (member "subnets" response.subnets ++ member "vpc" response.vpc)
  decode? document := do
    let fields ← fields? ["vpc", "subnets"] 1 document
    return { vpc := ← required fields "vpc", subnets := ← defaulted fields "subnets" [] }

instance : Codec SecurityGroupsResponse where
  encode response := .obj (member "securityGroups" response.securityGroups)
  decode? document := do
    let fields ← fields? ["securityGroups"] 0 document
    return { securityGroups := ← defaulted fields "securityGroups" {} }

instance : Codec BastionResponse where
  encode response := .obj (memberOrNull "instance" response.machine)
  decode? document := do
    let fields ← fields? ["instance"] 1 document
    return { machine := ← optional fields "instance" }

instance : Codec LoadBalancerResponse where
  encode response := .obj (member "availabilityZones" response.balancer.availabilityZones
    ++ memberOrNull "dnsName" response.balancer.dnsName
    ++ memberOrNull "name" response.balancer.name)
  decode? document := do
    let fields ← fields? ["name", "dnsName", "availabilityZones"] 1 document
    let balancer : LoadBalancer := {
      name := ← optional fields "name"
      dnsName := ← optional fields "dnsName"
      availabilityZones := ← defaulted fields "availabilityZones" [] }
    return { balancer }

end ClusterInfra.Gateway
