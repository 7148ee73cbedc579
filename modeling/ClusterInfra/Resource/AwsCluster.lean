import ClusterInfra.Resource.Annotation
import ClusterInfra.Resource.Condition
import ClusterInfra.Resource.Reference
/-!
The `AWSCluster` resource: the infrastructure of a cluster as it is wanted (`spec`) and as it was
observed (`status`).
-/

namespace ClusterInfra

/-- The finalizer that guards the cloud resources of an `AWSCluster`. -/
def clusterFinalizer : String := "awscluster.infrastructure.cluster.x-k8s.io"

/-- The port of an API server that names none. -/
def defaultApiServerPort : Int32 := 6443

/-! ### What is wanted -/

/-- A virtual network; without an id it does not exist yet. -/
structure Vpc where
  id : Option String := none
  cidrBlock : Option String := none
  deriving DecidableEq, Inhabited

/-- A subnet in an availability zone; a public one routes to the internet. -/
structure Subnet where
  id : Option String := none
  availabilityZone : String := ""
  cidrBlock : String := ""
  isPublic : Bool := false
  deriving DecidableEq, Inhabited

/-- The network of a cluster, with security groups to use in place of managed ones, by role. -/
structure Network where
  vpc : Vpc := {}
  subnets : List Subnet := []
  securityGroupOverrides : Dict String := {}
  deriving DecidableEq, Inhabited

/-- The bastion host of a cluster. -/
structure Bastion where
  enabled : Bool := false
  instanceType : Option String := none
  allowedCidrBlocks : List String := []
  deriving DecidableEq, Inhabited

/-- Where the control plane is reached. -/
structure Endpoint where
  host : String := ""
  port : Int32 := 0
  deriving DecidableEq, Inhabited

/-- An endpoint is unset until it has both a host and a port. -/
def Endpoint.isZero (endpoint : Endpoint) : Bool := endpoint.host.isEmpty || endpoint.port = 0

/-- The infrastructure that is wanted. -/
structure AwsClusterSpec where
  region : String
  network : Network := {}
  bastion : Bastion := {}
  controlPlaneEndpoint : Endpoint := {}
  apiServerPort : Option Int32 := none
  sshKeyName : Option String := none
  deriving DecidableEq, Inhabited

/-! ### What was observed -/

/-- The roles that managed security groups play. -/
inductive SecurityGroupRole
  | bastion
  | node
  | controlPlane
  | apiServerLoadBalancer
  | loadBalancer
  deriving DecidableEq, Repr

namespace SecurityGroupRole

/-- All roles. -/
def all : List SecurityGroupRole :=
  [bastion, node, controlPlane, apiServerLoadBalancer, loadBalancer]

/-- The name of a role. -/
def name : SecurityGroupRole → String
  | .bastion => "Bastion"
  | .node => "Node"
  | .controlPlane => "ControlPlane"
  | .apiServerLoadBalancer => "ApiServerLoadBalancer"
  | .loadBalancer => "LoadBalancer"

/-- The key of a role in dictionaries of security groups. -/
def key : SecurityGroupRole → String
  | .bastion => "bastion"
  | .node => "node"
  | .controlPlane => "controlplane"
  | .apiServerLoadBalancer => "apiserver-lb"
  | .loadBalancer => "lb"

end SecurityGroupRole

/-- A security group. -/
structure SecurityGroup where
  id : String
  name : String := ""
  deriving DecidableEq, Inhabited

/-- A load balancer; its DNS name is assigned some time after its creation. -/
structure LoadBalancer where
  name : Option String := none
  dnsName : Option String := none
  availabilityZones : List String := []
  deriving DecidableEq, Inhabited

/-- The observed network: security groups by role, and the load balancer of the API server. -/
structure ObservedNetwork where
  securityGroups : Dict SecurityGroup := {}
  apiServerLoadBalancer : LoadBalancer := {}
  deriving DecidableEq, Inhabited

/-- A zone that machines may be placed in. -/
structure FailureDomain where
  controlPlane : Bool := false
  attributes : Dict String := {}
  deriving DecidableEq, Inhabited

/-- A running machine. -/
structure CloudInstance where
  id : String
  state : Option String := none
  publicIp : Option String := none
  privateIp : Option String := none
  deriving DecidableEq, Inhabited

/-- The infrastructure as it was observed. -/
structure AwsClusterStatus where
  ready : Bool := false
  network : ObservedNetwork := {}
  failureDomains : Dict FailureDomain := {}
  bastion : Option CloudInstance := none
  conditions : Conditions := []
  deriving DecidableEq, Inhabited

/-- The infrastructure of a cluster. -/
structure AwsCluster where
  metadata : Metadata := {}
  spec : AwsClusterSpec
  status : Option AwsClusterStatus := none
  deriving DecidableEq, Inhabited

/-! ### JSON forms -/

section Forms

open Record

instance : Codec Vpc where
  encode vpc := .obj <|
    memberIfSome "cidrBlock" vpc.cidrBlock
    ++ memberIfSome "id" vpc.id
  decode? document := do
    let fields ← fields? ["id", "cidrBlock"] 0 document
    return { id := ← optional fields "id", cidrBlock := ← optional fields "cidrBlock" }

instance : Codec Subnet where
  encode subnet := .obj <|
    member "availabilityZone" subnet.availabilityZone
    ++ member "cidrBlock" subnet.cidrBlock
    ++ memberIfSome "id" subnet.id
    ++ member "isPublic" subnet.isPublic
  decode? document := do
    let fields ← fields? ["id", "availabilityZone", "cidrBlock", "isPublic"] 0 document
    return {
      id := ← optional fields "id"
      availabilityZone := ← defaulted fields "availabilityZone" ""
      cidrBlock := ← defaulted fields "cidrBlock" ""
      isPublic := ← defaulted fields "isPublic" false }

instance : Codec Network where
  encode network := .obj <|
    memberUnless network.securityGroupOverrides.isEmpty
      "securityGroupOverrides" network.securityGroupOverrides
    ++ member "subnets" network.subnets
    ++ member "vpc" network.vpc
  decode? document := do
    let fields ← fields? ["vpc", "subnets", "securityGroupOverrides"] 0 document
    return {
      vpc := ← defaulted fields "vpc" {}
      subnets := ← defaulted fields "subnets" []
      securityGroupOverrides := ← defaulted fields "securityGroupOverrides" {} }

instance : Codec Bastion where
  encode bastion := .obj <|
    memberUnless bastion.allowedCidrBlocks.isEmpty "allowedCidrBlocks" bastion.allowedCidrBlocks
    ++ member "enabled" bastion.enabled
    ++ memberIfSome "instanceType" bastion.instanceType
  decode? document := do
    let fields ← fields? ["enabled", "instanceType", "allowedCidrBlocks"] 0 document
    return {
      enabled := ← defaulted fields "enabled" false
      instanceType := ← optional fields "instanceType"
      allowedCidrBlocks := ← defaulted fields "allowedCidrBlocks" [] }

instance : Codec Endpoint where
  encode endpoint := .obj <| member "host" endpoint.host ++ member "port" endpoint.port
  decode? document := do
    let fields ← fields? ["host", "port"] 0 document
    return { host := ← defaulted fields "host" "", port := ← defaulted fields "port" 0 }

instance : Codec AwsClusterSpec where
  encode spec := .obj <|
    memberIfSome "apiServerPort" spec.apiServerPort
    ++ member "bastion" spec.bastion
    ++ member "controlPlaneEndpoint" spec.controlPlaneEndpoint
    ++ member "network" spec.network
    ++ member "region" spec.region
    ++ memberIfSome "sshKeyName" spec.sshKeyName
  decode? document := do
    let fields ← fields?
      ["region", "network", "bastion", "controlPlaneEndpoint", "apiServerPort", "sshKeyName"] 1
      document
    return {
      region := ← required fields "region"
      network := ← defaulted fields "network" {}
      bastion := ← defaulted fields "bastion" {}
      controlPlaneEndpoint := ← defaulted fields "controlPlaneEndpoint" {}
      apiServerPort := ← optional fields "apiServerPort"
      sshKeyName := ← optional fields "sshKeyName" }

instance : Codec SecurityGroup where
  encode group := .obj <| member "id" group.id ++ member "name" group.name
  decode? document := do
    let fields ← fields? ["id", "name"] 1 document
    return { id := ← required fields "id", name := ← defaulted fields "name" "" }

instance : Codec LoadBalancer where
  encode balancer := .obj <|
    memberUnless balancer.availabilityZones.isEmpty "availabilityZones" balancer.availabilityZones
    ++ memberIfSome "dnsName" balancer.dnsName
    ++ memberIfSome "name" balancer.name
  decode? document := do
    let fields ← fields? ["name", "dnsName", "availabilityZones"] 0 document
    return {
      name := ← optional fields "name"
      dnsName := ← optional fields "dnsName"
      availabilityZones := ← defaulted fields "availabilityZones" [] }

instance : Codec ObservedNetwork where
  encode network := .obj <|
    member "apiServerLoadBalancer" network.apiServerLoadBalancer
    ++ memberUnless network.securityGroups.isEmpty "securityGroups" network.securityGroups
  decode? document := do
    let fields ← fields? ["securityGroups", "apiServerLoadBalancer"] 0 document
    return {
      securityGroups := ← defaulted fields "securityGroups" {}
      apiServerLoadBalancer := ← defaulted fields "apiServerLoadBalancer" {} }

instance : Codec FailureDomain where
  encode domain := .obj <|
    memberUnless domain.attributes.isEmpty "attributes" domain.attributes
    ++ member "controlPlane" domain.controlPlane
  decode? document := do
    let fields ← fields? ["controlPlane", "attributes"] 0 document
    return {
      controlPlane := ← defaulted fields "controlPlane" false
      attributes := ← defaulted fields "attributes" {} }

instance : Codec CloudInstance where
  encode machine := .obj <|
    member "id" machine.id
    ++ memberIfSome "privateIp" machine.privateIp
    ++ memberIfSome "publicIp" machine.publicIp
    ++ memberIfSome "state" machine.state
  decode? document := do
    let fields ← fields? ["id", "state", "publicIp", "privateIp"] 1 document
    return {
      id := ← required fields "id"
      state := ← optional fields "state"
      publicIp := ← optional fields "publicIp"
      privateIp := ← optional fields "privateIp" }

instance : Codec AwsClusterStatus where
  encode status := .obj <|
    memberIfSome "bastion" status.bastion
    ++ memberUnless status.conditions.isEmpty "conditions" status.conditions
    ++ memberUnless status.failureDomains.isEmpty "failureDomains" status.failureDomains
    ++ member "network" status.network
    ++ member "ready" status.ready
  decode? document := do
    let fields ← fields? ["ready", "network", "failureDomains", "bastion", "conditions"] 0 document
    return {
      ready := ← defaulted fields "ready" false
      network := ← defaulted fields "network" {}
      failureDomains := ← defaulted fields "failureDomains" {}
      bastion := ← optional fields "bastion"
      conditions := ← defaulted fields "conditions" [] }

instance : Codec AwsCluster where
  encode object := .obj <|
    member "apiVersion" (infrastructureGroup ++ "/" ++ apiVersionName)
    ++ member "kind" "AWSCluster"
    ++ member "metadata" object.metadata
    ++ member "spec" object.spec
    ++ memberIfSome "status" object.status
  decode?
    | .obj members => do
      let fields ← ofMembers? ["metadata", "spec", "status"] members
      return {
        metadata := ← required fields "metadata"
        spec := ← required fields "spec"
        status := ← optional fields "status" }
    | _ => none

end Forms

/-! ### Questions -/

namespace AwsCluster

/-- The key of an object. -/
def key (object : AwsCluster) : ObjectKey := object.metadata.key

/-- The DNS name of the load balancer of the API server; an empty one is not assigned yet. -/
def dnsName? (object : AwsCluster) : Option String :=
  (object.status.bind (·.network.apiServerLoadBalancer.dnsName)).filter (!·.isEmpty)

/-- The subnets that do not route to the internet. -/
def privateSubnets (object : AwsCluster) : List Subnet :=
  object.spec.network.subnets.filter (!·.isPublic)

/-- The recorded conditions; none without a status. -/
def conditions (object : AwsCluster) : Conditions :=
  (object.status.map (·.conditions)).getD []

/-- Whether the finalizer of this controller is there. -/
def hasFinalizer (object : AwsCluster) : Bool := object.metadata.hasFinalizer clusterFinalizer

/-- The port to publish for the control plane. -/
def apiServerPort (object : AwsCluster) : Int32 :=
  object.spec.apiServerPort.getD defaultApiServerPort

/-- The status, or the default one where there is none. -/
def statusOrDefault (object : AwsCluster) : AwsClusterStatus := object.status.getD {}

/-- Changes the status; where there is none, the default one. -/
def modifyStatus (object : AwsCluster) (change : AwsClusterStatus → AwsClusterStatus) :
    AwsCluster :=
  { object with status := some (change object.statusOrDefault) }

end AwsCluster

end ClusterInfra
