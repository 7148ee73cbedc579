import ClusterInfra.Resource.AwsCluster
import ClusterInfra.Resource.Cluster
import ClusterInfra.Resource.Schema
/-!
The definitions by which an API server learns about the resources.
-/

namespace ClusterInfra

/-- A kind of resource: how it is named and what it looks like. -/
structure ResourceDefinition where
  group : String
  kind : String
  plural : String
  singular : String
  shortNames : List String
  spec : Schema
  status : Schema

namespace Schema

/-- A field with a description. -/
def field (name description : String) (presence : Presence) (schema : Schema) :
    FieldInfo × Schema :=
  (⟨name, some description, presence⟩, schema)

/-- A field that needs no description. -/
def plainField (name : String) (presence : Presence) (schema : Schema) : FieldInfo × Schema :=
  (⟨name, none, presence⟩, schema)

/-- A default that is written like the value itself. -/
def default {α : Type} [Codec α] (value : α) : Presence := .defaulted (Codec.encode value)

/-! ### The types of the resources -/

def vpc : Schema := .record
  [field "cidrBlock" "CIDR block of the VPC" .optional .text,
   field "id" "VPC id; empty when the VPC is managed and not created yet" .optional .text]

def subnet : Schema := .record
  [field "availabilityZone" "Availability zone of the subnet" (default "") .text,
   field "cidrBlock" "CIDR block of the subnet" (default "") .text,
   field "id" "Subnet id" .optional .text,
   field "isPublic" "Whether the subnet routes to an internet gateway" (default false) .boolean]

def network : Schema := .record
  [field "securityGroupOverrides"
    "Security group ids to use instead of managed ones, keyed by role\n(see [`SecurityGroupRole`])"
    .skipped (.dictOf .text),
   field "subnets" "Ordered subnets of the cluster" (default ([] : List Subnet)) (.listOf subnet),
   field "vpc" "VPC descriptor" (default ({} : Vpc)) vpc]

def bastion : Schema := .record
  [field "allowedCidrBlocks" "CIDR blocks allowed to reach the bastion over SSH" .skipped
    (.listOf .text),
   field "enabled" "Whether a bastion host should exist for the cluster" (default false) .boolean,
   field "instanceType" "Instance type of the bastion" .optional .text]

def endpoint : Schema := .record
  [field "host" "Hostname or IP of the endpoint" (default "") .text,
   field "port" "Port of the endpoint" (default (0 : Int32)) .int32]

def awsClusterSpec : Schema := .record
  [field "apiServerPort" "Port the API server listens on behind the load balancer" .optional .int32,
   field "bastion" "Bastion host configuration" (default ({} : Bastion)) bastion,
   field "controlPlaneEndpoint"
    ("Endpoint used to reach the control plane. Filled from the load\n"
      ++ "balancer DNS name when left empty.")
    (default ({} : Endpoint)) endpoint,
   field "network" "Network topology: VPC, subnets and security group overrides"
    (default ({} : Network)) network,
   field "region" "Cloud region the infrastructure lives in (e.g. \"us-east-1\")" .required .text,
   field "sshKeyName" "SSH key pair name for the bastion and machines" .optional .text]

def machine : Schema := .record
  [plainField "id" .required .text,
   plainField "privateIp" .optional .text,
   plainField "publicIp" .optional .text,
   plainField "state" .optional .text]

def condition : Schema := .record
  [plainField "lastTransitionTime" .optional .time,
   plainField "message" .optional .text,
   plainField "reason" .optional .text,
   field "severity" "How bad a `False` condition is. `None` is used for `True` conditions." .skipped
    (.oneOf (Severity.all.map (·.name))),
   plainField "status" .required (.oneOf (ConditionStatus.all.map (·.name))),
   plainField "type" .required .text]

def failureDomain : Schema := .record
  [plainField "attributes" .skipped (.dictOf .text),
   field "controlPlane" "Whether control plane machines may be placed in this domain"
    (default false) .boolean]

def loadBalancer : Schema := .record
  [field "availabilityZones" "Availability zones the load balancer spans" .skipped (.listOf .text),
   field "dnsName" "DNS name assigned by the cloud provider" .optional .text,
   field "name" "Name of the load balancer" .optional .text]

def securityGroup : Schema := .record
  [plainField "id" .required .text, plainField "name" (default "") .text]

def observedNetwork : Schema := .record
  [field "apiServerLoadBalancer" "API server load balancer" (default ({} : LoadBalancer))
    loadBalancer,
   field "securityGroups" "Security groups keyed by role" .skipped (.dictOf securityGroup)]

def awsClusterStatus : Schema := .record
  [field "bastion" "Bastion instance, when one exists" .optional machine,
   field "conditions" "Per-subsystem conditions" .skipped (.listOf condition),
   field "failureDomains" "Failure domains (availability zones) usable by the control plane"
    .skipped (.dictOf failureDomain),
   field "network" "Observed network state" (default ({} : ObservedNetwork)) observedNetwork,
   field "ready" "Set once the infrastructure is provisioned and the API server\nendpoint resolves"
    (default false) .boolean]

def objectReference : Schema := .record
  [field "apiVersion" "`group/version` of the referenced resource" (default "") .text,
   field "kind" "Kind of the referenced resource" (default "") .text,
   field "name" "Name of the referenced resource" .required .text,
   field "namespace" "Namespace of the referenced resource (defaults to the referrer's namespace)"
    .optional .text]

def clusterSpec : Schema := .record
  [field "infrastructureRef" "Reference to the provider-specific infrastructure resource" .optional
    objectReference,
   field "paused" "Pauses reconciliation of the cluster and everything it owns" (default false)
    .boolean]

def clusterStatus : Schema := .record
  [field "infrastructureReady" "Whether the infrastructure resource reported ready" (default false)
    .boolean,
   field "phase" "Lifecycle phase of the cluster" .optional .text]

end Schema

namespace ResourceDefinition

/-- The definition of `AWSCluster`. -/
def awsCluster : ResourceDefinition :=
  { group := infrastructureGroup
    kind := "AWSCluster"
    plural := "awsclusters"
    singular := "awscluster"
    shortNames := ["awsc"]
    spec := .awsClusterSpec
    status := .awsClusterStatus }

/-- The definition of `Cluster`. -/
def cluster : ResourceDefinition :=
  { group := clusterGroup
    kind := "Cluster"
    plural := "clusters"
    singular := "cluster"
    shortNames := []
    spec := .clusterSpec
    status := .clusterStatus }

/-- Both definitions. -/
def all : List ResourceDefinition := [awsCluster, cluster]

/-- The definition of a kind. -/
def ofKind? (kind : String) : Option ResourceDefinition := all.find? (·.kind = kind)

/-- The schema of whole objects. -/
def schema (definition : ResourceDefinition) : Json :=
  let fields := Schema.record
    [Schema.plainField "spec" .required definition.spec,
     Schema.plainField "status" .optional definition.status]
  fields.toJson
    [("description", .str ("Auto-generated derived type for " ++ definition.kind
      ++ "Spec via `CustomResource`")),
     ("title", .str definition.kind)]

/-- The names of a resource. -/
def names (definition : ResourceDefinition) : Json :=
  .obj [("categories", .arr []), ("kind", .str definition.kind),
    ("plural", .str definition.plural),
    ("shortNames", .arr (definition.shortNames.map .str)),
    ("singular", .str definition.singular)]

/-- The only version of a resource. -/
def version (definition : ResourceDefinition) : Json :=
  .obj [("additionalPrinterColumns", .arr []), ("name", .str apiVersionName),
    ("schema", .obj [("openAPIV3Schema", definition.schema)]),
    ("served", .bool true), ("storage", .bool true),
    ("subresources", .obj [("status", .obj [])])]

/-- The document of a definition. -/
def toJson (definition : ResourceDefinition) : Json :=
  .obj [("apiVersion", .str "apiextensions.k8s.io/v1"), ("kind", .str "CustomResourceDefinition"),
    ("metadata", .obj [("name", .str (definition.plural ++ "." ++ definition.group))]),
    ("spec", .obj [("group", .str definition.group), ("names", definition.names),
      ("scope", .str "Namespaced"), ("versions", .arr [definition.version])])]

end ResourceDefinition

end ClusterInfra
