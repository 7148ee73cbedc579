import ClusterInfra.Resource.Metadata
/-!
References between resources.

A reference names an API version and a kind as free text. The two are resolved once into a
`ResourceKind`: the group and the kind decide, and any version of a group means the same resource.
-/

namespace ClusterInfra

/-- The API group of logical clusters. -/
def clusterGroup : String := "cluster.x-k8s.io"

/-- The API group of infrastructure resources. -/
def infrastructureGroup : String := "infrastructure.cluster.x-k8s.io"

/-- The version of both groups that this controller reads and writes. -/
def apiVersionName : String := "v1beta1"

/-- The kinds of resources that the controller follows. -/
inductive ResourceKind
  | cluster
  | awsCluster
  | unknown
  deriving DecidableEq, Repr

/-- The group of an API version `group/version`; a version alone has the empty group. -/
def groupOf (apiVersion : String) : String :=
  let cs := apiVersion.toList
  if cs.contains '/' then String.ofList (cs.takeWhile (· ≠ '/')) else ""

/-- Resolves an API version and a kind. -/
def ResourceKind.ofType (apiVersion kind : String) : ResourceKind :=
  let group := groupOf apiVersion
  if group = clusterGroup ∧ kind = "Cluster" then .cluster
  else if group = infrastructureGroup ∧ kind = "AWSCluster" then .awsCluster
  else .unknown

/-- A reference to a resource; without a namespace, one in the namespace of the referrer. -/
structure ObjectReference where
  apiVersion : String
  kind : String
  name : String
  ns : Option String
  deriving DecidableEq, Inhabited

namespace ObjectReference

/-- The reference to an `AWSCluster` in the namespace of the referrer. -/
def awsCluster (name : String) : ObjectReference :=
  ⟨infrastructureGroup ++ "/" ++ apiVersionName, "AWSCluster", name, none⟩

/-- The kind of the resource that is referred to. -/
def resourceKind (reference : ObjectReference) : ResourceKind :=
  .ofType reference.apiVersion reference.kind

end ObjectReference

open Record in
instance : Codec ObjectReference where
  encode reference := .obj <|
    member "apiVersion" reference.apiVersion
    ++ member "kind" reference.kind
    ++ member "name" reference.name
    ++ memberIfSome "namespace" reference.ns
  decode? document := do
    let fields ← fields? ["apiVersion", "kind", "name", "namespace"] 3 document
    return {
      apiVersion := ← defaulted fields "apiVersion" ""
      kind := ← defaulted fields "kind" ""
      name := ← required fields "name"
      ns := ← optional fields "namespace" }

/-- The kind of an owner. -/
def OwnerReference.resourceKind (owner : OwnerReference) : ResourceKind :=
  .ofType owner.apiVersion owner.kind

/-- The name of the `Cluster` that owns an object: the first owner of that kind. -/
def Metadata.ownerCluster? (metadata : Metadata) : Option String :=
  ((metadata.ownerReferences.getD []).find? (·.resourceKind = .cluster)).map (·.name)

end ClusterInfra
