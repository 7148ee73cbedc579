import ClusterInfra.Resource.AwsCluster
import ClusterInfra.Resource.Cluster
/-!
From events of a `Cluster` to the `AWSCluster` that has to be reconciled.

An `AWSCluster` is only watched for its own changes, so when the pause of its owner is lifted, the
event of the owner has to be turned into a request for it.
-/

namespace ClusterInfra.Cluster

/-- The key of the `AWSCluster` that a cluster refers to, if it refers to one; a reference without
a namespace stays in that of the cluster. -/
def infrastructureKey? (cluster : Cluster) : Option ObjectKey := do
  let reference ← cluster.spec.infrastructureRef
  guard (reference.resourceKind = .awsCluster)
  let ns := (reference.ns.filter (!·.isEmpty)).getD (cluster.metadata.ns.getD "")
  return ⟨ns, reference.name⟩

/-- The requests that an event of a cluster causes: at most one. A cluster that is being deleted or
paused causes none, nor does an object that is not found or is managed by something else. -/
def requests (lookup : ObjectKey → Option AwsCluster) (cluster : Cluster) : List ObjectKey :=
  if cluster.isDeleting || cluster.isPaused then []
  else
    match cluster.infrastructureKey? with
    | none => []
    | some key =>
      match lookup key with
      | none => []
      | some object => if object.metadata.isExternallyManaged then [] else [key]

end ClusterInfra.Cluster
