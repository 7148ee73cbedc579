import ClusterInfra.Resource.Annotation
import ClusterInfra.Resource.Reference
/-!
The `Cluster` resource: the logical cluster that owns an `AWSCluster`. It is only read.
-/

namespace ClusterInfra

/-- What is wanted of a logical cluster. -/
structure ClusterSpec where
  paused : Bool := false
  infrastructureRef : Option ObjectReference := none
  deriving DecidableEq, Inhabited

/-- The observed state of a logical cluster. -/
structure ClusterStatus where
  infrastructureReady : Bool := false
  phase : Option String := none
  deriving DecidableEq, Inhabited

/-- A logical cluster. -/
structure Cluster where
  metadata : Metadata := {}
  spec : ClusterSpec := {}
  status : Option ClusterStatus := none
  deriving DecidableEq, Inhabited

section Forms

open Record

instance : Codec ClusterSpec where
  encode spec := .obj <|
    memberIfSome "infrastructureRef" spec.infrastructureRef
    ++ member "paused" spec.paused
  decode? document := do
    let fields ← fields? ["paused", "infrastructureRef"] 0 document
    return {
      paused := ← defaulted fields "paused" false
      infrastructureRef := ← optional fields "infrastructureRef" }

instance : Codec ClusterStatus where
  encode status := .obj <|
    member "infrastructureReady" status.infrastructureReady
    ++ memberIfSome "phase" status.phase
  decode? document := do
    let fields ← fields? ["infrastructureReady", "phase"] 0 document
    return {
      infrastructureReady := ← defaulted fields "infrastructureReady" false
      phase := ← optional fields "phase" }

instance : Codec Cluster where
  encode cluster := .obj <|
    member "apiVersion" (clusterGroup ++ "/" ++ apiVersionName)
    ++ member "kind" "Cluster"
    ++ member "metadata" cluster.metadata
    ++ member "spec" cluster.spec
    ++ memberIfSome "status" cluster.status
  decode?
    | .obj members => do
      let fields ← ofMembers? ["metadata", "spec", "status"] members
      return {
        metadata := ← required fields "metadata"
        spec := ← required fields "spec"
        status := ← optional fields "status" }
    | _ => none

end Forms

namespace Cluster

/-- The key of a cluster. -/
def key (cluster : Cluster) : ObjectKey := cluster.metadata.key

/-- A cluster is paused by its spec or by the pause annotation. -/
def isPaused (cluster : Cluster) : Bool := cluster.spec.paused || cluster.metadata.isPaused

/-- Whether deletion of the cluster has been requested. -/
def isDeleting (cluster : Cluster) : Bool := cluster.metadata.isDeleting

end Cluster

end ClusterInfra
