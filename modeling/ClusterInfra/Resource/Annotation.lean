import ClusterInfra.Resource.Metadata
/-!
Annotations with a meaning of their own.
-/

namespace ClusterInfra.Annotation

/-- On a `Cluster` or an infrastructure resource: stops reconciliation. -/
def paused : String := "cluster.x-k8s.io/paused"

/-- On an infrastructure resource: something other than this controller owns its lifecycle. -/
def managedBy : String := "cluster.x-k8s.io/managed-by"

end ClusterInfra.Annotation

namespace ClusterInfra.Metadata

/-- Whether the pause annotation is there, with any value. -/
def isPaused (metadata : Metadata) : Bool := metadata.hasAnnotation Annotation.paused

/-- Whether an object is managed by something other than this controller. -/
def isExternallyManaged (metadata : Metadata) : Bool :=
  metadata.hasAnnotation Annotation.managedBy

end ClusterInfra.Metadata
