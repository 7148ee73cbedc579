import ClusterInfra.Json.Diff
import ClusterInfra.Resource.AwsCluster
/-!
The patches that persist a changed `AWSCluster`.

What changed between two states of an object is written in two steps: the status, and then the
finalizer of this controller together with the spec. Each patch touches only what differs, and
begins with a test of the resource version that the object is expected to have, so that it fails as
a whole when someone else wrote in between. There is no patch where nothing differs.
-/

namespace ClusterInfra.Changes

open Json (Operation Patch)

/-- The test that the stored object still has the expected version. -/
def guard (version : Option String) : Patch :=
  version.toList.map fun v => .test ["metadata", "resourceVersion"] (.str v)

/-- The document of a status; an absent one is `null`. -/
def statusDocument (status : Option AwsClusterStatus) : Json :=
  status.elim .null Codec.encode

/-- The operations that take one status to another. -/
def statusOperations (before after : Option AwsClusterStatus) : Patch :=
  match before, after with
  | none, some status => [.add ["status"] (Codec.encode status)]
  | _, _ =>
    Json.diff (.obj [("status", statusDocument before)]) (.obj [("status", statusDocument after)])

/-- The patch of the status, guarded by a version. -/
def statusPatch? (before after : AwsCluster) (version : Option String) : Option Patch :=
  if before.status = after.status then none
  else some (guard version ++ statusOperations before.status after.status)

/-- The index of the first occurrence of the finalizer of this controller. -/
def finalizerIndex (finalizers : List String) : Nat :=
  finalizers.idxOf clusterFinalizer

/-- The operations that add or remove the finalizer of this controller; finalizers of others stay
untouched, and a removal makes sure that it hits its own. -/
def finalizerOperations (before after : AwsCluster) : Patch :=
  match before.hasFinalizer, after.hasFinalizer with
  | false, true =>
    match before.metadata.finalizers with
    | some _ => [.add ["metadata", "finalizers", "-"] (.str clusterFinalizer)]
    | none => [.add ["metadata", "finalizers"] (.arr [.str clusterFinalizer])]
  | true, false =>
    let index := toString (finalizerIndex (before.metadata.finalizers.getD []))
    [.test ["metadata", "finalizers", index] (.str clusterFinalizer),
     .remove ["metadata", "finalizers", index]]
  | _, _ => []

/-- The operations that take one spec to another. -/
def specOperations (before after : AwsClusterSpec) : Patch :=
  if before = after then []
  else Json.diff (.obj [("spec", Codec.encode before)]) (.obj [("spec", Codec.encode after)])

/-- The patch of the finalizer and the spec, guarded by a version. -/
def objectPatch? (before after : AwsCluster) (version : Option String) : Option Patch :=
  let operations := finalizerOperations before after ++ specOperations before.spec after.spec
  if operations.isEmpty then none else some (guard version ++ operations)

end ClusterInfra.Changes
