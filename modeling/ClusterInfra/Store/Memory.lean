import ClusterInfra.Resource.Cluster
import ClusterInfra.Service.Error
import ClusterInfra.Store.Changes
import ClusterInfra.Store.Table
import ClusterInfra.Text.Numeral
/-!
An object store in memory.

The store holds `AWSCluster` and `Cluster` objects by key and logs the patches that it applied. A
write is a JSON patch that applies as a whole or not at all, and gives the object the next resource
version. An object whose deletion was requested goes as soon as a write leaves it without
finalizers.
-/

namespace ClusterInfra

/-- Stored objects, and the patches applied so far. -/
structure Store where
  awsClusters : Table ObjectKey AwsCluster := .empty
  clusters : Table ObjectKey Cluster := .empty
  log : List Json.Patch := []
  deriving Inhabited

/-- Why a patch does not take an object to another one. -/
inductive PatchError
  | rejected (failure : Json.Patch.Failure)
  /-- The patched document is no `AWSCluster`. -/
  | illTyped
  deriving DecidableEq

/-- The wording of a patch error. -/
def PatchError.message : PatchError → String
  | .rejected failure => failure.message
  | .illTyped => "the patched document is not an AWSCluster"

/-- The number of a version: of decimal digits with an optional plus sign; zero for other texts. -/
def versionNumber (version : Option String) : UInt64 :=
  match version.map (Text.Numeral.read UInt64.size) with
  | some (.ok n) => UInt64.ofNat n
  | _ => 0

/-- The version after a version. Versions are counted in words: after the greatest one the count
starts over at zero, where a checked addition would fail. -/
def nextVersion (version : Option String) : String :=
  toString (versionNumber version + 1).toNat

namespace AwsCluster

/-- The object with another resource version. -/
def withVersion (object : AwsCluster) (version : Option String) : AwsCluster :=
  { object with metadata := { object.metadata with resourceVersion := version } }

/-- Applies a patch to the document of an object and reads the result back; the version moves on. -/
def patched (object : AwsCluster) (patch : Json.Patch) : Except PatchError AwsCluster :=
  match patch.apply (Codec.encode object) with
  | .error failure => .error (.rejected failure)
  | .ok document =>
    match (Codec.decode? document : Option AwsCluster) with
    | none => .error .illTyped
    | some updated =>
      .ok (updated.withVersion (some (nextVersion updated.metadata.resourceVersion)))

/-- Whether an object is to go: its deletion was requested and no finalizer is left. -/
def isFinished (object : AwsCluster) : Bool :=
  object.metadata.isDeleting && (object.metadata.finalizers.getD []).isEmpty

end AwsCluster

namespace Store

/-- Stores an `AWSCluster` under its key; without a version it gets the first one. -/
def insertAwsCluster (store : Store) (object : AwsCluster) : Store :=
  let object := object.withVersion (some (object.metadata.resourceVersion.getD "1"))
  { store with awsClusters := store.awsClusters.insert object.key object }

/-- Stores a `Cluster` under its key. -/
def insertCluster (store : Store) (cluster : Cluster) : Store :=
  { store with clusters := store.clusters.insert cluster.key cluster }

/-- Applies a patch to the object at a key, if there is a patch, and logs it. Returns the version
after it: the new one, or the given one where there is nothing to write. -/
def write (store : Store) (key : ObjectKey) (object : AwsCluster) (version : Option String) :
    Option Json.Patch → Except PatchError (Store × AwsCluster × Option String)
  | none => .ok (store, object, version)
  | some patch => do
    let updated ← object.patched patch
    let store := { store with
      awsClusters := store.awsClusters.insert key updated, log := store.log ++ [patch] }
    return (store, updated, updated.metadata.resourceVersion)

/-- Removes the object at a key if it is to go. -/
def collect (store : Store) (key : ObjectKey) (object : AwsCluster) : Store :=
  if object.isFinished then { store with awsClusters := store.awsClusters.erase key } else store

/-- Persists the difference between two states of an object: the status, then finalizer and spec,
each guarded by the version that the object is expected to have. What was written before a failure
stays. -/
def persist (store : Store) (before after : AwsCluster) :
    Except ControllerError (Option String) × Store :=
  let key := after.key
  match store.awsClusters.get? key with
  | none => (.error (.invalidScope ("AWSCluster " ++ key.text ++ " does not exist")), store)
  | some object =>
    let version := before.metadata.resourceVersion
    match store.write key object version (Changes.statusPatch? before after version) with
    | .error e => (.error (.patch e.message), store)
    | .ok (store, object, version) =>
      match store.write key object version (Changes.objectPatch? before after version) with
      | .error e => (.error (.patch e.message), store)
      | .ok (store, object, version) => (.ok version, store.collect key object)

end Store

end ClusterInfra
