import ClusterInfra.Json.Codec
import ClusterInfra.Time.Rfc3339
/-!
Metadata of stored objects: identity, ownership, finalizers, deletion.

Every field may be absent, and `null` reads as absent; an empty list or dictionary that is there is
kept. Timestamps are whole seconds.
-/

namespace ClusterInfra

instance : Codec Instant where
  encode t := .str (Rfc3339.write t)
  decode?
    | .str text => Rfc3339.read? text
    | _ => none

instance : Codec WholeSecond where
  encode t := Codec.encode t.val
  decode? document := (Codec.decode? document).map Instant.wholeSecond

/-- What identifies an object: its namespace and its name. -/
structure ObjectKey where
  ns : String
  name : String
  deriving DecidableEq, Repr

/-- The text `namespace/name`. -/
def ObjectKey.text (key : ObjectKey) : String := key.ns ++ "/" ++ key.name

/-- A reference to an object that owns another one. -/
structure OwnerReference where
  apiVersion : String
  kind : String
  name : String
  uid : String
  controller : Option Bool
  blockOwnerDeletion : Option Bool
  deriving DecidableEq

/-- What a field manager wrote last. -/
structure ManagedFields where
  apiVersion : Option String
  fieldsType : Option String
  fieldsV1 : Option Json.Content
  manager : Option String
  operation : Option String
  subresource : Option String
  time : Option WholeSecond
  deriving DecidableEq

/-- Metadata of an object. -/
structure Metadata where
  annotations : Option (Dict String) := none
  creationTimestamp : Option WholeSecond := none
  deletionGracePeriodSeconds : Option Int64 := none
  deletionTimestamp : Option WholeSecond := none
  finalizers : Option (List String) := none
  generateName : Option String := none
  generation : Option Int64 := none
  labels : Option (Dict String) := none
  managedFields : Option (List ManagedFields) := none
  name : Option String := none
  ns : Option String := none
  ownerReferences : Option (List OwnerReference) := none
  resourceVersion : Option String := none
  selfLink : Option String := none
  uid : Option String := none
  deriving DecidableEq, Inhabited

namespace Metadata

/-- The key of an object; a missing part is empty. -/
def key (metadata : Metadata) : ObjectKey :=
  ⟨metadata.ns.getD "", metadata.name.getD ""⟩

/-- Whether an annotation is there, with any value. -/
def hasAnnotation (metadata : Metadata) (name : String) : Bool :=
  metadata.annotations.any (·.contains name)

/-- Whether deletion has been requested. -/
def isDeleting (metadata : Metadata) : Bool := metadata.deletionTimestamp.isSome

/-- Whether a finalizer is there. -/
def hasFinalizer (metadata : Metadata) (finalizer : String) : Bool :=
  metadata.finalizers.any (·.contains finalizer)

end Metadata

open Record

instance : Codec OwnerReference where
  encode owner := .obj <|
    member "apiVersion" owner.apiVersion
    ++ memberIfSome "blockOwnerDeletion" owner.blockOwnerDeletion
    ++ memberIfSome "controller" owner.controller
    ++ member "kind" owner.kind
    ++ member "name" owner.name
    ++ member "uid" owner.uid
  decode? document := do
    let fields ← looseFields? document
    return {
      apiVersion := (← optional fields "apiVersion").getD ""
      kind := (← optional fields "kind").getD ""
      name := (← optional fields "name").getD ""
      uid := (← optional fields "uid").getD ""
      controller := ← optional fields "controller"
      blockOwnerDeletion := ← optional fields "blockOwnerDeletion" }

instance : Codec ManagedFields where
  encode entry := .obj <|
    memberIfSome "apiVersion" entry.apiVersion
    ++ memberIfSome "fieldsType" entry.fieldsType
    ++ memberIfSome "fieldsV1" entry.fieldsV1
    ++ memberIfSome "manager" entry.manager
    ++ memberIfSome "operation" entry.operation
    ++ memberIfSome "subresource" entry.subresource
    ++ memberIfSome "time" entry.time
  decode? document := do
    let fields ← looseFields? document
    return {
      apiVersion := ← optional fields "apiVersion"
      fieldsType := ← optional fields "fieldsType"
      fieldsV1 := ← optional fields "fieldsV1"
      manager := ← optional fields "manager"
      operation := ← optional fields "operation"
      subresource := ← optional fields "subresource"
      time := ← optional fields "time" }

instance : Codec Metadata where
  encode metadata := .obj <|
    memberIfSome "annotations" metadata.annotations
    ++ memberIfSome "creationTimestamp" metadata.creationTimestamp
    ++ memberIfSome "deletionGracePeriodSeconds" metadata.deletionGracePeriodSeconds
    ++ memberIfSome "deletionTimestamp" metadata.deletionTimestamp
    ++ memberIfSome "finalizers" metadata.finalizers
    ++ memberIfSome "generateName" metadata.generateName
    ++ memberIfSome "generation" metadata.generation
    ++ memberIfSome "labels" metadata.labels
    ++ memberIfSome "managedFields" metadata.managedFields
    ++ memberIfSome "name" metadata.name
    ++ memberIfSome "namespace" metadata.ns
    ++ memberIfSome "ownerReferences" metadata.ownerReferences
    ++ memberIfSome "resourceVersion" metadata.resourceVersion
    ++ memberIfSome "selfLink" metadata.selfLink
    ++ memberIfSome "uid" metadata.uid
  decode? document := do
    let fields ← looseFields? document
    return {
      annotations := ← optional fields "annotations"
      creationTimestamp := ← optional fields "creationTimestamp"
      deletionGracePeriodSeconds := ← optional fields "deletionGracePeriodSeconds"
      deletionTimestamp := ← optional fields "deletionTimestamp"
      finalizers := ← optional fields "finalizers"
      generateName := ← optional fields "generateName"
      generation := ← optional fields "generation"
      labels := ← optional fields "labels"
      managedFields := ← optional fields "managedFields"
      name := ← optional fields "name"
      ns := ← optional fields "namespace"
      ownerReferences := ← optional fields "ownerReferences"
      resourceVersion := ← optional fields "resourceVersion"
      selfLink := ← optional fields "selfLink"
      uid := ← optional fields "uid" }

end ClusterInfra
