import ClusterInfra.Proofs.Resource.Faithful
import ClusterInfra.Resource.Cluster
/-!
Documents in normal form.

One object has many documents: its records may be lists of their fields, names that nobody knows may
stand beside the known ones, and what is absent may be missing or `null`. Reading a document and
writing down what was read brings it to its normal form. A normal form stands for one object only,
and bringing it to normal form again changes nothing.
-/

namespace ClusterInfra

open Codec (Faithful)
open Record

/-! ### Logical clusters -/

instance : Faithful ObjectReference :=
  faithful_of_written
    (fun reference =>
      (written_member "apiVersion" reference.apiVersion).append
        (written_member "kind" reference.kind) |>.append
        (written_member "name" reference.name) |>.append
        (written_memberIfSome "namespace" reference.ns))
    (by decide) (fun _ => rfl)
    fun reference hsorted =>
      read_next (ofMembers?_of_sorted hsorted _) <|
      read_next (defaulted_eq (by simp [Entries.find?_append])) <|
      read_next (defaulted_eq (by simp [Entries.find?_append])) <|
      read_next (required_eq (by simp [Entries.find?_append])) <|
      read_next (optional_eq (by simp [Entries.find?_append])) rfl

instance : Faithful ClusterSpec :=
  faithful_of_written
    (fun spec =>
      (written_memberIfSome "infrastructureRef" spec.infrastructureRef).append
        (written_member "paused" spec.paused))
    (by decide) (fun _ => rfl)
    fun spec hsorted =>
      read_next (ofMembers?_of_sorted hsorted _) <|
      read_next (defaulted_eq (by simp [Entries.find?_append])) <|
      read_next (optional_eq (by simp [Entries.find?_append])) rfl

instance : Faithful ClusterStatus :=
  faithful_of_written
    (fun status =>
      (written_member "infrastructureReady" status.infrastructureReady).append
        (written_memberIfSome "phase" status.phase))
    (by decide) (fun _ => rfl)
    fun status hsorted =>
      read_next (ofMembers?_of_sorted hsorted _) <|
      read_next (defaulted_eq (by simp [Entries.find?_append])) <|
      read_next (optional_eq (by simp [Entries.find?_append])) rfl

instance : Faithful Cluster :=
  faithful_of_written
    (fun cluster =>
      (written_member "apiVersion" (clusterGroup ++ "/" ++ apiVersionName)).append
        (written_member "kind" "Cluster") |>.append
        (written_member "metadata" cluster.metadata) |>.append
        (written_member "spec" cluster.spec) |>.append
        (written_memberIfSome "status" cluster.status))
    (by decide) (fun _ => rfl)
    fun cluster hsorted =>
      read_next (ofMembers?_of_sorted hsorted _) <|
      read_next (required_eq (by simp [Entries.find?_append])) <|
      read_next (required_eq (by simp [Entries.find?_append])) <|
      read_next (optional_eq (by simp [Entries.find?_append])) rfl

/-! ### Normal forms -/

namespace Codec

variable {α : Type}

/-- The document that is written of what a document is read as. -/
def normalForm? (α : Type) [Codec α] (document : Json) : Option Json :=
  (decode? document : Option α).map encode

/-- What a type of values promises those who write a value down and read it again. -/
structure RoundTrips (α : Type) [Codec α] : Prop where
  /-- Every value reads back as it was written. -/
  reads_back : ∀ value : α, decode? (encode value) = some value
  /-- No two values are written alike. -/
  tells_apart : ∀ a b : α, encode a = encode b → a = b
  /-- Whatever is read is written in key order, and so it stays when it is read once more. -/
  normal : ∀ document normal, normalForm? α document = some normal →
    normal.Ordered ∧ normalForm? α normal = some normal

theorem Faithful.encode_injective [Codec α] [Faithful α] {a b : α} (h : encode a = encode b) :
    a = b := by
  have hread : (decode? (encode a) : Option α) = decode? (encode b) := by rw [h]
  rw [Faithful.toLossless.decode?_encode, Faithful.toLossless.decode?_encode] at hread
  exact Option.some.inj hread

theorem Faithful.normalForm?_encode [Codec α] [Faithful α] (value : α) :
    normalForm? α (encode value) = some (encode value) := by
  rw [normalForm?, Faithful.toLossless.decode?_encode, Option.map_some]

theorem Faithful.roundTrips [Codec α] [Faithful α] : RoundTrips α where
  reads_back := Faithful.toLossless.decode?_encode
  tells_apart _ _ := Faithful.encode_injective
  normal document normal h := by
    obtain ⟨value, -, rfl⟩ := Option.map_eq_some_iff.1 h
    exact ⟨Faithful.ordered value, normalForm?_encode value⟩

end Codec

namespace Sample

/-- An object as somebody may have written it: with its spec as a list, with names that nobody
knows, with defaults that are missing, and with times in other zones. -/
def scrawl : Json := .obj [
  ("status", .obj [
    ("bastion", .null),
    ("conditions", .arr [.arr [.str "Ready", .str "False", .str "",
      .str "2024-02-29 23:30:00.25-01:00"]]),
    ("failureDomains", .obj [("zone-b", .obj []), ("zone-a", .arr [.bool true])])]),
  ("spec", .arr [.str "eu-west-1", .obj [("vpc", .arr [.null]), ("color", .str "blue")]]),
  ("metadata", .obj [
    ("name", .str "infra"), ("namespace", .null),
    ("creationTimestamp", .str "2024-01-01T01:30:59.999+01:30")])]

/-- Its normal form. -/
def fair : Json := .obj [
  ("apiVersion", .str "infrastructure.cluster.x-k8s.io/v1beta1"),
  ("kind", .str "AWSCluster"),
  ("metadata", .obj [("creationTimestamp", .str "2024-01-01T00:00:59Z"), ("name", .str "infra")]),
  ("spec", .obj [
    ("bastion", .obj [("enabled", .bool false)]),
    ("controlPlaneEndpoint", .obj [("host", .str ""), ("port", .int 0)]),
    ("network", .obj [("subnets", .arr []), ("vpc", .obj [])]),
    ("region", .str "eu-west-1")]),
  ("status", .obj [
    ("conditions", .arr [.obj [
      ("lastTransitionTime", .str "2024-03-01T00:30:00.250Z"), ("status", .str "False"),
      ("type", .str "Ready")]]),
    ("failureDomains", .obj [
      ("zone-a", .obj [("controlPlane", .bool true)]),
      ("zone-b", .obj [("controlPlane", .bool false)])]),
    ("network", .obj [("apiServerLoadBalancer", .obj [])]),
    ("ready", .bool false)])]

end Sample

/-- Every `AWSCluster` and every `Cluster` reads back as it was written, no two of them are written
alike, and whatever document one of them was read from, writing it down gives a normal form. -/
theorem documents_round_trip : Codec.RoundTrips AwsCluster ∧ Codec.RoundTrips Cluster :=
  ⟨Codec.Faithful.roundTrips, Codec.Faithful.roundTrips⟩

/-- A scrawled document has a normal form, which is not what was written, but stays as it is. -/
theorem scrawl_has_normal_form :
    Sample.scrawl ≠ Sample.fair ∧ Codec.normalForm? AwsCluster Sample.scrawl = some Sample.fair ∧
      Codec.normalForm? AwsCluster Sample.fair = some Sample.fair := by
  have hfair : Codec.normalForm? AwsCluster Sample.scrawl = some Sample.fair := by decide +kernel
  refine ⟨by decide +kernel, hfair, ?_⟩
  exact (documents_round_trip.1.normal Sample.scrawl Sample.fair hfair).2

end ClusterInfra
