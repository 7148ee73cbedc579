import ClusterInfra.Proofs.Json.Faithful
import ClusterInfra.Proofs.Time.Rfc3339
import ClusterInfra.Resource.AwsCluster
/-!
The documents of objects lose nothing.

An object, with its metadata, its spec and its status, is written in key order and read back field
by field. Fields that are left out where they are empty have the empty value as their default.
-/

namespace ClusterInfra

open Codec (Faithful)
open Record

/-! ### Metadata -/

instance : Faithful Instant where
  decode?_encode t := Rfc3339.read?_write t
  encode_ne_null _ := by simp [Codec.encode]
  ordered _ := .str _

theorem Instant.wholeSecond_val (t : WholeSecond) : t.val.wholeSecond = t := by
  obtain ⟨⟨date, hour, minute, second, nano, h⟩, hnano⟩ := t
  cases hnano
  rfl

instance : Faithful WholeSecond where
  decode?_encode t := by
    have hread : (Codec.decode? (Codec.encode t.val) : Option Instant) = some t.val :=
      Faithful.toLossless.decode?_encode t.val
    have hdecode : (Codec.decode? (Codec.encode t) : Option WholeSecond)
        = (Codec.decode? (Codec.encode t.val)).map Instant.wholeSecond := rfl
    rw [hdecode, hread, Option.map_some, Instant.wholeSecond_val]
  encode_ne_null t := Faithful.toLossless.encode_ne_null t.val
  ordered t := Faithful.ordered t.val

instance : Faithful OwnerReference :=
  faithful_of_written
    (fun owner =>
      (written_member "apiVersion" owner.apiVersion).append
        (written_memberIfSome "blockOwnerDeletion" owner.blockOwnerDeletion) |>.append
        (written_memberIfSome "controller" owner.controller) |>.append
        (written_member "kind" owner.kind) |>.append
        (written_member "name" owner.name) |>.append
        (written_member "uid" owner.uid))
    (by decide) (fun _ => rfl)
    fun owner hsorted =>
      read_next (looseFields?_of_sorted hsorted) <|
      read_next (optional_eq_some (by simp [Entries.find?_append])) <|
      read_next (optional_eq_some (by simp [Entries.find?_append])) <|
      read_next (optional_eq_some (by simp [Entries.find?_append])) <|
      read_next (optional_eq_some (by simp [Entries.find?_append])) <|
      read_next (optional_eq (by simp [Entries.find?_append])) <|
      read_next (optional_eq (by simp [Entries.find?_append])) rfl

instance : Faithful ManagedFields :=
  faithful_of_written
    (fun entry =>
      (written_memberIfSome "apiVersion" entry.apiVersion).append
        (written_memberIfSome "fieldsType" entry.fieldsType) |>.append
        (written_memberIfSome "fieldsV1" entry.fieldsV1) |>.append
        (written_memberIfSome "manager" entry.manager) |>.append
        (written_memberIfSome "operation" entry.operation) |>.append
        (written_memberIfSome "subresource" entry.subresource) |>.append
        (written_memberIfSome "time" entry.time))
    (by decide) (fun _ => rfl)
    fun entry hsorted =>
      read_next (looseFields?_of_sorted hsorted) <|
      read_next (optional_eq (by simp [Entries.find?_append])) <|
      read_next (optional_eq (by simp [Entries.find?_append])) <|
      read_next (optional_eq (by simp [Entries.find?_append])) <|
      read_next (optional_eq (by simp [Entries.find?_append])) <|
      read_next (optional_eq (by simp [Entries.find?_append])) <|
      read_next (optional_eq (by simp [Entries.find?_append])) <|
      read_next (optional_eq (by simp [Entries.find?_append])) rfl

instance : Faithful Metadata :=
  faithful_of_written
    (fun metadata =>
      (written_memberIfSome "annotations" metadata.annotations).append
        (written_memberIfSome "creationTimestamp" metadata.creationTimestamp) |>.append
        (written_memberIfSome "deletionGracePeriodSeconds" metadata.deletionGracePeriodSeconds) |>.append
        (written_memberIfSome "deletionTimestamp" metadata.deletionTimestamp) |>.append
        (written_memberIfSome "finalizers" metadata.finalizers) |>.append
        (written_memberIfSome "generateName" metadata.generateName) |>.append
        (written_memberIfSome "generation" metadata.generation) |>.append
        (written_memberIfSome "labels" metadata.labels) |>.append
        (written_memberIfSome "managedFields" metadata.managedFields) |>.append
        (written_memberIfSome "name" metadata.name) |>.append
        (written_memberIfSome "namespace" metadata.ns) |>.append
        (written_memberIfSome "ownerReferences" metadata.ownerReferences) |>.append
        (written_memberIfSome "resourceVersion" metadata.resourceVersion) |>.append
        (written_memberIfSome "selfLink" metadata.selfLink) |>.append
        (written_memberIfSome "uid" metadata.uid))
    (by decide) (fun _ => rfl)
    fun metadata hsorted =>
      read_next (looseFields?_of_sorted hsorted) <|
      read_next (optional_eq (by simp [Entries.find?_append])) <|
      read_next (optional_eq (by simp [Entries.find?_append])) <|
      read_next (optional_eq (by simp [Entries.find?_append])) <|
      read_next (optional_eq (by simp [Entries.find?_append])) <|
      read_next (optional_eq (by simp [Entries.find?_append])) <|
      read_next (optional_eq (by simp [Entries.find?_append])) <|
      read_next (optional_eq (by simp [Entries.find?_append])) <|
      read_next (optional_eq (by simp [Entries.find?_append])) <|
      read_next (optional_eq (by simp [Entries.find?_append])) <|
      read_next (optional_eq (by simp [Entries.find?_append])) <|
      read_next (optional_eq (by simp [Entries.find?_append])) <|
      read_next (optional_eq (by simp [Entries.find?_append])) <|
      read_next (optional_eq (by simp [Entries.find?_append])) <|
      read_next (optional_eq (by simp [Entries.find?_append])) <|
      read_next (optional_eq (by simp [Entries.find?_append])) rfl

/-! ### Spec -/

theorem Dict.eq_empty_of_isEmpty {α : Type} {dict : Dict α} (h : dict.isEmpty = true) :
    dict = {} := by
  obtain ⟨entries, hsorted⟩ := dict
  cases List.isEmpty_iff.1 h
  rfl

instance : Faithful Vpc :=
  faithful_of_written
    (fun vpc => (written_memberIfSome "cidrBlock" vpc.cidrBlock).append
      (written_memberIfSome "id" vpc.id))
    (by decide) (fun _ => rfl)
    fun vpc hsorted =>
      read_next (ofMembers?_of_sorted hsorted _) <|
      read_next (optional_eq (by simp [Entries.find?_append])) <|
      read_next (optional_eq (by simp [Entries.find?_append])) rfl

instance : Faithful Subnet :=
  faithful_of_written
    (fun subnet =>
      (written_member "availabilityZone" subnet.availabilityZone).append
        (written_member "cidrBlock" subnet.cidrBlock) |>.append
        (written_memberIfSome "id" subnet.id) |>.append
        (written_member "isPublic" subnet.isPublic))
    (by decide) (fun _ => rfl)
    fun subnet hsorted =>
      read_next (ofMembers?_of_sorted hsorted _) <|
      read_next (optional_eq (by simp [Entries.find?_append])) <|
      read_next (defaulted_eq (by simp [Entries.find?_append])) <|
      read_next (defaulted_eq (by simp [Entries.find?_append])) <|
      read_next (defaulted_eq (by simp [Entries.find?_append])) rfl

instance : Faithful Network :=
  faithful_of_written
    (fun network =>
      (written_memberUnless network.securityGroupOverrides.isEmpty
        "securityGroupOverrides" network.securityGroupOverrides).append
        (written_member "subnets" network.subnets) |>.append
        (written_member "vpc" network.vpc))
    (by decide) (fun _ => rfl)
    fun network hsorted =>
      read_next (ofMembers?_of_sorted hsorted _) <|
      read_next (defaulted_eq (by simp [Entries.find?_append])) <|
      read_next (defaulted_eq (by simp [Entries.find?_append])) <|
      read_next (defaulted_eq_unless Dict.eq_empty_of_isEmpty
        (by simp [Entries.find?_append])) rfl

instance : Faithful Bastion :=
  faithful_of_written
    (fun bastion =>
      (written_memberUnless bastion.allowedCidrBlocks.isEmpty
        "allowedCidrBlocks" bastion.allowedCidrBlocks).append
        (written_member "enabled" bastion.enabled) |>.append
        (written_memberIfSome "instanceType" bastion.instanceType))
    (by decide) (fun _ => rfl)
    fun bastion hsorted =>
      read_next (ofMembers?_of_sorted hsorted _) <|
      read_next (defaulted_eq (by simp [Entries.find?_append])) <|
      read_next (optional_eq (by simp [Entries.find?_append])) <|
      read_next (defaulted_eq_unless List.isEmpty_iff.1 (by simp [Entries.find?_append])) rfl

instance : Faithful Endpoint :=
  faithful_of_written
    (fun endpoint => (written_member "host" endpoint.host).append
      (written_member "port" endpoint.port))
    (by decide) (fun _ => rfl)
    fun endpoint hsorted =>
      read_next (ofMembers?_of_sorted hsorted _) <|
      read_next (defaulted_eq (by simp [Entries.find?_append])) <|
      read_next (defaulted_eq (by simp [Entries.find?_append])) rfl

instance : Faithful AwsClusterSpec :=
  faithful_of_written
    (fun spec =>
      (written_memberIfSome "apiServerPort" spec.apiServerPort).append
        (written_member "bastion" spec.bastion) |>.append
        (written_member "controlPlaneEndpoint" spec.controlPlaneEndpoint) |>.append
        (written_member "network" spec.network) |>.append
        (written_member "region" spec.region) |>.append
        (written_memberIfSome "sshKeyName" spec.sshKeyName))
    (by decide) (fun _ => rfl)
    fun spec hsorted =>
      read_next (ofMembers?_of_sorted hsorted _) <|
      read_next (required_eq (by simp [Entries.find?_append])) <|
      read_next (defaulted_eq (by simp [Entries.find?_append])) <|
      read_next (defaulted_eq (by simp [Entries.find?_append])) <|
      read_next (defaulted_eq (by simp [Entries.find?_append])) <|
      read_next (optional_eq (by simp [Entries.find?_append])) <|
      read_next (optional_eq (by simp [Entries.find?_append])) rfl

/-! ### Status -/

instance : Faithful SecurityGroup :=
  faithful_of_written
    (fun group => (written_member "id" group.id).append (written_member "name" group.name))
    (by decide) (fun _ => rfl)
    fun group hsorted =>
      read_next (ofMembers?_of_sorted hsorted _) <|
      read_next (required_eq (by simp [Entries.find?_append])) <|
      read_next (defaulted_eq (by simp [Entries.find?_append])) rfl

instance : Faithful LoadBalancer :=
  faithful_of_written
    (fun balancer =>
      (written_memberUnless balancer.availabilityZones.isEmpty
        "availabilityZones" balancer.availabilityZones).append
        (written_memberIfSome "dnsName" balancer.dnsName) |>.append
        (written_memberIfSome "name" balancer.name))
    (by decide) (fun _ => rfl)
    fun balancer hsorted =>
      read_next (ofMembers?_of_sorted hsorted _) <|
      read_next (optional_eq (by simp [Entries.find?_append])) <|
      read_next (optional_eq (by simp [Entries.find?_append])) <|
      read_next (defaulted_eq_unless List.isEmpty_iff.1 (by simp [Entries.find?_append])) rfl

instance : Faithful ObservedNetwork :=
  faithful_of_written
    (fun network =>
      (written_member "apiServerLoadBalancer" network.apiServerLoadBalancer).append
        (written_memberUnless network.securityGroups.isEmpty
          "securityGroups" network.securityGroups))
    (by decide) (fun _ => rfl)
    fun network hsorted =>
      read_next (ofMembers?_of_sorted hsorted _) <|
      read_next (defaulted_eq_unless Dict.eq_empty_of_isEmpty
        (by simp [Entries.find?_append])) <|
      read_next (defaulted_eq (by simp [Entries.find?_append])) rfl

instance : Faithful FailureDomain :=
  faithful_of_written
    (fun domain =>
      (written_memberUnless domain.attributes.isEmpty "attributes" domain.attributes).append
        (written_member "controlPlane" domain.controlPlane))
    (by decide) (fun _ => rfl)
    fun domain hsorted =>
      read_next (ofMembers?_of_sorted hsorted _) <|
      read_next (defaulted_eq (by simp [Entries.find?_append])) <|
      read_next (defaulted_eq_unless Dict.eq_empty_of_isEmpty
        (by simp [Entries.find?_append])) rfl

instance : Faithful CloudInstance :=
  faithful_of_written
    (fun machine =>
      (written_member "id" machine.id).append
        (written_memberIfSome "privateIp" machine.privateIp) |>.append
        (written_memberIfSome "publicIp" machine.publicIp) |>.append
        (written_memberIfSome "state" machine.state))
    (by decide) (fun _ => rfl)
    fun machine hsorted =>
      read_next (ofMembers?_of_sorted hsorted _) <|
      read_next (required_eq (by simp [Entries.find?_append])) <|
      read_next (optional_eq (by simp [Entries.find?_append])) <|
      read_next (optional_eq (by simp [Entries.find?_append])) <|
      read_next (optional_eq (by simp [Entries.find?_append])) rfl

instance : Faithful ConditionStatus where
  decode?_encode status := by cases status <;> rfl
  encode_ne_null _ := by simp [Codec.encode]
  ordered _ := .str _

instance : Faithful Severity where
  decode?_encode severity := by cases severity <;> rfl
  encode_ne_null _ := by simp [Codec.encode]
  ordered _ := .str _

instance : Faithful Condition :=
  faithful_of_written
    (fun condition =>
      (written_memberIfSome "lastTransitionTime" condition.lastTransitionTime).append
        (written_memberIfSome "message" condition.message) |>.append
        (written_memberIfSome "reason" condition.reason) |>.append
        (written_memberUnless (condition.severity = .none) "severity" condition.severity) |>.append
        (written_member "status" condition.status) |>.append
        (written_member "type" condition.type))
    (by decide) (fun _ => rfl)
    fun condition hsorted =>
      read_next (ofMembers?_of_sorted hsorted _) <|
      read_next (required_eq (by simp [Entries.find?_append])) <|
      read_next (required_eq (by simp [Entries.find?_append])) <|
      read_next (defaulted_eq_unless of_decide_eq_true (by simp [Entries.find?_append])) <|
      read_next (optional_eq (by simp [Entries.find?_append])) <|
      read_next (optional_eq (by simp [Entries.find?_append])) <|
      read_next (optional_eq (by simp [Entries.find?_append])) rfl

instance : Faithful AwsClusterStatus :=
  faithful_of_written
    (fun status =>
      (written_memberIfSome "bastion" status.bastion).append
        (written_memberUnless status.conditions.isEmpty "conditions" status.conditions) |>.append
        (written_memberUnless status.failureDomains.isEmpty
          "failureDomains" status.failureDomains) |>.append
        (written_member "network" status.network) |>.append
        (written_member "ready" status.ready))
    (by decide) (fun _ => rfl)
    fun status hsorted =>
      read_next (ofMembers?_of_sorted hsorted _) <|
      read_next (defaulted_eq (by simp [Entries.find?_append])) <|
      read_next (defaulted_eq (by simp [Entries.find?_append])) <|
      read_next (defaulted_eq_unless Dict.eq_empty_of_isEmpty
        (by simp [Entries.find?_append])) <|
      read_next (optional_eq (by simp [Entries.find?_append])) <|
      read_next (defaulted_eq_unless List.isEmpty_iff.1 (by simp [Entries.find?_append])) rfl

/-! ### Objects -/

instance : Faithful AwsCluster :=
  faithful_of_written
    (fun object =>
      (written_member "apiVersion" (infrastructureGroup ++ "/" ++ apiVersionName)).append
        (written_member "kind" "AWSCluster") |>.append
        (written_member "metadata" object.metadata) |>.append
        (written_member "spec" object.spec) |>.append
        (written_memberIfSome "status" object.status))
    (by decide) (fun _ => rfl)
    fun object hsorted =>
      read_next (ofMembers?_of_sorted hsorted _) <|
      read_next (required_eq (by simp [Entries.find?_append])) <|
      read_next (required_eq (by simp [Entries.find?_append])) <|
      read_next (optional_eq (by simp [Entries.find?_append])) rfl

end ClusterInfra
