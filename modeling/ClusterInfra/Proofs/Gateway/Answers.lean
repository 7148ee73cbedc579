import ClusterInfra.Proofs.Gateway.WriteBack
import Mathlib.Logic.Function.Basic
/-!
Answers of the gateway.

The answer about a subsystem is a document, and what is wanted of a subsystem depends on the answers
about those before it. Nothing else that the status of an object held before makes a difference: all
that is wanted in the course of a creation can be told from the object as it was loaded and the
answers, and at its end the object shows the answers.
-/

namespace ClusterInfra

open Http (Response)

/-! ### What depends on the core of an object -/

namespace Gateway

variable {a b : AwsCluster}

end Gateway

/-! ### Answers -/

/-- What the gateway answers about each subsystem. -/
abbrev Answers := (subsystem : Subsystem) → subsystem.Answer

namespace Answers

/-- The answers with another one about a subsystem. -/
def take (answers : Answers) {subsystem : Subsystem} (answer : subsystem.Answer) : Answers :=
  Function.update answers subsystem answer

/-- A response is the answer about a subsystem, if a document is wanted of it; else it tells that
the subsystem is gone. -/
def Heard (answers : Answers) (subsystem : Subsystem) : Option Json → Response → Prop
  | some _, response => response.isSuccess = true ∧
    Http.Client.readDocument subsystem.Answer response.body = .ok (answers subsystem)
  | none, response => response.isSuccess = true ∨ response.isNotFound = true

/-- The object after the step for a subsystem. -/
def after (answers : Answers) (object : AwsCluster) (subsystem : Subsystem) : AwsCluster :=
  match Gateway.wanted? object ⟨.reconcile, subsystem⟩ with
  | some _ => Gateway.accept object subsystem (answers subsystem)
  | none => Gateway.remove object subsystem

variable {answers others : Answers} {a b : AwsCluster}

/-- The VPC that was answered. -/
def vpc (answers : Answers) : Vpc := (answers .network : Gateway.NetworkResponse).vpc

/-- The subnets that were answered, or those that were loaded if none are listed. -/
def subnets (answers : Answers) (loaded : AwsCluster) : List Subnet :=
  let answered := (answers .network : Gateway.NetworkResponse).subnets
  if answered.isEmpty then loaded.spec.network.subnets else answered

/-- The security groups that were answered. -/
def securityGroups (answers : Answers) : Dict SecurityGroup :=
  (answers .securityGroups : Gateway.SecurityGroupsResponse).securityGroups

/-- The bastion that was answered, if one is wanted. -/
def bastion (answers : Answers) (loaded : AwsCluster) : Option CloudInstance :=
  if loaded.spec.bastion.enabled then (answers .bastion : Gateway.BastionResponse).machine else none

/-- The load balancer that was answered. -/
def balancer (answers : Answers) : LoadBalancer :=
  (answers .loadBalancer : Gateway.LoadBalancerResponse).balancer

/-- The document that is wanted of a subsystem when its turn has come; none if the subsystem is to
be gone. -/
def wanted? (answers : Answers) (loaded : AwsCluster) : Subsystem → Option Json
  | .network => some (Gateway.NetworkRequest.toJson {
      vpc := loaded.spec.network.vpc
      subnets := loaded.spec.network.subnets })
  | .securityGroups => some (Gateway.SecurityGroupsRequest.toJson {
      vpcId := answers.vpc.id
      overrides := loaded.spec.network.securityGroupOverrides })
  | .bastion =>
    if loaded.spec.bastion.enabled then some (Gateway.BastionRequest.toJson {
      instanceType := loaded.spec.bastion.instanceType
      sshKeyName := loaded.spec.sshKeyName
      allowedCidrBlocks := loaded.spec.bastion.allowedCidrBlocks
      subnetId := ((answers.subnets loaded).find? (·.isPublic)).bind (·.id) })
    else none
  | .loadBalancer => some (Gateway.LoadBalancerRequest.toJson {
      subnetIds := (answers.subnets loaded).filterMap (·.id)
      securityGroupIds := (answers.securityGroups.find? "apiserver-lb").toList.map (·.id)
      port := loaded.spec.apiServerPort.getD 6443 })

/-- An object shows what was answered. -/
structure ShownBy (answers : Answers) (loaded object : AwsCluster) : Prop where
  vpc : object.spec.network.vpc = answers.vpc
  subnets : object.spec.network.subnets = answers.subnets loaded
  securityGroups : object.statusOrDefault.network.securityGroups = answers.securityGroups
  bastion : object.statusOrDefault.bastion = answers.bastion loaded
  loadBalancer : object.statusOrDefault.network.apiServerLoadBalancer = answers.balancer

variable {loaded : AwsCluster}

end Answers

/-- What is found of the infrastructure. -/
def AwsCluster.findings (object : AwsCluster) :
    Network × ObservedNetwork × Option CloudInstance :=
  (object.spec.network, object.statusOrDefault.network, object.statusOrDefault.bastion)

theorem AwsCluster.blind_findings : Blind findings := fun _ _ h =>
  congrArg (fun core : AwsClusterSpec × AwsClusterStatus =>
    (core.1.network, core.2.network, core.2.bastion)) h

theorem Answers.ShownBy.congr {answers : Answers} {loaded a b : AwsCluster}
    (h : answers.ShownBy loaded a) (hsame : b.findings = a.findings) :
    answers.ShownBy loaded b where
  vpc := (congrArg (·.1.vpc) hsame).trans h.vpc
  subnets := (congrArg (·.1.subnets) hsame).trans h.subnets
  securityGroups := (congrArg (·.2.1.securityGroups) hsame).trans h.securityGroups
  bastion := (congrArg (·.2.2) hsame).trans h.bastion
  loadBalancer := (congrArg (·.2.1.apiServerLoadBalancer) hsame).trans h.loadBalancer

end ClusterInfra
