import ClusterInfra.Resource.Reference
/-!
Calls of the subsystem services.

Four subsystems make up the infrastructure of a cluster. Each can be reconciled (created or updated)
and deleted, which gives eight calls. Creation goes in the order in which the subsystems depend on
each other; deletion has an order of its own.
-/

namespace ClusterInfra

/-- A part of the infrastructure with a service of its own. -/
inductive Subsystem
  | network
  | securityGroups
  | bastion
  | loadBalancer
  deriving DecidableEq, Repr

namespace Subsystem

/-- The label of a subsystem in messages, metrics and paths. -/
def label : Subsystem → String
  | .network => "network"
  | .securityGroups => "security-groups"
  | .bastion => "bastion"
  | .loadBalancer => "load-balancer"

/-- All subsystems, in the order of their creation. -/
def creationOrder : List Subsystem := [.network, .securityGroups, .bastion, .loadBalancer]

/-- All subsystems, in the order of their deletion. -/
def deletionOrder : List Subsystem := [.bastion, .loadBalancer, .securityGroups, .network]

/-- The subsystem of a label. -/
def ofLabel? (label : String) : Option Subsystem := creationOrder.find? (·.label = label)

end Subsystem

/-- What is asked of a subsystem. -/
inductive Action
  | reconcile
  | delete
  deriving DecidableEq, Repr

namespace Action

/-- The label of an action in metrics. -/
def label : Action → String
  | .reconcile => "reconcile"
  | .delete => "delete"

/-- Both actions. -/
def all : List Action := [.reconcile, .delete]

/-- The action of a label. -/
def ofLabel? (label : String) : Option Action := all.find? (·.label = label)

end Action

/-- A call of a subsystem service. -/
structure ServiceCall where
  action : Action
  subsystem : Subsystem
  deriving DecidableEq, Repr

namespace ServiceCall

/-- The name of a call. -/
def name (call : ServiceCall) : String :=
  (match call.action with
    | .reconcile => "Reconcile"
    | .delete => "Delete")
  ++ match call.subsystem with
    | .network => "Network"
    | .securityGroups => "SecurityGroups"
    | .bastion => "Bastion"
    | .loadBalancer => "LoadBalancers"

/-- All eight calls. -/
def all : List ServiceCall :=
  Action.all.flatMap fun action => Subsystem.creationOrder.map (⟨action, ·⟩)

/-- The call of a name. -/
def ofName? (name : String) : Option ServiceCall := all.find? (·.name = name)

/-- The labels of two calls differ if the calls do. -/
theorem label_ne {call other : ServiceCall} (h : other ≠ call) :
    other.subsystem.label ≠ call.subsystem.label ∨ other.action.label ≠ call.action.label := by
  revert h
  rcases call with ⟨_ | _, _ | _ | _ | _⟩ <;> rcases other with ⟨_ | _, _ | _ | _ | _⟩ <;> decide

end ServiceCall

/-- The cluster on whose behalf a service is built. -/
structure ServiceContext where
  region : String
  ns : String
  clusterName : String
  deriving DecidableEq, Repr

end ClusterInfra
