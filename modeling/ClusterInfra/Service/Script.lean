import ClusterInfra.Service.Cloud
import ClusterInfra.Store.Table
/-!
Scripted services: a cloud that does what a script says.

A scripted call hangs, fails or succeeds. The load balancer call that succeeds writes the scripted
DNS name to the status, and any call that succeeds may have a further effect. The resolver knows
the hosts of the script. A call or look-up that hangs ends by cancellation.
-/

namespace ClusterInfra

/-- What a successful call does besides its own work. -/
structure Effect where
  /-- A spec to put into the object. -/
  spec : Option AwsClusterSpec := none
  /-- A status to put into the object, possibly none. -/
  status : Option (Option AwsClusterStatus) := none
  /-- An object to store. -/
  stored : Option AwsCluster := none

/-- The effect on the object of a call. -/
def Effect.apply (effect : Effect) (object : AwsCluster) : AwsCluster :=
  { object with
    spec := effect.spec.getD object.spec
    status := effect.status.getD object.status }

/-- What scripted services do. -/
structure Script where
  hanging : List ServiceCall := []
  failures : Table ServiceCall String := .empty
  effects : List (ServiceCall × Effect) := []
  dnsName : Option String := none
  hosts : List String := []
  hangingHosts : List String := []

namespace Script

/-- The work of a successful call itself. -/
def work (script : Script) (call : ServiceCall) (object : AwsCluster) : AwsCluster :=
  match call, script.dnsName with
  | ⟨.reconcile, .loadBalancer⟩, some dnsName => object.modifyStatus fun status =>
    { status with network := { status.network with
        apiServerLoadBalancer := { status.network.apiServerLoadBalancer with dnsName } } }
  | _, _ => object

/-- The effects of a call, oldest first. -/
def effectsOf (script : Script) (call : ServiceCall) : List Effect :=
  (script.effects.filter (·.1 = call)).map (·.2)

/-- Answers a call. -/
def answer (script : Script) (call : ServiceCall) (object : AwsCluster) : Reply :=
  if script.hanging.contains call then { object, ending := .interrupted, cancelled := true }
  else match script.failures.get? call with
    | some message => { object, ending := .failed (.api message) }
    | none =>
      let effects := script.effectsOf call
      { object := effects.foldl (fun o effect => effect.apply o) (script.work call object)
        ending := .done
        stored := effects.filterMap (·.stored) }

/-- Answers a look-up. -/
def resolve (script : Script) (host : String) : Lookup :=
  if script.hangingHosts.contains host then .interrupted
  else .answered (script.hosts.contains host)

end Script

/-- The cloud of scripted services. -/
def scriptedCloud : Cloud Script where
  call call _ object script := (script.answer call object, script)
  lookUp host script := (script.resolve host, script)

end ClusterInfra
