import ClusterInfra.Resource.AwsCluster
import ClusterInfra.Service.Error
/-!
What lies outside the controller: the subsystem services and the name resolver.

A `Cloud` answers service calls and name look-ups from a state of its own. A call may change the
object that it is given, other writers may store objects while it runs, and the invocation may be
cancelled meanwhile: an interrupted call is one that was still running then.
-/

namespace ClusterInfra

/-- How a service call ended. -/
inductive Ending
  | done
  | failed (error : ServiceError)
  /-- The invocation was cancelled while the call was running. -/
  | interrupted
  deriving DecidableEq, Repr

/-- The answer to a service call. -/
structure Reply where
  /-- The object as the call left it. -/
  object : AwsCluster
  ending : Ending
  /-- Whether the invocation has been cancelled by now. -/
  cancelled : Bool := false
  /-- The objects that others stored during the call. -/
  stored : List AwsCluster := []

/-- The answer to a name look-up. -/
inductive Lookup
  | answered (resolves : Bool)
  /-- The invocation was cancelled while the look-up was running. -/
  | interrupted
  deriving DecidableEq, Repr

/-- The services and the resolver, with their state. -/
structure Cloud (σ : Type) where
  call : ServiceCall → ServiceContext → AwsCluster → σ → Reply × σ
  lookUp : String → σ → Lookup × σ

end ClusterInfra
