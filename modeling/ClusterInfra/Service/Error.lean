import ClusterInfra.Service.Call
/-!
Why service calls and reconciliations fail.

Errors are causes; their wording is in one function per type, and so is the label under which a
failed reconciliation is counted.
-/

namespace ClusterInfra

/-- Why a service call fails. -/
inductive ServiceError
  /-- The request or the response did not get through. -/
  | http (text : String)
  /-- The gateway or the cloud refused the operation, or answered something else than expected. -/
  | api (text : String)
  /-- A document could not be written or read. -/
  | serialization (text : String)
  /-- There is no such resource. -/
  | notFound (text : String)
  /-- The spec cannot be turned into a request. -/
  | invalidRequest (text : String)
  deriving DecidableEq, Repr

/-- The name of the kind of a service error. -/
def ServiceError.kind : ServiceError → String
  | .http _ => "Http"
  | .api _ => "Api"
  | .serialization _ => "Serialization"
  | .notFound _ => "NotFound"
  | .invalidRequest _ => "InvalidRequest"

/-- The wording of a service error. -/
def ServiceError.message : ServiceError → String
  | .http text => "HTTP error: " ++ text
  | .api text => "cloud API error: " ++ text
  | .serialization text => "Serialization error: " ++ text
  | .notFound text => "Not found: " ++ text
  | .invalidRequest text => "Invalid request: " ++ text

/-- Why a request to the Kubernetes API fails. -/
inductive KubeError
  /-- The server answered with a status. -/
  | refused (code : Nat) (reason text : String)
  /-- No request could be built. -/
  | unsendable
  /-- The answer could not be read. -/
  | unreadable
  deriving DecidableEq, Repr

/-- The wording of a Kubernetes error. -/
def KubeError.message : KubeError → String
  | .refused code reason text => text ++ ": " ++ reason ++ " (" ++ toString code ++ ")"
  | .unsendable => "the request could not be built"
  | .unreadable => "the response could not be read"

/-- Why metrics cannot be registered or written. -/
inductive MetricsError
  /-- A collector of the same metrics is registered already. -/
  | alreadyRegistered
  | other (text : String)
  deriving DecidableEq, Repr

/-- The wording of a metrics error. -/
def MetricsError.message : MetricsError → String
  | .alreadyRegistered => "Duplicate metrics collector registration attempted"
  | .other text => "Error: " ++ text

/-- Why a reconciliation, or the controller around it, fails. -/
inductive ControllerError
  | kube (error : KubeError)
  /-- A subsystem could not be reconciled. -/
  | service (subsystem : Subsystem) (source : ServiceError)
  /-- A subsystem could not be deleted. -/
  | serviceDeletion (subsystem : Subsystem) (source : ServiceError)
  /-- The `Cluster` that an owner reference names does not exist. -/
  | ownerNotFound (text : String)
  /-- The object cannot be reconciled. -/
  | invalidScope (text : String)
  /-- The invocation was cancelled before a subsystem was done. -/
  | cancelled (subsystem : Subsystem)
  /-- Some deletions failed, so the finalizer was kept. -/
  | deleteIncomplete (failed : Nat) (first : ControllerError)
  /-- A patch did not apply. -/
  | patch (text : String)
  | invalidConfig (text : String)
  | gateway (source : ServiceError)
  | metrics (error : MetricsError)
  | io (text : String)
  | watch (text : String)
  deriving DecidableEq, Repr

namespace ControllerError

/-- The name of the kind of an error. -/
def kind : ControllerError → String
  | .kube _ => "Kube"
  | .service _ _ => "Service"
  | .serviceDeletion _ _ => "ServiceDeletion"
  | .ownerNotFound _ => "OwnerClusterNotFound"
  | .invalidScope _ => "InvalidScope"
  | .cancelled _ => "Cancelled"
  | .deleteIncomplete _ _ => "DeleteIncomplete"
  | .patch _ => "Patch"
  | .invalidConfig _ => "InvalidConfig"
  | .gateway _ => "Gateway"
  | .metrics _ => "Metrics"
  | .io _ => "Io"
  | .watch _ => "Watch"

/-- The wording of an error. -/
def message : ControllerError → String
  | .kube error => "Kubernetes error: " ++ error.message
  | .service subsystem source =>
    "failed to reconcile " ++ subsystem.label ++ ": " ++ source.message
  | .serviceDeletion subsystem source =>
    "failed to delete " ++ subsystem.label ++ ": " ++ source.message
  | .ownerNotFound text => "owner Cluster not found: " ++ text
  | .invalidScope text => "invalid cluster scope: " ++ text
  | .cancelled subsystem => "reconciliation cancelled during " ++ subsystem.label
  | .deleteIncomplete failed first =>
    toString failed ++ " deletion step(s) failed, first: " ++ first.message
  | .patch text => "patch error: " ++ text
  | .invalidConfig text => "Invalid configuration: " ++ text
  | .gateway source => "gateway error: " ++ source.message
  | .metrics error => "Metrics error: " ++ error.message
  | .io text => "I/O error: " ++ text
  | .watch text => "Resource watch failed: " ++ text

/-- The label under which an error is logged and counted. -/
def label : ControllerError → String
  | .kube _ => "kube"
  | .service _ _ => "service"
  | .serviceDeletion _ _ | .deleteIncomplete _ _ => "deletion"
  | .ownerNotFound _ => "owner"
  | .invalidScope _ => "scope"
  | .patch _ => "patch"
  | .cancelled _ => "cancelled"
  | .invalidConfig _ | .gateway _ | .metrics _ | .io _ | .watch _ => "internal"

end ControllerError

/-- Why a single subsystem call was not completed. -/
inductive StepError
  | cancelled
  | failed (error : ServiceError)
  deriving DecidableEq, Repr

namespace StepError

/-- The wording of a step error, as it appears in conditions. -/
def message : StepError → String
  | .cancelled => "cancelled"
  | .failed error => error.message

/-- The error of the invocation in which a call was not completed. -/
def toControllerError (call : ServiceCall) : StepError → ControllerError
  | .cancelled => .cancelled call.subsystem
  | .failed source =>
    match call.action with
    | .reconcile => .service call.subsystem source
    | .delete => .serviceDeletion call.subsystem source

end StepError

end ClusterInfra
