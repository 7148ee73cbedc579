import ClusterInfra.Metrics.Exposition
/-!
The server for metrics and health checks.

There are three pages. A page can be fetched by `GET` and, without its body, by `HEAD`; what stands
after a question mark does not matter.
-/

namespace ClusterInfra.MetricsServer

/-- The answer to a request. -/
structure Answer where
  status : Nat
  contentType : Option String
  body : String
  deriving DecidableEq, Repr

/-- The page at a path: its content type and its body. -/
def page? (registry : Registry) : String → Option (String × String)
  | "/metrics" => some ("text/plain; version=0.0.4", registry.render)
  | "/healthz" | "/readyz" => some ("text/plain; charset=utf-8", "ok")
  | _ => none

/-- The part of a request target before the query and the fragment. -/
def pathOf (target : String) : String :=
  String.ofList (target.toList.takeWhile fun c => c ≠ '?' && c ≠ '#')

/-- Answers a request. -/
def answer (registry : Registry) (method target : String) : Answer :=
  match page? registry (pathOf target) with
  | none => ⟨404, none, ""⟩
  | some (contentType, body) =>
    if method = "GET" then ⟨200, some contentType, body⟩
    else if method = "HEAD" then ⟨200, some contentType, ""⟩
    else ⟨405, none, ""⟩

/-- Listens on an address and serves until told to stop; an address can be listened on once. -/
def serve (taken : Bool) : Except ControllerError Unit :=
  if taken then .error (.io "Address already in use (os error 98)") else .ok ()

end ClusterInfra.MetricsServer
