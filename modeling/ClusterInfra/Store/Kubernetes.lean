import ClusterInfra.Http.Message
import ClusterInfra.Json.Parser
import ClusterInfra.Resource.Definition
import ClusterInfra.Service.Error
import ClusterInfra.Store.Changes
/-!
The object store behind a Kubernetes API server.

Objects are fetched and patched by requests to the server. A change is persisted like in memory:
first the status, at an address of its own, and then finalizer and spec, guarded by the version
that the server answered to the first patch.
-/

namespace ClusterInfra

/-- A request to the API server. -/
structure ApiRequest where
  method : Http.Method
  uri : String
  contentType : Option String
  body : Option Json.Patch
  deriving DecidableEq

/-- A response of the API server; there is no body where the bytes are not text. -/
structure ApiResponse where
  status : Nat
  body : Option String
  deriving DecidableEq, Repr

/-- An API server, as a function of its state. -/
abbrev ApiServer (τ : Type) := ApiRequest → τ → ApiResponse × τ

namespace Kubernetes

/-- The name under which the server keeps what this controller wrote. -/
def fieldManager : String := "awscluster-controller"

/-- The namespace of objects that name none. -/
def defaultNamespace : String := "default"

/-! ### Addresses -/

/-- Whether a character may stand in the path of an address. -/
def isPathChar (c : Char) : Bool :=
  let n := c.toNat
  n = 0x21 || n = 0x22 || (0x24 ≤ n && n ≤ 0x3B) || n = 0x3D || (0x40 ≤ n && n ≤ 0x5F)
    || 0x61 ≤ n

/-- Whether a character may stand in the query of an address. -/
def isQueryChar (c : Char) : Bool :=
  let n := c.toNat
  n = 0x21 || (0x24 ≤ n && n ≤ 0x3B) || n = 0x3D || 0x3F ≤ n

/-- The address that a text writes, without what follows a number sign. -/
def uri? (text : String) : Option String :=
  let visible := text.toList.takeWhile (· ≠ '#')
  let path := visible.takeWhile (· ≠ '?')
  let query := visible.drop (path.length + 1)
  if path.all isPathChar && query.all isQueryChar then some (String.ofList visible) else none

/-- The path of the objects of a kind, in one namespace or in all of them. -/
def listPath (definition : ResourceDefinition) (ns : Option String) : String :=
  "/apis/" ++ definition.group ++ "/" ++ apiVersionName ++ "/"
    ++ ns.elim "" (fun ns => "namespaces/" ++ ns ++ "/") ++ definition.plural

/-- The path of an object; there is none without a name. -/
def objectPath? (definition : ResourceDefinition) (key : ObjectKey) : Option String :=
  if key.name.isEmpty then none
  else some (listPath definition (some key.ns) ++ "/" ++ key.name)

/-! ### Requests -/

/-- The request that fetches an object. -/
def getRequest? (definition : ResourceDefinition) (key : ObjectKey) : Option ApiRequest := do
  let uri ← uri? (← objectPath? definition key)
  return { method := .get, uri, contentType := none, body := none }

/-- The request that patches an `AWSCluster`, or the part of it at a path of its own. -/
def patchRequest? (key : ObjectKey) (part : String) (patch : Json.Patch) : Option ApiRequest := do
  let path ← objectPath? .awsCluster key
  let uri ← uri? (path ++ part ++ "?&fieldManager=" ++ fieldManager)
  return { method := .patch, uri, contentType := some "application/json-patch+json",
           body := some patch }

/-! ### Responses -/

/-- Whether the server refused a request. -/
def isFailure (response : ApiResponse) : Bool := 400 ≤ response.status && response.status < 600

/-- The status that a refusal is explained by. -/
def readStatus? (body : String) : Option KubeError := do
  let document ← (Json.parse body).toOption
  let fields ← Record.fields? ["status", "message", "reason", "code"] 4 document
  let _ ← Record.required (α := String) fields "status"
  let message ← Record.defaulted fields "message" ""
  let reason ← Record.defaulted fields "reason" ""
  match fields "code" with
  | some (.int code) =>
    if 0 ≤ code ∧ code.toNat < UInt16.size then some (.refused code.toNat reason message) else none
  | _ => none

/-- The object of a response, or why there is none. -/
def readObject (α : Type) [Codec α] (response : ApiResponse) : Except KubeError α :=
  match response.body with
  | none => .error .unreadable
  | some body =>
    if isFailure response then
      .error ((readStatus? body).getD
        (.refused response.status "Failed to parse error data" body))
    else
      match (Json.parse body).toOption.bind Codec.decode? with
      | some object => .ok object
      | none => .error .unreadable

/-! ### The store -/

variable {τ : Type}

/-- Sends a request, if there is one, and reads the object of the response. -/
def ask (α : Type) [Codec α] (server : ApiServer τ) (request? : Option ApiRequest) (state : τ) :
    Except KubeError α × τ :=
  match request? with
  | none => (.error .unsendable, state)
  | some request =>
    let (response, state) := server request state
    (readObject α response, state)

/-- Fetches an object; nothing if the server does not know it. -/
def get (α : Type) [Codec α] (definition : ResourceDefinition) (server : ApiServer τ)
    (key : ObjectKey) (state : τ) : Except ControllerError (Option α) × τ :=
  match ask α server (getRequest? definition key) state with
  | (.ok object, state) => (.ok (some object), state)
  | (.error (.refused code reason text), state) =>
    if reason = "NotFound" then (.ok none, state)
    else (.error (.kube (.refused code reason text)), state)
  | (.error e, state) => (.error (.kube e), state)

/-- Fetches an `AWSCluster`. -/
def getAwsCluster (server : ApiServer τ) (key : ObjectKey) (state : τ) :
    Except ControllerError (Option AwsCluster) × τ :=
  get AwsCluster .awsCluster server key state

/-- Fetches a `Cluster`. -/
def getCluster (server : ApiServer τ) (key : ObjectKey) (state : τ) :
    Except ControllerError (Option Cluster) × τ :=
  get Cluster .cluster server key state

/-- Applies a patch, if there is one. Returns the version after it: the one that the server answers,
or the given one where there is nothing to write. -/
def write (server : ApiServer τ) (key : ObjectKey) (part : String) (version : Option String)
    (patch? : Option Json.Patch) (state : τ) : Except ControllerError (Option String) × τ :=
  match patch? with
  | none => (.ok version, state)
  | some patch =>
    match ask AwsCluster server (patchRequest? key part patch) state with
    | (.ok updated, state) => (.ok updated.metadata.resourceVersion, state)
    | (.error e, state) => (.error (.kube e), state)

/-- Persists the difference between two states of an object. -/
def persist (server : ApiServer τ) (before after : AwsCluster) (state : τ) :
    Except ControllerError (Option String) × τ :=
  match after.metadata.name with
  | none => (.error (.invalidScope "AWSCluster has no name"), state)
  | some name =>
    let key : ObjectKey := ⟨after.metadata.ns.getD defaultNamespace, name⟩
    let version := before.metadata.resourceVersion
    match write server key "/status" version (Changes.statusPatch? before after version) state with
    | (.error e, state) => (.error e, state)
    | (.ok version, state) =>
      write server key "" version (Changes.objectPatch? before after version) state

end Kubernetes

end ClusterInfra
