import ClusterInfra.Http.Message
import ClusterInfra.Json.Codec
import ClusterInfra.Json.Parser
import ClusterInfra.Service.Error
/-!
A client for documents behind a base URL, with a token.

A request that fails for no fault of its own is sent again after a pause, twice at most. The last
answer then decides: a document, a missing resource, or an error.
-/

namespace ClusterInfra.Http

/-- A client: where it sends requests, and the token that it shows. -/
structure Client where
  baseUrl : String
  token : String
  deriving DecidableEq, Repr

/-- What comes out of an exchange, and the state of the transport after it. -/
abbrev Exchange (τ α : Type) := Except ServiceError α × τ

namespace Client

/-- A client for a base URL; slashes at its end do not count. -/
def of (baseUrl token : String) : Client :=
  { baseUrl := String.ofList (baseUrl.toList.reverse.dropWhile (· = '/')).reverse, token }

/-- The URL of a path: a path that starts like a URL is one already. -/
def urlText (client : Client) (path : String) : String :=
  if path.startsWith "http" then path else client.baseUrl ++ path

/-- The header that shows the token. -/
def authorization (client : Client) : String := "Bearer " ++ client.token

/-- Whether a text can be sent in a header: it holds no control characters but tabs. -/
def isHeaderValue (text : String) : Bool :=
  text.toList.all fun c => c = '\t' || (32 ≤ c.toNat && c.toNat ≠ 127)

/-- The request for a path, if one can be built. -/
def request? (client : Client) (method : Method) (path : String) (body : Option Json) :
    Option Request := do
  let url ← Net.Url.read? (client.urlText path)
  guard (isHeaderValue client.authorization)
  return {
    method, url, body
    authorization := client.authorization
    accept := "application/json"
    contentType := body.map fun _ => "application/json" }

/-- Whether a client can ask for a path: the path leads to a URL, and the token can be shown. -/
def CanAsk (client : Client) (path : String) : Prop :=
  (∃ url, Net.Url.read? (client.urlText path) = some url) ∧
    isHeaderValue client.authorization = true

/-- A request is the one of a client for a path: it goes to the URL that the path leads to, shows
the token, accepts JSON and brings a body as such. -/
structure Asks (client : Client) (method : Method) (path : String) (body : Option Json)
    (request : Request) : Prop where
  method : request.method = method
  url : Net.Url.read? (client.urlText path) = some request.url
  authorization : request.authorization = "Bearer " ++ client.token
  accept : request.accept = "application/json"
  contentType : request.contentType = body.map fun _ => "application/json"
  body : request.body = body

section Request

variable {client : Client} {method : Method} {path : String} {body : Option Json}
  {request : Request}

theorem Asks.unique {other : Request} (h : client.Asks method path body request)
    (hother : client.Asks method path body other) : request = other := by
  have hurl := Option.some.inj (h.url.symm.trans hother.url)
  cases request
  cases other
  rw [Request.mk.injEq]
  exact ⟨h.method.trans hother.method.symm, hurl, h.authorization.trans hother.authorization.symm,
    h.accept.trans hother.accept.symm, h.contentType.trans hother.contentType.symm,
    h.body.trans hother.body.symm⟩

theorem CanAsk.exists_request (h : client.CanAsk path) (method : Method) (body : Option Json) :
    ∃ request, client.request? method path body = some request ∧
      client.Asks method path body request := by
  obtain ⟨⟨url, hurl⟩, hshown⟩ := h
  rw [request?, hurl, hshown]
  exact ⟨_, rfl, rfl, hurl, rfl, rfl, rfl, rfl⟩

theorem request?_eq_none_iff : client.request? method path body = none ↔ ¬ client.CanAsk path := by
  constructor
  · intro hnone hcan
    obtain ⟨request, hrequest, -⟩ := hcan.exists_request method body
    cases hnone.symm.trans hrequest
  · intro hcannot
    rw [request?]
    cases hurl : Net.Url.read? (client.urlText path) with
    | none => rfl
    | some url =>
      cases hshown : isHeaderValue client.authorization with
      | false => rfl
      | true => exact absurd ⟨⟨url, hurl⟩, hshown⟩ hcannot

/-- A request is built exactly if the client can ask for the path, and then it is the one of the
client for it. -/
theorem request?_eq_some_iff : client.request? method path body = some request ↔
    client.CanAsk path ∧ client.Asks method path body request := by
  by_cases hcan : client.CanAsk path
  · obtain ⟨built, hbuilt, hasks⟩ := hcan.exists_request method body
    rw [hbuilt, Option.some.injEq, and_iff_right hcan]
    exact ⟨fun heq => heq ▸ hasks, hasks.unique⟩
  · rw [request?_eq_none_iff.2 hcan]
    exact iff_of_false nofun fun h => hcan h.1

end Request

/-- The pauses before a request is sent again, in milliseconds. -/
def pauses : List Nat := [200, 400]

/-- Whether an answer is one after which a request is sent again. -/
def isTransient : Except TransportError Response → Bool
  | .ok response => response.isTransient
  | .error error => error.isTransient

variable {τ : Type}

/-- Sends a request, and again after each of some pauses as long as the answer is transient. -/
def sendWith (transport : Transport τ) (request : Request) :
    (pauses : List Nat) → τ → Except TransportError Response × τ
  | [], state => transport.send request state
  | pause :: rest, state =>
    let (answer, state) := transport.send request state
    if isTransient answer then sendWith transport request rest (transport.pause pause state)
    else (answer, state)

/-- Sends a request to a path and returns the response, whatever its status. -/
def exchange (client : Client) (transport : Transport τ) (method : Method) (path : String)
    (body : Option Json) (state : τ) : Exchange τ Response :=
  match client.request? method path body with
  | none => (.error (.http "builder error"), state)
  | some request =>
    match sendWith transport request pauses state with
    | (.ok response, state) => (.ok response, state)
    | (.error _, state) =>
      (.error (.http ("error sending request for url (" ++ request.url.text ++ ")")), state)

/-- The error of a response that is no success. -/
def refusal (method : Method) (path : String) (response : Response) : ServiceError :=
  .api (method.name ++ " " ++ path ++ " failed: " ++ statusText response.status ++ " - "
    ++ response.body)

/-- Reads a document of a type from a text. -/
def readDocument (α : Type) [Codec α] (text : String) : Except String α :=
  match Json.parse text with
  | .error e => .error e.message
  | .ok document =>
    match Codec.decode? document with
    | some value => .ok value
    | none => .error "unexpected document"

/-- What a response holds. -/
def content (α : Type) [Codec α] (method : Method) (path : String) (response : Response) :
    Except ServiceError α :=
  if response.isSuccess then
    match readDocument α response.body with
    | .ok value => .ok value
    | .error reason =>
      .error (.api ("error decoding response body: " ++ reason
        ++ " - Response (first 500 chars): " ++ String.ofList (response.body.toList.take 500)))
  else .error (refusal method path response)

/-- Goes on with the response of an exchange. -/
def andThen {α : Type} (read : Response → Except ServiceError α) :
    Exchange τ Response → Exchange τ α
  | (.error e, state) => (.error e, state)
  | (.ok response, state) => (read response, state)

/-- Fetches a document. -/
def get (α : Type) [Codec α] (client : Client) (transport : Transport τ) (path : String)
    (state : τ) : Exchange τ α :=
  andThen (fun response =>
    if response.isNotFound then
      .error (.notFound ("Resource not found: " ++ path ++ " - " ++ response.body))
    else content α .get path response)
    (client.exchange transport .get path none state)

/-- Creates or updates a resource and returns the document that it answers with. -/
def put (α : Type) [Codec α] (client : Client) (transport : Transport τ) (path : String)
    (body : Json) (state : τ) : Exchange τ α :=
  andThen (content α .put path) (client.exchange transport .put path (some body) state)

/-- Deletes a resource; one that does not exist is deleted already. -/
def delete (client : Client) (transport : Transport τ) (path : String) (state : τ) :
    Exchange τ Unit :=
  andThen (fun response =>
    if response.isSuccess || response.isNotFound then .ok ()
    else .error (refusal .delete path response))
    (client.exchange transport .delete path none state)

end Client

end ClusterInfra.Http
