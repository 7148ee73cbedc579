import ClusterInfra.Json.Basic
import ClusterInfra.Net.Url
/-!
Requests and responses of HTTP, and the transport between them.
-/

namespace ClusterInfra.Http

/-- What is asked of a resource. -/
inductive Method
  | get
  | put
  | delete
  | patch
  deriving DecidableEq, Repr

/-- The name of a method. -/
def Method.name : Method → String
  | .get => "GET"
  | .put => "PUT"
  | .delete => "DELETE"
  | .patch => "PATCH"

/-- A request with a document as its body. -/
structure Request where
  method : Method
  url : Net.Url
  authorization : String
  accept : String
  contentType : Option String
  body : Option Json
  deriving DecidableEq

/-- A response with a text as its body. -/
structure Response where
  status : Nat
  body : String
  deriving DecidableEq, Repr

/-- The usual reasons of status codes. -/
def reasons : List (Nat × String) :=
  [(100, "Continue"), (101, "Switching Protocols"), (102, "Processing"), (103, "Early Hints"),
   (200, "OK"), (201, "Created"), (202, "Accepted"), (203, "Non Authoritative Information"),
   (204, "No Content"), (205, "Reset Content"), (206, "Partial Content"), (207, "Multi-Status"),
   (208, "Already Reported"), (226, "IM Used"), (300, "Multiple Choices"),
   (301, "Moved Permanently"), (302, "Found"), (303, "See Other"), (304, "Not Modified"),
   (305, "Use Proxy"), (307, "Temporary Redirect"), (308, "Permanent Redirect"),
   (400, "Bad Request"), (401, "Unauthorized"), (402, "Payment Required"), (403, "Forbidden"),
   (404, "Not Found"), (405, "Method Not Allowed"), (406, "Not Acceptable"),
   (407, "Proxy Authentication Required"), (408, "Request Timeout"), (409, "Conflict"),
   (410, "Gone"), (411, "Length Required"), (412, "Precondition Failed"),
   (413, "Payload Too Large"), (414, "URI Too Long"), (415, "Unsupported Media Type"),
   (416, "Range Not Satisfiable"), (417, "Expectation Failed"), (418, "I'm a teapot"),
   (421, "Misdirected Request"), (422, "Unprocessable Entity"), (423, "Locked"),
   (424, "Failed Dependency"), (425, "Too Early"), (426, "Upgrade Required"),
   (428, "Precondition Required"), (429, "Too Many Requests"),
   (431, "Request Header Fields Too Large"), (451, "Unavailable For Legal Reasons"),
   (500, "Internal Server Error"), (501, "Not Implemented"), (502, "Bad Gateway"),
   (503, "Service Unavailable"), (504, "Gateway Timeout"), (505, "HTTP Version Not Supported"),
   (506, "Variant Also Negotiates"), (507, "Insufficient Storage"), (508, "Loop Detected"),
   (510, "Not Extended"), (511, "Network Authentication Required")]

/-- A status code with its reason. -/
def statusText (status : Nat) : String :=
  toString status ++ " " ++ ((reasons.lookup status).getD "<unknown status code>")

namespace Response

/-- Whether the request succeeded. -/
def isSuccess (response : Response) : Bool := 200 ≤ response.status && response.status < 300

/-- Whether the resource does not exist. -/
def isNotFound (response : Response) : Bool := response.status = 404

/-- Whether the request was not at fault: an error of the server, or too many requests. -/
def isTransient (response : Response) : Bool :=
  (500 ≤ response.status && response.status < 600) || response.status = 429

end Response

/-- Why there is no response. -/
inductive TransportError
  /-- None came in time. -/
  | timeout
  /-- No connection could be made. -/
  | unreachable
  /-- The connection broke. -/
  | broken
  deriving DecidableEq, Repr

/-- Whether a request may be sent again after an error. -/
def TransportError.isTransient : TransportError → Bool
  | .timeout | .unreachable => true
  | .broken => false

/-- What carries requests. -/
structure Transport (τ : Type) where
  send : Request → τ → Except TransportError Response × τ
  /-- Waits for some milliseconds. -/
  pause : Nat → τ → τ

end ClusterInfra.Http
