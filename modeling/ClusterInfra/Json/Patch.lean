import ClusterInfra.Json.Pointer
/-!
JSON patches: lists of operations that apply to a document in order, all or none.
-/

namespace ClusterInfra.Json

/-- One step of a patch. -/
inductive Operation
  | add (path : Pointer) (value : Json)
  | remove (path : Pointer)
  | replace (path : Pointer) (value : Json)
  | test (path : Pointer) (value : Json)
  deriving DecidableEq

/-- Operations in the order in which they apply. -/
abbrev Patch := List Operation

namespace Operation

/-- Where an operation works. -/
def path : Operation → Pointer
  | .add path _ | .remove path | .replace path _ | .test path _ => path

/-- The operation on a part, said of the document that holds the part at a token. -/
def under (token : String) : Operation → Operation
  | .add path value => .add (token :: path) value
  | .remove path => .remove (token :: path)
  | .replace path value => .replace (token :: path) value
  | .test path value => .test (token :: path) value

/-- Why an operation fails. -/
inductive Refusal
  | mismatch
  | noSuchPath
  deriving DecidableEq, Repr

/-- The wording of a refusal. -/
def Refusal.text : Refusal → String
  | .mismatch => "value did not match"
  | .noSuchPath => "path is invalid"

/-- Applies one operation. -/
def apply (document : Json) : Operation → Except Refusal Json
  | .add path value => (add? value path document).elim (.error .noSuchPath) .ok
  | .remove path => (remove? path document).elim (.error .noSuchPath) .ok
  | .replace path value => (replace? value path document).elim (.error .noSuchPath) .ok
  | .test path value =>
    match get? path document with
    | none => .error .noSuchPath
    | some found => if found = value then .ok document else .error .mismatch

/-- The operation as a document. -/
def toJson : Operation → Json
  | .add path value =>
    .obj [("op", .str "add"), ("path", .str (Pointer.text path)), ("value", value)]
  | .remove path => .obj [("op", .str "remove"), ("path", .str (Pointer.text path))]
  | .replace path value =>
    .obj [("op", .str "replace"), ("path", .str (Pointer.text path)), ("value", value)]
  | .test path value =>
    .obj [("op", .str "test"), ("path", .str (Pointer.text path)), ("value", value)]

end Operation

namespace Patch

/-- A patch that did not apply: which operation failed, where and why. -/
structure Failure where
  index : Nat
  path : Pointer
  refusal : Operation.Refusal
  deriving DecidableEq

/-- The wording of a failure. -/
def Failure.message (failure : Failure) : String :=
  "operation '/" ++ toString failure.index ++ "' failed at path '" ++ failure.path.text ++ "': "
    ++ failure.refusal.text

/-- Applies the operations from a given number on. -/
def applyFrom : Nat → Patch → Json → Except Failure Json
  | _, [], document => .ok document
  | index, operation :: rest, document =>
    match operation.apply document with
    | .error refusal => .error ⟨index, operation.path, refusal⟩
    | .ok next => applyFrom (index + 1) rest next

/-- Applies a whole patch. -/
def apply (patch : Patch) (document : Json) : Except Failure Json :=
  applyFrom 0 patch document

/-- The patch as a document. -/
def toJson (patch : Patch) : Json := .arr (patch.map Operation.toJson)

end Patch

end ClusterInfra.Json
