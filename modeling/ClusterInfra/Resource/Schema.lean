import ClusterInfra.Dict
import ClusterInfra.Json.Basic
/-!
Schemas of resource types, as a Kubernetes API server wants to be told them.

A schema says what the JSON form of a type looks like. For the fields of a record it also says what
a missing field means: some are required, some may be `null`, and some have a default, which is
published only if the field is written even where it holds the default.
-/

namespace ClusterInfra

/-- What it means that a field is missing. -/
inductive Presence
  /-- It has to be there. -/
  | required
  /-- There is no value; `null` says the same. -/
  | optional
  /-- It has this value. -/
  | defaulted (value : Json)
  /-- It is empty, and an empty value is not written. -/
  | skipped

/-- What is said about a field besides the schema of its values. -/
structure FieldInfo where
  name : String
  description : Option String := none
  presence : Presence := .required

/-- The JSON form of a type. -/
inductive Schema where
  | boolean
  | int32
  | text
  | time
  /-- One of some texts. -/
  | oneOf (texts : List String)
  | listOf (items : Schema)
  | dictOf (values : Schema)
  | record (fields : List (FieldInfo × Schema))

namespace FieldInfo

/-- What a field adds to the schema of its values. -/
def members (field : FieldInfo) : Entries Json :=
  (field.description.toList.map fun text => ("description", Json.str text))
  ++ match field.presence with
    | .required | .skipped => []
    | .optional => [("nullable", .bool true)]
    | .defaulted value => [("default", value)]

/-- Whether a field has to be there. -/
def isRequired (field : FieldInfo) : Bool :=
  match field.presence with
  | .required => true
  | _ => false

end FieldInfo

namespace Schema

/-- The member that names the type of a schema. -/
def typed (type : String) : Entries Json := [("type", .str type)]

/-- The member that lists the required fields, if there are any. -/
def requiredMember (fields : List (FieldInfo × Schema)) : Entries Json :=
  let names := (fields.filter (·.1.isRequired)).map (·.1.name)
  if names.isEmpty then [] else [("required", .arr (names.map .str))]

mutual

/-- The members of a schema. -/
def members : Schema → Entries Json
  | boolean => typed "boolean"
  | int32 => ("format", .str "int32") :: typed "integer"
  | text => typed "string"
  | time => ("format", .str "date-time") :: typed "string"
  | oneOf texts => ("enum", .arr (texts.map .str)) :: typed "string"
  | listOf items => ("items", .obj (members items).sort) :: typed "array"
  | dictOf values => ("additionalProperties", .obj (members values).sort) :: typed "object"
  | record fields =>
    ("properties", .obj (properties fields).sort) :: requiredMember fields ++ typed "object"

/-- The properties of a record. -/
def properties : List (FieldInfo × Schema) → Entries Json
  | [] => []
  | (field, schema) :: rest =>
    (field.name, .obj (members schema ++ field.members).sort) :: properties rest

end

/-- The document of a schema, with more members. -/
def toJson (schema : Schema) (more : Entries Json) : Json :=
  .obj (schema.members ++ more).sort

end Schema

end ClusterInfra
