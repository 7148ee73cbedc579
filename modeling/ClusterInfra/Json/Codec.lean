import ClusterInfra.Json.Basic
/-!
Values that have a JSON form.

A `Codec` writes a value as a document and reads it back. Reading is strict about kinds: text,
numbers and truth values are not converted into each other, and `null` stands for an absent value
only. The pieces below describe records, whose fields are required, optional, or replaced by a
default value where they are missing. A record may also be written as a list of its fields in their
fixed order, where fields at the end may be left out as long as they have a default.
-/

namespace ClusterInfra

/-- Values of a type have a JSON form. -/
class Codec (α : Type) where
  /-- The document that stands for a value. -/
  encode : α → Json
  /-- The value that a document stands for. -/
  decode? : Json → Option α

namespace Codec

variable {α : Type}

instance : Codec String where
  encode := .str
  decode?
    | .str text => some text
    | _ => none

instance : Codec Bool where
  encode := .bool
  decode?
    | .bool value => some value
    | _ => none

/-- Whole numbers of 32 bits. -/
instance : Codec Int32 where
  encode n := .int n.toInt
  decode?
    | .int n => if -Int.pow 2 31 ≤ n ∧ n < Int.pow 2 31 then some (Int32.ofInt n) else none
    | _ => none

/-- Whole numbers of 64 bits. -/
instance : Codec Int64 where
  encode n := .int n.toInt
  decode?
    | .int n => if -Int.pow 2 63 ≤ n ∧ n < Int.pow 2 63 then some (Int64.ofInt n) else none
    | _ => none

/-- Any document; what is kept of it is its canonical form. -/
instance : Codec Json where
  encode := id
  decode? document := some document.canonical

instance [Codec α] : Codec (List α) where
  encode values := .arr (values.map encode)
  decode?
    | .arr items => items.mapM decode?
    | _ => none

instance [Codec α] : Codec (Dict α) where
  encode dict := .obj (dict.entries.map fun (key, value) => (key, encode value))
  decode?
    | .obj members => do
      let entries ← members.mapM fun (key, value) => (decode? value).map (key, ·)
      return Dict.ofEntries entries
    | _ => none

end Codec

/-- A document in key order other than `null`, which would read as an absent value. -/
abbrev Json.Content := { document : Json // document.Ordered ∧ document ≠ .null }

/-- A document of any kind is kept by its canonical form. -/
instance : Codec Json.Content where
  encode content := content.val
  decode? document :=
    if h : document = .null then none
    else some ⟨document.canonical, document.ordered_canonical, Json.canonical_ne_null h⟩

/-! ### Records -/

/-- The fields of a record that is being read, by name. -/
abbrev Fields := String → Option Json

namespace Record

variable {α : Type}

/-- How often a name occurs among members. -/
def occurrences (name : String) (members : List (String × Json)) : Nat :=
  members.countP fun member => member.1 = name

/-- The fields of an object: names that are not of the record are passed over, and none of the
record's names may be repeated. -/
def ofMembers? (names : List String) (members : List (String × Json)) : Option Fields :=
  if names.all fun name => occurrences name members ≤ 1 then
    some fun name => Entries.find? name members
  else none

/-- The fields of a list: at least `least` of them, in the order of the names. -/
def ofItems? (names : List String) (least : Nat) (items : List Json) : Option Fields :=
  if least ≤ items.length && items.length ≤ names.length then
    some fun name => Entries.find? name (names.zip items)
  else none

/-- The fields of a document that writes a record with these names, of which the first `least` may
not be left out of a list. -/
def fields? (names : List String) (least : Nat) : Json → Option Fields
  | .obj members => ofMembers? names members
  | .arr items => ofItems? names least items
  | _ => none

/-- The fields of an object; of a repeated name the last counts. -/
def looseFields? : Json → Option Fields
  | .obj members => some fun name => Entries.find? name members.reverse
  | _ => none

/-- A field that has to be there. -/
def required [Codec α] (fields : Fields) (name : String) : Option α :=
  (fields name).bind Codec.decode?

/-- A field that may be missing, but not `null`. -/
def defaulted [Codec α] (fields : Fields) (name : String) (default : α) : Option α :=
  match fields name with
  | none => some default
  | some document => Codec.decode? document

/-- A field that may be missing or `null`. -/
def optional [Codec α] (fields : Fields) (name : String) : Option (Option α) :=
  match fields name with
  | none | some .null => some none
  | some document => (Codec.decode? document).map some

/-- A member that is always written. -/
def member [Codec α] (name : String) (value : α) : List (String × Json) :=
  [(name, Codec.encode value)]

/-- A member that is written where there is a value. -/
def memberIfSome [Codec α] (name : String) : Option α → List (String × Json)
  | some value => member name value
  | none => []

/-- A member that is written unless a test holds, such as that the value is empty. -/
def memberUnless [Codec α] (skip : Bool) (name : String) (value : α) : List (String × Json) :=
  if skip then [] else member name value

/-- A member that is written as `null` where there is no value. -/
def memberOrNull [Codec α] (name : String) : Option α → List (String × Json)
  | some value => member name value
  | none => [(name, .null)]

end Record

/-- The alternative that a document names: as a text, or as an object that holds the name alone
with the value `null`. -/
def Json.alternative? : Json → Option String
  | .str name => some name
  | .obj [(name, .null)] => some name
  | _ => none

end ClusterInfra
