import ClusterInfra.Json.Basic
import ClusterInfra.Text.Digit
/-!
Paths into JSON documents.

A pointer is a list of tokens, outermost first. A token names a member of an object or, written as
a plain decimal number, an item of a list. Every operation here fails (`none`) where its path leads
nowhere, and otherwise touches nothing outside that path.
-/

namespace ClusterInfra.Json

/-- A path into a document. -/
abbrev Pointer := List String

namespace Pointer

/-- How a token is written: a tilde and a slash are escaped. -/
def escape (token : String) : String :=
  String.ofList (token.toList.flatMap fun c =>
    if c = '~' then ['~', '0'] else if c = '/' then ['~', '1'] else [c])

/-- The text of a pointer: each token after a slash. -/
def text (pointer : Pointer) : String :=
  String.join (pointer.map fun token => "/" ++ escape token)

end Pointer

/-- The index that a token writes: decimal digits without a leading zero. -/
def index? (token : String) : Option Nat :=
  let digits := token.toList
  if digits.isEmpty || !digits.all Char.isDigit then none
  else if digits.head? = some '0' && digits.length ≠ 1 then none
  else some (Text.decimalValue digits)

/-- The member or item that a token selects. -/
def child? (token : String) : Json → Option Json
  | .obj members => Entries.find? token members
  | .arr items => (index? token).bind fun i => items[i]?
  | _ => none

/-- Puts a value in place of the member or item that a token selects. -/
def setChild? (token : String) (value : Json) : Json → Option Json
  | .obj members =>
    if (Entries.find? token members).isSome then some (.obj (Entries.insert token value members))
    else none
  | .arr items => (index? token).bind fun i =>
    if i < items.length then some (.arr (items.set i value)) else none
  | _ => none

/-- Adds a member, in place of one of that name, or an item in front of the one at that index; the
token `-` and the length of the list both stand for its end. -/
def addChild? (token : String) (value : Json) : Json → Option Json
  | .obj members => some (.obj (Entries.insert token value members))
  | .arr items =>
    if token = "-" then some (.arr (items ++ [value]))
    else (index? token).bind fun i =>
      if i ≤ items.length then some (.arr (items.take i ++ value :: items.drop i)) else none
  | _ => none

/-- Takes a member or item out. -/
def removeChild? (token : String) : Json → Option Json
  | .obj members =>
    if (Entries.find? token members).isSome then some (.obj (Entries.erase token members))
    else none
  | .arr items => (index? token).bind fun i =>
    if i < items.length then some (.arr (items.eraseIdx i)) else none
  | _ => none

/-- Changes the part that a token selects. -/
def descend? (token : String) (change : Json → Option Json) (document : Json) : Option Json := do
  let part ← child? token document
  setChild? token (← change part) document

/-- The part of a document at a path. -/
def get? : Pointer → Json → Option Json
  | [], document => some document
  | token :: rest, document => (child? token document).bind (get? rest)

/-- Adds a value at a path whose parent exists. -/
def add? (value : Json) : Pointer → Json → Option Json
  | [], _ => some value
  | [token], document => addChild? token value document
  | token :: next :: rest, document => descend? token (add? value (next :: rest)) document

/-- Takes the part at a path out. -/
def remove? : Pointer → Json → Option Json
  | [], _ => none
  | [token], document => removeChild? token document
  | token :: next :: rest, document => descend? token (remove? (next :: rest)) document

/-- Puts a value in place of the part at a path. -/
def replace? (value : Json) : Pointer → Json → Option Json
  | [], _ => some value
  | token :: rest, document => descend? token (replace? value rest) document

end ClusterInfra.Json
