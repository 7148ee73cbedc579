import ClusterInfra.Json.Patch
/-!
The difference of two documents, as a patch that takes the old one to the new one.

Objects are compared member by member: the members of the new object in their order, then the ones
that are gone. Lists are compared index by index: what the new list has beyond the old one is added
at its index, and what it lacks is removed at the index where it ends. Anything else that differs
is replaced.
-/

namespace ClusterInfra.Json

/-- Members of the old object that the new one lacks are removed. -/
def removedMembers (old new : List (String × Json)) : Patch :=
  (old.filter fun member => (Entries.find? member.1 new).isNone).map fun member =>
    .remove [member.1]

/-- Items that the new list has beyond the old one, which ends at an index. -/
def addedItems : Nat → List Json → Patch
  | _, [] => []
  | index, item :: rest => .add [toString index] item :: addedItems (index + 1) rest

mutual

/-- The patch that takes `old` to the given document. -/
def diff (old : Json) : Json → Patch
  | .obj new => match old with
    | .obj members => diffMembers members new ++ removedMembers members new
    | _ => [.replace [] (.obj new)]
  | .arr new => match old with
    | .arr items => diffItems 0 items new
    | _ => [.replace [] (.arr new)]
  | new => if old = new then [] else [.replace [] new]

/-- The differences in the members of the new object. -/
def diffMembers (old : List (String × Json)) : List (String × Json) → Patch
  | [] => []
  | (name, value) :: rest =>
    (match Entries.find? name old with
      | some before => (diff before value).map (Operation.under name)
      | none => [.add [name] value]) ++ diffMembers old rest

/-- The differences in the items from an index on. -/
def diffItems (index : Nat) (old : List Json) : List Json → Patch
  | [] => old.map fun _ => .remove [toString index]
  | item :: rest => match old with
    | [] => addedItems index (item :: rest)
    | before :: old =>
      (diff before item).map (Operation.under (toString index)) ++ diffItems (index + 1) old rest

end

end ClusterInfra.Json
