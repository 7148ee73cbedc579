import ClusterInfra.Dict
/-!
JSON documents.

Whole numbers and numbers written with a fraction or an exponent are kept apart: a reader of whole
numbers refuses the latter. Objects are lists of members in the order in which they were written;
`Json.canonical` sorts them and lets the last of several members of one name win, and documents
that this library writes are canonical from the start.
-/

namespace ClusterInfra

inductive Json where
  | null
  | bool (value : Bool)
  | int (value : Int)
  /-- A number that is not written as a whole one: `mantissa * 10 ^ exponent`. -/
  | decimal (mantissa exponent : Int)
  | str (value : String)
  | arr (items : List Json)
  | obj (members : List (String × Json))
  deriving Inhabited

namespace Json

mutual

/-- Equality of documents is decided along their structure. -/
def decEq : (a b : Json) → Decidable (a = b)
  | .null, .null => isTrue rfl
  | .bool a, .bool b => decidable_of_iff (a = b) (by simp)
  | .int a, .int b => decidable_of_iff (a = b) (by simp)
  | .decimal m e, .decimal n f => decidable_of_iff (m = n ∧ e = f) (by simp)
  | .str a, .str b => decidable_of_iff (a = b) (by simp)
  | .arr a, .arr b => match decEqItems a b with
    | isTrue h => isTrue (by rw [h])
    | isFalse h => isFalse (by simpa using h)
  | .obj a, .obj b => match decEqMembers a b with
    | isTrue h => isTrue (by rw [h])
    | isFalse h => isFalse (by simpa using h)
  | .null, .bool _ | .null, .int _ | .null, .decimal _ _ | .null, .str _ | .null, .arr _
  | .null, .obj _ | .bool _, .null | .bool _, .int _ | .bool _, .decimal _ _ | .bool _, .str _
  | .bool _, .arr _ | .bool _, .obj _ | .int _, .null | .int _, .bool _ | .int _, .decimal _ _
  | .int _, .str _ | .int _, .arr _ | .int _, .obj _ | .decimal _ _, .null | .decimal _ _, .bool _
  | .decimal _ _, .int _ | .decimal _ _, .str _ | .decimal _ _, .arr _ | .decimal _ _, .obj _
  | .str _, .null | .str _, .bool _ | .str _, .int _ | .str _, .decimal _ _ | .str _, .arr _
  | .str _, .obj _ | .arr _, .null | .arr _, .bool _ | .arr _, .int _ | .arr _, .decimal _ _
  | .arr _, .str _ | .arr _, .obj _ | .obj _, .null | .obj _, .bool _ | .obj _, .int _
  | .obj _, .decimal _ _ | .obj _, .str _ | .obj _, .arr _ => isFalse (by simp)

/-- Lists of documents are compared item by item. -/
def decEqItems : (a b : List Json) → Decidable (a = b)
  | [], [] => isTrue rfl
  | [], _ :: _ => isFalse (by simp)
  | _ :: _, [] => isFalse (by simp)
  | a :: as, b :: bs => match decEq a b, decEqItems as bs with
    | isTrue h, isTrue hs => isTrue (by rw [h, hs])
    | isFalse h, _ => isFalse (by simp [h])
    | _, isFalse h => isFalse (by simp [h])

/-- Members are compared by name and value. -/
def decEqMembers : (a b : List (String × Json)) → Decidable (a = b)
  | [], [] => isTrue rfl
  | [], _ :: _ => isFalse (by simp)
  | _ :: _, [] => isFalse (by simp)
  | (k, a) :: as, (l, b) :: bs => match decEq a b, decEqMembers as bs with
    | isTrue h, isTrue hs => decidable_of_iff (k = l) (by simp [h, hs])
    | isFalse h, _ => isFalse (by simp [h])
    | _, isFalse h => isFalse (by simp [h])

end

instance : DecidableEq Json := decEq

mutual

/-- The document with every object in key order and without repeated members. -/
def canonical : Json → Json
  | .arr items => .arr (canonicalItems items)
  | .obj members => .obj (canonicalMembers members [])
  | document => document

/-- Every item made canonical. -/
def canonicalItems : List Json → List Json
  | [] => []
  | item :: rest => canonical item :: canonicalItems rest

/-- The members made canonical and sorted into those already read. -/
def canonicalMembers : List (String × Json) → Entries Json → Entries Json
  | [], sorted => sorted
  | (name, value) :: rest, sorted => canonicalMembers rest (sorted.insert name (canonical value))

end

/-- Every object of the document has its names in strictly increasing order. -/
inductive Ordered : Json → Prop
  | null : Ordered .null
  | bool (value : Bool) : Ordered (.bool value)
  | int (value : Int) : Ordered (.int value)
  | decimal (mantissa exponent : Int) : Ordered (.decimal mantissa exponent)
  | str (value : String) : Ordered (.str value)
  | arr {items : List Json} (h : ∀ item ∈ items, Ordered item) : Ordered (.arr items)
  | obj {members : Entries Json} (sorted : members.Sorted)
      (h : ∀ member ∈ members, Ordered member.2) : Ordered (.obj members)

mutual

theorem ordered_canonical : ∀ document : Json, document.canonical.Ordered
  | .null => .null
  | .bool value => .bool value
  | .int value => .int value
  | .decimal mantissa exponent => .decimal mantissa exponent
  | .str value => .str value
  | .arr items => .arr (ordered_canonicalItems items)
  | .obj members =>
    have h := ordered_canonicalMembers members [] Entries.sorted_nil fun _ hmem => nomatch hmem
    .obj h.1 h.2

theorem ordered_canonicalItems : ∀ items : List Json, ∀ item ∈ canonicalItems items, item.Ordered
  | [], _, hmem => nomatch hmem
  | first :: rest, item, hmem => by
    rcases List.mem_cons.1 hmem with rfl | hmem
    · exact ordered_canonical first
    · exact ordered_canonicalItems rest item hmem

theorem ordered_canonicalMembers : ∀ (members : List (String × Json)) (sorted : Entries Json),
    sorted.Sorted → (∀ member ∈ sorted, Ordered member.2) →
      (canonicalMembers members sorted).Sorted ∧
        ∀ member ∈ canonicalMembers members sorted, Ordered member.2
  | [], _, hsorted, hordered => ⟨hsorted, hordered⟩
  | (name, value) :: rest, sorted, hsorted, hordered => by
    refine ordered_canonicalMembers rest _ (hsorted.insert name value.canonical) ?_
    intro member hmem
    rcases Entries.mem_insert hmem with rfl | hmem
    · exact ordered_canonical value
    · exact hordered member hmem

end

theorem canonical_ne_null {document : Json} (h : document ≠ .null) : document.canonical ≠ .null := by
  cases document <;> simp_all [canonical]

/-- The member of an object; nothing for any other document. -/
def member? (name : String) : Json → Option Json
  | .obj members => Entries.find? name members
  | _ => none

/-- The double that is nearest to a number. -/
def float? : Json → Option Float
  | .int n => some (if n < 0 then -Float.ofNat n.natAbs else Float.ofNat n.natAbs)
  | .decimal m e =>
    let size := Float.ofScientific m.natAbs (e < 0) e.natAbs
    some (if m < 0 then -size else size)
  | _ => none

end Json

end ClusterInfra
