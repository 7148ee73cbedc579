import ClusterInfra.Proofs.Json.Members
/-!
Codecs that lose nothing.

The documents that such a codec writes are in key order, none of them is `null`, and each reads back
as the value that was written. Lists and dictionaries of such values are of the kind again, and so
is a record whose members are written in the order of their names: whatever is not written reads as
nothing, or as the default that it was left out for.
-/

namespace ClusterInfra

open Json

mutual

/-- A document in key order is canonical. -/
theorem Json.Ordered.canonical_eq : ∀ {document : Json}, document.Ordered →
    document.canonical = document
  | .null, _ => rfl
  | .bool _, _ => rfl
  | .int _, _ => rfl
  | .decimal _ _, _ => rfl
  | .str _, _ => rfl
  | .arr items, .arr h => by rw [canonical, canonicalItems_eq items h]
  | .obj members, .obj hsorted h => by rw [canonical, canonicalMembers_eq members [] hsorted h]; rfl

theorem Json.canonicalItems_eq : ∀ items : List Json, (∀ item ∈ items, item.Ordered) →
    canonicalItems items = items
  | [], _ => rfl
  | item :: rest, h => by
    rw [canonicalItems, (h item List.mem_cons_self).canonical_eq,
      canonicalItems_eq rest fun other hmem => h other (List.mem_cons_of_mem _ hmem)]

theorem Json.canonicalMembers_eq : ∀ (members : List (String × Json)) (front : Entries Json),
    Entries.Sorted (front ++ members) → (∀ member ∈ members, Ordered member.2) →
      canonicalMembers members front = front ++ members
  | [], front, _, _ => (List.append_nil front).symm
  | (name, value) :: rest, front, hsorted, h => by
    have hlast : ∀ entry ∈ front, entry.1 < name := fun entry he =>
      (List.pairwise_append.1 hsorted).2.2 entry he (name, value) List.mem_cons_self
    have hvalue : value.canonical = value := (h (name, value) List.mem_cons_self).canonical_eq
    rw [List.append_cons] at hsorted ⊢
    rw [canonicalMembers, hvalue, Entries.insert_eq_append hlast]
    exact canonicalMembers_eq rest _ hsorted fun member hmem => h member (List.mem_cons_of_mem _ hmem)

end

/-- Every value is written as a document in key order other than `null`, and read back from it. -/
class Codec.Faithful (α : Type) [Codec α] : Prop extends Codec.Lossless α where
  ordered : ∀ value : α, (Codec.encode value).Ordered

namespace Codec

variable {α : Type} [Codec α]

instance : Faithful String where
  toLossless := lossless_string
  ordered _ := .str _

instance : Faithful Bool where
  decode?_encode _ := rfl
  encode_ne_null _ := by simp [encode]
  ordered _ := .bool _

instance : Faithful Int32 where
  decode?_encode n := by
    have hlow : -Int.pow 2 31 ≤ n.toInt := n.le_toInt
    have hhigh : n.toInt < Int.pow 2 31 := n.toInt_lt
    simp only [encode, decode?]
    rw [if_pos ⟨hlow, hhigh⟩, Int32.ofInt_toInt]
  encode_ne_null _ := by simp [encode]
  ordered _ := .int _

instance : Faithful Int64 where
  decode?_encode n := by
    have hlow : -Int.pow 2 63 ≤ n.toInt := n.le_toInt
    have hhigh : n.toInt < Int.pow 2 63 := n.toInt_lt
    simp only [encode, decode?]
    rw [if_pos ⟨hlow, hhigh⟩, Int64.ofInt_toInt]
  encode_ne_null _ := by simp [encode]
  ordered _ := .int _

instance : Faithful Json.Content where
  decode?_encode content := by
    obtain ⟨document, hordered, hnull⟩ := content
    simp only [encode, decode?]
    rw [dif_neg hnull]
    congr
    exact hordered.canonical_eq
  encode_ne_null content := content.property.2
  ordered content := content.property.1

instance [Faithful α] : Faithful (List α) where
  toLossless := lossless_list Faithful.toLossless
  ordered values := .arr fun item hmem => by
    obtain ⟨value, -, rfl⟩ := List.mem_map.1 hmem
    exact Faithful.ordered value

instance [Faithful α] : Faithful (Dict α) where
  decode?_encode dict := by
    have hread : ∀ entries : Entries α,
        (entries.map fun entry => (entry.1, encode entry.2)).mapM
          (fun entry => (decode? entry.2 : Option α).map (entry.1, ·)) = some entries := by
      intro entries
      induction entries with
      | nil => rfl
      | cons entry rest ih =>
        rw [List.map_cons, List.mapM_cons, ih, Faithful.toLossless.decode?_encode]
        rfl
    have hsort : dict.entries.sort = dict.entries :=
      Entries.foldl_insert_eq_append dict.entries [] dict.sorted
    simp only [encode, decode?]
    rw [hread, Option.bind_eq_bind, Option.bind_some, Dict.ofEntries]
    congr
  encode_ne_null _ := by simp [encode]
  ordered dict := by
    refine .obj ?_ fun member hmem => ?_
    · have hsorted := dict.sorted
      rw [Entries.Sorted] at hsorted ⊢
      rw [List.pairwise_map]
      exact hsorted
    · obtain ⟨entry, -, rfl⟩ := List.mem_map.1 hmem
      exact Faithful.ordered entry.2

end Codec

namespace Record

open Codec (Faithful)

/-- Reading goes on with a field that reads as it should. -/
theorem read_next {α β : Type} {read : Option α} {value : α} {next : α → Option β}
    {result : Option β} (h : read = some value) (hnext : next value = result) :
    read.bind next = result := by
  rw [h]
  exact hnext

variable {α : Type} [Codec α] [Faithful α]

/-! ### Members that are written -/

/-- Members in the order of their names, which are among the given ones. -/
structure Written (names : List String) (members : List (String × Json)) : Prop where
  names : (members.map (·.1)).Sublist names
  ordered : ∀ member ∈ members, Ordered member.2

theorem written_member (name : String) (value : α) : Written [name] (member name value) where
  names := names_member name value
  ordered entry hmem := by
    cases List.mem_singleton.1 hmem
    exact Faithful.ordered value

theorem written_nil (names : List String) : Written names [] :=
  ⟨List.nil_sublist names, fun _ hmem => nomatch hmem⟩

theorem written_memberIfSome (name : String) : ∀ value : Option α,
    Written [name] (memberIfSome name value)
  | some value => written_member name value
  | none => written_nil [name]

theorem written_memberUnless (skip : Bool) (name : String) (value : α) :
    Written [name] (memberUnless skip name value) := by
  cases skip
  · exact written_member name value
  · exact written_nil [name]

namespace Written

variable {names names' : List String} {members members' : List (String × Json)} {least : Nat}

theorem append (h : Written names members) (h' : Written names' members') :
    Written (names ++ names') (members ++ members') where
  names := names_append h.names h'.names
  ordered entry hmem := (List.mem_append.1 hmem).elim (h.ordered entry) (h'.ordered entry)

theorem sorted (h : Written names members) (hnames : names.Pairwise (· < ·)) :
    Entries.Sorted members :=
  Entries.sorted_of_sublist h.names hnames

theorem obj (h : Written names members) (hnames : names.Pairwise (· < ·)) :
    Ordered (.obj members) :=
  .obj (h.sorted hnames) h.ordered

end Written

/-! ### Members that are read -/

/-- No name occurs twice among sorted members. -/
theorem occurrences_le_one {members : Entries Json} (h : members.Sorted) (name : String) :
    occurrences name members ≤ 1 := by
  induction members with
  | nil => exact Nat.zero_le 1
  | cons member rest ih =>
    obtain ⟨hlt, hrest⟩ := List.pairwise_cons.1 h
    rw [occurrences, List.countP_cons]
    split
    next hname =>
      have hnone : rest.countP (fun other => other.1 = name) = 0 := by
        rw [List.countP_eq_zero]
        intro other hmem hother
        have hless := hlt other hmem
        rw [of_decide_eq_true hname, of_decide_eq_true hother] at hless
        exact String.lt_irrefl name hless
      omega
    next => exact ih hrest

theorem ofMembers?_of_sorted {members : Entries Json} (h : members.Sorted) (names : List String) :
    ofMembers? names members = some fun name => Entries.find? name members :=
  if_pos (List.all_eq_true.2 fun name _ => decide_eq_true (occurrences_le_one h name))

theorem looseFields?_of_sorted {members : Entries Json} (h : members.Sorted) :
    looseFields? (.obj members) = some fun name => Entries.find? name members := by
  rw [looseFields?]
  congr
  funext name
  exact h.find?_reverse

variable {fields : Fields} {name : String}

/-- An optional field reads back as it was written. -/
theorem optional_eq {value : Option α} (hfind : fields name = value.map Codec.encode) :
    optional fields name = some value :=
  optional_of_find? Faithful.toLossless hfind

/-- An optional field that is always written reads back as the value that was written. -/
theorem optional_eq_some {value : α} (hfind : fields name = some (Codec.encode value)) :
    optional fields name = some (some value) :=
  optional_eq hfind

theorem eq_some_of_getD {found : Option Json} {document : Json} (hne : document ≠ .null)
    (h : found.getD .null = document) : found = some document := by
  cases found with
  | none => exact absurd h.symm hne
  | some value => rw [← show value = document from h]

/-- An optional field may also be written as `null` where there is no value. -/
theorem optional_eq_of_getD {value : Option α}
    (hfind : (fields name).getD .null = value.elim .null Codec.encode) :
    optional fields name = some value := by
  cases value with
  | none =>
    cases hname : fields name with
    | none => exact optional_eq hname
    | some found =>
      rw [hname] at hfind
      rw [optional, hname, show found = .null from hfind]
  | some value =>
    exact optional_eq_some (eq_some_of_getD (Faithful.toLossless.encode_ne_null value) hfind)

/-- A required field reads back as the value that was written. -/
theorem required_eq {value : α} (hfind : fields name = some (Codec.encode value)) :
    required fields name = some value := by
  rw [required, hfind, Option.bind_some, Faithful.toLossless.decode?_encode]

/-- A field with a default reads back as the value that was written. -/
theorem defaulted_eq {value default : α}
    (hfind : fields name = some (Codec.encode value)) :
    defaulted fields name default = some value := by
  rw [defaulted, hfind]
  exact Faithful.toLossless.decode?_encode value

/-- A field that is left out where it holds the default reads back as the default. -/
theorem defaulted_eq_unless {value default : α} {skip : Bool}
    (hskip : skip = true → value = default)
    (hfind : fields name = if skip then none else some (Codec.encode value)) :
    defaulted fields name default = some value := by
  cases skip with
  | true => rw [defaulted, hfind, hskip rfl]; rfl
  | false => exact defaulted_eq hfind

/-- A record whose members are written in the order of their names loses nothing, if its fields are
read back from these members. -/
theorem faithful_of_written {ρ : Type} [Codec ρ] {names : List String}
    {members : ρ → List (String × Json)} (hwritten : ∀ record, Written names (members record))
    (hnames : names.Pairwise (· < ·))
    (hencode : ∀ record, Codec.encode record = .obj (members record))
    (hdecode : ∀ record, Entries.Sorted (members record) →
      Codec.decode? (.obj (members record)) = some record) : Faithful ρ where
  decode?_encode record := by
    rw [hencode]
    exact hdecode record ((hwritten record).sorted hnames)
  encode_ne_null record := by simp [hencode]
  ordered record := by
    rw [hencode]
    exact (hwritten record).obj hnames

end Record

end ClusterInfra
