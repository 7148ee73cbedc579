import ClusterInfra.Proofs.Json.Shape
import ClusterInfra.Proofs.Resource.Faithful
/-!
The shapes of spec and status.

A type is shaped if its documents have a shape of which every document can be read, also one that
nobody wrote down as a whole. Numbers, texts and the like are leaves, lists and dictionaries of
shaped values are shaped, and so are records: each field has the shape of its type, and the required
ones are there.
-/

namespace ClusterInfra

open Json (Shape)

namespace Json.Shape

/-- No document has this shape. -/
def never : Shape := .leaf fun _ => False

/-- An object with fields of these names and shapes, and no others. -/
def record (required : List String) (fields : Entries Shape) : Shape :=
  .object required fun name => (Entries.find? name fields).getD never

end Json.Shape

namespace Codec

/-- The documents of a type have a shape, and all documents of this shape can be read. -/
class Shaped (α : Type) [Codec α] where
  shape : Shape
  fits : ∀ value : α, shape.Fits (encode value)
  reads : ∀ document, shape.Fits document → ∃ value : α, decode? document = some value

namespace Shaped

variable {α : Type} [Codec α]

/-- Values without parts are leaves. -/
abbrev ofLeaf [Faithful α] (h : ∀ value : α, (encode value).IsLeaf) : Shaped α where
  shape := .leaf fun document => ∃ value : α, document = encode value
  fits value := .leaf ⟨value, rfl⟩ (h value)
  reads document hfits := by
    cases hfits with
    | leaf h _ =>
      obtain ⟨value, rfl⟩ := h
      exact ⟨value, Faithful.toLossless.decode?_encode value⟩

instance : Shaped String := .ofLeaf fun _ => trivial
instance : Shaped Bool := .ofLeaf fun _ => trivial
instance : Shaped Int32 := .ofLeaf fun _ => trivial
instance : Shaped Instant := .ofLeaf fun _ => trivial
instance : Shaped ConditionStatus := .ofLeaf fun _ => trivial
instance : Shaped Severity := .ofLeaf fun _ => trivial

/-- A list is read if each item of it can be. -/
theorem exists_mapM {β γ : Type} {read : β → Option γ} : ∀ {items : List β},
    (∀ item ∈ items, ∃ value, read item = some value) → ∃ values, items.mapM read = some values
  | [], _ => ⟨[], rfl⟩
  | item :: rest, h => by
    obtain ⟨hitem, hrest⟩ := List.forall_mem_cons.1 h
    obtain ⟨value, hvalue⟩ := hitem
    obtain ⟨values, hvalues⟩ := exists_mapM hrest
    exact ⟨value :: values, by rw [List.mapM_cons, hvalue, hvalues]; rfl⟩

instance [Shaped α] : Shaped (List α) where
  shape := .list (shape α)
  fits values := .list fun item hmem => by
    obtain ⟨value, -, rfl⟩ := List.mem_map.1 hmem
    exact fits value
  reads document hfits := by
    cases hfits with
    | @list _ items h => exact exists_mapM fun item hmem => reads item (h item hmem)

instance [Faithful α] [Shaped α] : Shaped (Dict α) where
  shape := .object [] fun _ => shape α
  fits dict := by
    have hordered := Faithful.ordered dict
    cases hordered with
    | obj hsorted =>
      refine .object hsorted (fun member hmem => ?_) (fun _ hname => nomatch hname)
      obtain ⟨entry, -, rfl⟩ := List.mem_map.1 hmem
      exact fits entry.2
  reads document hfits := by
    cases hfits with
    | @object _ _ members _ h =>
      have hread : ∀ member ∈ members, ∃ entry : String × α,
          (decode? member.2).map (member.1, ·) = some entry := fun member hmem => by
        obtain ⟨value, hvalue⟩ := reads member.2 (h member hmem)
        exact ⟨(member.1, value), by rw [hvalue]; rfl⟩
      obtain ⟨entries, hentries⟩ := exists_mapM hread
      refine ⟨Dict.ofEntries entries, ?_⟩
      simp only [decode?]
      rw [hentries]
      rfl

end Shaped

end Codec

/-! ### Records -/

namespace Record

open Codec (Faithful Shaped)

variable {α β : Type} {table : Entries Shape} {needed : List String}

/-- Whatever is found at a name has the shape of the field of this name. -/
def Suits (table : Entries Shape) (fields : Fields) : Prop :=
  ∀ name document, fields name = some document →
    ((Entries.find? name table).getD .never).Fits document

/-- The members have the shapes of the fields of their names. -/
def SuitsAll (table : Entries Shape) (members : List (String × Json)) : Prop :=
  ∀ member ∈ members, ((Entries.find? member.1 table).getD .never).Fits member.2

theorem SuitsAll.append {front back : List (String × Json)} (h : SuitsAll table front)
    (h' : SuitsAll table back) : SuitsAll table (front ++ back) := fun member hmem =>
  (List.mem_append.1 hmem).elim (h member) (h' member)

/-- What a record writes in the order of its fields has the shape of the record. -/
theorem fits_record {members : Entries Json} (hordered : (Json.obj members).Ordered)
    (h : SuitsAll table members)
    (hcomplete : ∀ name ∈ needed, (Entries.find? name members).isSome) :
    (Shape.record needed table).Fits (.obj members) := by
  cases hordered with
  | obj hsorted => exact .object hsorted h hcomplete

section Fields

variable [Codec α] [Shaped α] {name : String} {fields : Fields}

theorem suitsAll_member (h : Entries.find? name table = some (Shaped.shape α)) (value : α) :
    SuitsAll table (member name value) := by
  intro entry hmem
  cases List.mem_singleton.1 hmem
  simp only [h, Option.getD_some]
  exact Shaped.fits value

theorem suitsAll_memberIfSome (h : Entries.find? name table = some (Shaped.shape α)) :
    ∀ value : Option α, SuitsAll table (memberIfSome name value)
  | some value => suitsAll_member h value
  | none => fun _ hmem => nomatch hmem

theorem suitsAll_memberUnless (h : Entries.find? name table = some (Shaped.shape α)) :
    ∀ (skip : Bool) (value : α), SuitsAll table (memberUnless skip name value)
  | false, value => suitsAll_member h value
  | true, _ => fun _ hmem => nomatch hmem

/-- A field of the right shape can be read, if it is there. -/
theorem Suits.reads (h : Suits table fields)
    (hname : Entries.find? name table = some (Shaped.shape α)) {document : Json}
    (hfind : fields name = some document) : ∃ value : α, Codec.decode? document = some value := by
  have hfits := h name document hfind
  rw [hname] at hfits
  exact Shaped.reads document hfits

theorem Suits.required (h : Suits table fields)
    (hname : Entries.find? name table = some (Shaped.shape α)) (hsome : (fields name).isSome) :
    ∃ value : α, required fields name = some value := by
  obtain ⟨document, hfind⟩ := Option.isSome_iff_exists.1 hsome
  rw [Record.required, hfind]
  exact h.reads hname hfind

theorem Suits.defaulted (h : Suits table fields)
    (hname : Entries.find? name table = some (Shaped.shape α)) (default : α) :
    ∃ value : α, defaulted fields name default = some value := by
  rw [Record.defaulted]
  split
  next => exact ⟨default, rfl⟩
  next hfind => exact h.reads hname hfind

theorem Suits.optional (h : Suits table fields)
    (hname : Entries.find? name table = some (Shaped.shape α)) :
    ∃ value : Option α, optional fields name = some value := by
  rw [Record.optional]
  split
  next => exact ⟨none, rfl⟩
  next => exact ⟨none, rfl⟩
  next hfind =>
    obtain ⟨value, hvalue⟩ := h.reads hname hfind
    exact ⟨some value, by rw [hvalue]; rfl⟩

end Fields

/-- Reading goes on with a field that can be read. -/
theorem exists_bind {read : Option α} {next : α → Option β} (h : ∃ value, read = some value)
    (hnext : ∀ value, ∃ result, next value = some result) :
    ∃ result, read.bind next = some result := by
  obtain ⟨value, rfl⟩ := h
  exact hnext value

/-- A document of the shape of a record is read field by field. -/
theorem exists_read {document : Json} (h : (Shape.record needed table).Fits document)
    {names : List String} {least : Nat} {next : Fields → Option α}
    (hnext : ∀ fields, Suits table fields → (∀ name ∈ needed, (fields name).isSome) →
      ∃ result, next fields = some result) :
    ∃ result, (fields? names least document).bind next = some result := by
  cases h with
  | @object _ _ members hsorted h hcomplete =>
    rw [fields?, ofMembers?_of_sorted hsorted]
    exact hnext _ (fun name document hfind => h _ (Entries.mem_of_find? hfind)) hcomplete

end Record

open Codec (Faithful Shaped)
open Record

/-! ### Spec -/

instance : Shaped Vpc where
  shape := .record [] [
    ("cidrBlock", Shaped.shape String), ("id", Shaped.shape String)]
  fits vpc := fits_record (Faithful.ordered vpc)
    ((suitsAll_memberIfSome rfl _).append
      (suitsAll_memberIfSome rfl _))
    nofun
  reads _ h := exists_read h fun _ hsuits _ =>
    exists_bind (hsuits.optional rfl) fun _ =>
    exists_bind (hsuits.optional rfl) fun _ => ⟨_, rfl⟩

instance : Shaped Subnet where
  shape := .record [] [
    ("availabilityZone", Shaped.shape String), ("cidrBlock", Shaped.shape String),
    ("id", Shaped.shape String), ("isPublic", Shaped.shape Bool)]
  fits subnet := fits_record (Faithful.ordered subnet)
    ((suitsAll_member rfl _).append
      (suitsAll_member rfl _) |>.append
      (suitsAll_memberIfSome rfl _) |>.append
      (suitsAll_member rfl _))
    nofun
  reads _ h := exists_read h fun _ hsuits _ =>
    exists_bind (hsuits.optional rfl) fun _ =>
    exists_bind (hsuits.defaulted rfl _) fun _ =>
    exists_bind (hsuits.defaulted rfl _) fun _ =>
    exists_bind (hsuits.defaulted rfl _) fun _ => ⟨_, rfl⟩

instance : Shaped Network where
  shape := .record [] [
    ("securityGroupOverrides", Shaped.shape (Dict String)), ("subnets", Shaped.shape (List Subnet)),
    ("vpc", Shaped.shape Vpc)]
  fits network := fits_record (Faithful.ordered network)
    ((suitsAll_memberUnless rfl _ _).append
      (suitsAll_member rfl _) |>.append
      (suitsAll_member rfl _))
    nofun
  reads _ h := exists_read h fun _ hsuits _ =>
    exists_bind (hsuits.defaulted rfl _) fun _ =>
    exists_bind (hsuits.defaulted rfl _) fun _ =>
    exists_bind (hsuits.defaulted rfl _) fun _ => ⟨_, rfl⟩

instance : Shaped Bastion where
  shape := .record [] [
    ("allowedCidrBlocks", Shaped.shape (List String)), ("enabled", Shaped.shape Bool),
    ("instanceType", Shaped.shape String)]
  fits bastion := fits_record (Faithful.ordered bastion)
    ((suitsAll_memberUnless rfl _ _).append
      (suitsAll_member rfl _) |>.append
      (suitsAll_memberIfSome rfl _))
    nofun
  reads _ h := exists_read h fun _ hsuits _ =>
    exists_bind (hsuits.defaulted rfl _) fun _ =>
    exists_bind (hsuits.optional rfl) fun _ =>
    exists_bind (hsuits.defaulted rfl _) fun _ => ⟨_, rfl⟩

instance : Shaped Endpoint where
  shape := .record [] [
    ("host", Shaped.shape String), ("port", Shaped.shape Int32)]
  fits endpoint := fits_record (Faithful.ordered endpoint)
    ((suitsAll_member rfl _).append
      (suitsAll_member rfl _))
    nofun
  reads _ h := exists_read h fun _ hsuits _ =>
    exists_bind (hsuits.defaulted rfl _) fun _ =>
    exists_bind (hsuits.defaulted rfl _) fun _ => ⟨_, rfl⟩

instance : Shaped AwsClusterSpec where
  shape := .record ["region"] [
    ("apiServerPort", Shaped.shape Int32), ("bastion", Shaped.shape Bastion),
    ("controlPlaneEndpoint", Shaped.shape Endpoint), ("network", Shaped.shape Network),
    ("region", Shaped.shape String), ("sshKeyName", Shaped.shape String)]
  fits spec := fits_record (Faithful.ordered spec)
    ((suitsAll_memberIfSome rfl _).append
      (suitsAll_member rfl _) |>.append
      (suitsAll_member rfl _) |>.append
      (suitsAll_member rfl _) |>.append
      (suitsAll_member rfl _) |>.append
      (suitsAll_memberIfSome rfl _))
    (by simp [Entries.find?_append])
  reads _ h := exists_read h fun _ hsuits hneeded =>
    exists_bind (hsuits.required rfl (hneeded "region" (by decide))) fun _ =>
    exists_bind (hsuits.defaulted rfl _) fun _ =>
    exists_bind (hsuits.defaulted rfl _) fun _ =>
    exists_bind (hsuits.defaulted rfl _) fun _ =>
    exists_bind (hsuits.optional rfl) fun _ =>
    exists_bind (hsuits.optional rfl) fun _ => ⟨_, rfl⟩

/-! ### Status -/

instance : Shaped SecurityGroup where
  shape := .record ["id"] [
    ("id", Shaped.shape String), ("name", Shaped.shape String)]
  fits group := fits_record (Faithful.ordered group)
    ((suitsAll_member rfl _).append
      (suitsAll_member rfl _))
    (by simp [Entries.find?_append])
  reads _ h := exists_read h fun _ hsuits hneeded =>
    exists_bind (hsuits.required rfl (hneeded "id" (by decide))) fun _ =>
    exists_bind (hsuits.defaulted rfl _) fun _ => ⟨_, rfl⟩

instance : Shaped LoadBalancer where
  shape := .record [] [
    ("availabilityZones", Shaped.shape (List String)), ("dnsName", Shaped.shape String),
    ("name", Shaped.shape String)]
  fits balancer := fits_record (Faithful.ordered balancer)
    ((suitsAll_memberUnless rfl _ _).append
      (suitsAll_memberIfSome rfl _) |>.append
      (suitsAll_memberIfSome rfl _))
    nofun
  reads _ h := exists_read h fun _ hsuits _ =>
    exists_bind (hsuits.optional rfl) fun _ =>
    exists_bind (hsuits.optional rfl) fun _ =>
    exists_bind (hsuits.defaulted rfl _) fun _ => ⟨_, rfl⟩

instance : Shaped ObservedNetwork where
  shape := .record [] [
    ("apiServerLoadBalancer", Shaped.shape LoadBalancer),
    ("securityGroups", Shaped.shape (Dict SecurityGroup))]
  fits network := fits_record (Faithful.ordered network)
    ((suitsAll_member rfl _).append
      (suitsAll_memberUnless rfl _ _))
    nofun
  reads _ h := exists_read h fun _ hsuits _ =>
    exists_bind (hsuits.defaulted rfl _) fun _ =>
    exists_bind (hsuits.defaulted rfl _) fun _ => ⟨_, rfl⟩

instance : Shaped FailureDomain where
  shape := .record [] [
    ("attributes", Shaped.shape (Dict String)), ("controlPlane", Shaped.shape Bool)]
  fits domain := fits_record (Faithful.ordered domain)
    ((suitsAll_memberUnless rfl _ _).append
      (suitsAll_member rfl _))
    nofun
  reads _ h := exists_read h fun _ hsuits _ =>
    exists_bind (hsuits.defaulted rfl _) fun _ =>
    exists_bind (hsuits.defaulted rfl _) fun _ => ⟨_, rfl⟩

instance : Shaped CloudInstance where
  shape := .record ["id"] [
    ("id", Shaped.shape String), ("privateIp", Shaped.shape String),
    ("publicIp", Shaped.shape String), ("state", Shaped.shape String)]
  fits machine := fits_record (Faithful.ordered machine)
    ((suitsAll_member rfl _).append
      (suitsAll_memberIfSome rfl _) |>.append
      (suitsAll_memberIfSome rfl _) |>.append
      (suitsAll_memberIfSome rfl _))
    (by simp [Entries.find?_append])
  reads _ h := exists_read h fun _ hsuits hneeded =>
    exists_bind (hsuits.required rfl (hneeded "id" (by decide))) fun _ =>
    exists_bind (hsuits.optional rfl) fun _ =>
    exists_bind (hsuits.optional rfl) fun _ =>
    exists_bind (hsuits.optional rfl) fun _ => ⟨_, rfl⟩

instance : Shaped Condition where
  shape := .record ["type", "status"] [
    ("lastTransitionTime", Shaped.shape Instant), ("message", Shaped.shape String),
    ("reason", Shaped.shape String), ("severity", Shaped.shape Severity),
    ("status", Shaped.shape ConditionStatus), ("type", Shaped.shape String)]
  fits condition := fits_record (Faithful.ordered condition)
    ((suitsAll_memberIfSome rfl _).append
      (suitsAll_memberIfSome rfl _) |>.append
      (suitsAll_memberIfSome rfl _) |>.append
      (suitsAll_memberUnless rfl _ _) |>.append
      (suitsAll_member rfl _) |>.append
      (suitsAll_member rfl _))
    (by simp [Entries.find?_append])
  reads _ h := exists_read h fun _ hsuits hneeded =>
    exists_bind (hsuits.required rfl (hneeded "type" (by decide))) fun _ =>
    exists_bind (hsuits.required rfl (hneeded "status" (by decide))) fun _ =>
    exists_bind (hsuits.defaulted rfl _) fun _ =>
    exists_bind (hsuits.optional rfl) fun _ =>
    exists_bind (hsuits.optional rfl) fun _ =>
    exists_bind (hsuits.optional rfl) fun _ => ⟨_, rfl⟩

instance : Shaped AwsClusterStatus where
  shape := .record [] [
    ("bastion", Shaped.shape CloudInstance), ("conditions", Shaped.shape (List Condition)),
    ("failureDomains", Shaped.shape (Dict FailureDomain)),
    ("network", Shaped.shape ObservedNetwork), ("ready", Shaped.shape Bool)]
  fits status := fits_record (Faithful.ordered status)
    ((suitsAll_memberIfSome rfl _).append
      (suitsAll_memberUnless rfl _ _) |>.append
      (suitsAll_memberUnless rfl _ _) |>.append
      (suitsAll_member rfl _) |>.append
      (suitsAll_member rfl _))
    nofun
  reads _ h := exists_read h fun _ hsuits _ =>
    exists_bind (hsuits.defaulted rfl _) fun _ =>
    exists_bind (hsuits.defaulted rfl _) fun _ =>
    exists_bind (hsuits.defaulted rfl _) fun _ =>
    exists_bind (hsuits.optional rfl) fun _ =>
    exists_bind (hsuits.defaulted rfl _) fun _ => ⟨_, rfl⟩

end ClusterInfra
