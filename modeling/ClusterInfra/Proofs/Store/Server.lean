import ClusterInfra.Json.Printer
import ClusterInfra.Proofs.Net.Segments
import ClusterInfra.Proofs.Sample
import ClusterInfra.Proofs.Store.Persist
import ClusterInfra.Store.Kubernetes
/-!
An API server that keeps to its side.

A patch is asked for at the path of an object, or at the one of its status. The segments of the path
tell which object is meant, as long as its namespace and its name can stand in a path. A server
serves a request regularly if it applies the patch as a whole and answers with the object in its
next version, or refuses it and changes nothing. An object that nothing holds any more goes.
-/

namespace ClusterInfra

open Json (Patch)
open Net.Url (slashed)

/-! ### Requests -/

/-- Whether a text can be a segment in the path of a request and stands for itself there. -/
def Kubernetes.isSegment (text : String) : Bool :=
  !text.isEmpty && text.toList.all fun c => isPathChar c && c ≠ '/' && c ≠ '%'

theorem Kubernetes.isPathChar_of_isSegment {text : String} (h : isSegment text = true) :
    ∀ c ∈ text.toList, isPathChar c = true ∧ c ≠ '/' := by
  intro c hc
  rw [isSegment, Bool.and_eq_true, List.all_eq_true] at h
  have hall := h.2 c hc
  simp only [Bool.and_eq_true, decide_eq_true_eq] at hall
  exact hall.1

/-- Whether an object can be named in the path of a request. -/
def ObjectKey.isAddressable (key : ObjectKey) : Bool :=
  Kubernetes.isSegment key.ns && Kubernetes.isSegment key.name

/-- What is patched at an address of its own: the status alone, or the object as a whole. -/
inductive Part
  | status
  | whole
  deriving DecidableEq

namespace Part

/-- What the path of a part has behind the path of the object. -/
def path : Part → String
  | .status => "/status"
  | .whole => ""

/-- What the path of a part names behind the object. -/
def names : Part → List String
  | .status => ["status"]
  | .whole => []

/-- The segments of the path of a part. -/
def segments (part : Part) (key : ObjectKey) : List (List Char) :=
  (["apis", ResourceDefinition.awsCluster.group, apiVersionName, "namespaces", key.ns,
    ResourceDefinition.awsCluster.plural, key.name] ++ part.names).map String.toList

/-- What is kept of the patched object: of a patch of the status, nothing but the status. -/
def kept (part : Part) (object patched : AwsCluster) : AwsCluster :=
  match part with
  | .status => { object with status := patched.status }
  | .whole => patched

/-- The object after a patch of a part of it, in the next version; none if an operation fails or no
object is left. -/
def patched? (part : Part) (patch : Patch) (object : AwsCluster) : Option AwsCluster := do
  let patched ← (patch.apply (Codec.encode object)).toOption.bind Codec.decode?
  return (part.kept object patched).withVersion (some (nextVersion object.metadata.resourceVersion))

end Part

/-- A request asks for a patch of a part of an object. -/
structure ApiRequest.Asks (request : ApiRequest) (key : ObjectKey) (part : Part) (patch : Patch) :
    Prop where
  method : request.method = .patch
  contentType : request.contentType = some "application/json-patch+json"
  body : request.body = some patch
  path : request.uri.toList.takeWhile (· ≠ '?') = slashed (part.segments key)

namespace Part

variable {key : ObjectKey} {part : Part}

theorem isPathChar_of_mem_segments (hkey : key.isAddressable = true) :
    ∀ segment ∈ part.segments key, ∀ c ∈ segment, Kubernetes.isPathChar c = true ∧ c ≠ '/' := by
  obtain ⟨hns, hname⟩ := Bool.and_eq_true_iff.1 hkey
  have hsegments : ∀ text ∈ ["apis", ResourceDefinition.awsCluster.group, apiVersionName,
      "namespaces", key.ns, ResourceDefinition.awsCluster.plural, key.name] ++ part.names,
      Kubernetes.isSegment text = true := by
    have hnames : ∀ text ∈ part.names, Kubernetes.isSegment text = true := by
      cases part <;> decide
    simp only [List.cons_append, List.nil_append, List.forall_mem_cons]
    exact ⟨by decide, by decide, by decide, by decide, hns, by decide, hname, hnames⟩
  rw [segments, List.forall_mem_map]
  exact fun text htext => Kubernetes.isPathChar_of_isSegment (hsegments text htext)

/-- The path of a part tells the part and the object. -/
theorem slashed_segments_inj (hkey : key.isAddressable = true) {key' : ObjectKey}
    (hkey' : key'.isAddressable = true) {part' : Part} :
    slashed (part.segments key) = slashed (part'.segments key') ↔ key = key' ∧ part = part' := by
  constructor
  · intro h
    have hsegments := Net.Url.slashed_inj
      (fun _ hsegment hslash => (isPathChar_of_mem_segments hkey _ hsegment _ hslash).2 rfl)
      (fun _ hsegment hslash => (isPathChar_of_mem_segments hkey' _ hsegment _ hslash).2 rfl) h
    have htexts := (List.map_inj_right fun _ _ => String.toList_inj.1).1 hsegments
    cases part <;> cases part' <;> simp [names] at htexts
    all_goals
      obtain ⟨hns, hname⟩ := htexts
      exact ⟨congrArg₂ ObjectKey.mk hns hname, rfl⟩
  · rintro ⟨rfl, rfl⟩
    rfl

end Part

/-- A request asks for one thing only. -/
theorem ApiRequest.Asks.unique {request : ApiRequest} {key key' : ObjectKey} {part part' : Part}
    {patch patch' : Patch} (h : request.Asks key part patch) (h' : request.Asks key' part' patch')
    (hkey : key.isAddressable = true) (hkey' : key'.isAddressable = true) :
    key = key' ∧ part = part' ∧ patch = patch' := by
  obtain ⟨rfl, rfl⟩ := (Part.slashed_segments_inj hkey hkey').1 (h.path.symm.trans h'.path)
  exact ⟨rfl, rfl, Option.some.inj (h.body.symm.trans h'.body)⟩

namespace Kubernetes

theorem ne_of_isPathChar {c : Char} (h : isPathChar c = true) : c ≠ '#' ∧ c ≠ '?' := by
  refine ⟨?_, ?_⟩ <;> rintro rfl <;> exact absurd h (by decide)

theorem ne_of_isQueryChar {c : Char} (h : isQueryChar c = true) : c ≠ '#' := by
  rintro rfl
  exact absurd h (by decide)

/-- A path can be written as it is, with a query behind it. -/
theorem uri?_of_path {path query : List Char} (hpath : ∀ c ∈ path, isPathChar c = true)
    (hquery : ∀ c ∈ query, isQueryChar c = true) :
    uri? (String.ofList (path ++ '?' :: query)) = some (String.ofList (path ++ '?' :: query)) ∧
      (path ++ '?' :: query).takeWhile (· ≠ '?') = path := by
  have hvisible : ∀ c ∈ path ++ '?' :: query, decide (c ≠ '#') = true := by
    intro c hc
    rw [decide_eq_true_eq]
    rcases List.mem_append.1 hc with hc | hc
    · exact (ne_of_isPathChar (hpath c hc)).1
    · rcases List.mem_cons.1 hc with rfl | hc
      · decide
      · exact ne_of_isQueryChar (hquery c hc)
  have hends : (path ++ '?' :: query).takeWhile (· ≠ '?') = path := by
    rw [List.takeWhile_append_of_pos fun c hc => decide_eq_true (ne_of_isPathChar (hpath c hc)).2,
      List.takeWhile_cons_of_neg (by decide), List.append_nil]
  refine ⟨?_, hends⟩
  simp only [uri?, String.toList_ofList]
  rw [List.takeWhile_eq_self_iff.2 hvisible, hends, List.drop_append,
    List.drop_eq_nil_of_le (by omega), if_pos]
  simp only [Nat.add_sub_cancel_left, List.nil_append, List.drop_succ_cons, List.drop_zero,
    Bool.and_eq_true, List.all_eq_true]
  exact ⟨hpath, hquery⟩

/-- There is a request for every patch of an object that can be named in a path. -/
theorem exists_patchRequest? {key : ObjectKey} (hkey : key.isAddressable = true) (part : Part)
    (patch : Patch) :
    ∃ request, patchRequest? key part.path patch = some request ∧ request.Asks key part patch := by
  have hname : key.name.isEmpty = false := by
    have hsegment := (Bool.and_eq_true_iff.1 hkey).2
    rw [isSegment, Bool.and_eq_true, Bool.not_eq_true'] at hsegment
    exact hsegment.1
  let query : List Char := "&fieldManager=awscluster-controller".toList
  have htext : listPath .awsCluster (some key.ns) ++ "/" ++ key.name ++ part.path
      ++ "?&fieldManager=" ++ fieldManager
      = String.ofList (slashed (part.segments key) ++ '?' :: query) := by
    rw [← String.toList_inj]
    cases part <;>
      simp [listPath, slashed, Part.segments, Part.names, Part.path, fieldManager, query]
  have hpath : ∀ c ∈ slashed (part.segments key), isPathChar c = true := by
    intro c hc
    obtain ⟨segment, hsegment, hc⟩ := List.mem_flatMap.1 hc
    rcases List.mem_cons.1 hc with rfl | hc
    · decide
    · exact (Part.isPathChar_of_mem_segments hkey segment hsegment c hc).1
  have hquery : ∀ c ∈ query, isQueryChar c = true := List.all_eq_true.1 (by decide)
  obtain ⟨huri, hends⟩ := uri?_of_path hpath hquery
  simp only [patchRequest?, objectPath?, hname, Bool.false_eq_true, if_false, Option.bind_eq_bind,
    Option.bind_some, htext, huri]
  refine ⟨_, rfl, rfl, rfl, rfl, ?_⟩
  simpa only [String.toList_ofList] using hends

end Kubernetes

/-! ### Answers -/

/-- A response shows an object. -/
structure ApiResponse.Shows (response : ApiResponse) (object : AwsCluster) : Prop where
  success : Kubernetes.isFailure response = false
  readable : ∃ body, response.body = some body ∧
    (Json.parse body).toOption.bind Codec.decode? = some object

/-- One exchange with a server, from its state before to its state after. -/
structure ApiExchange (τ : Type) where
  before : τ
  request : ApiRequest
  response : ApiResponse
  after : τ

/-- The objects after one of them was updated: it goes if nothing holds it any more. -/
def Table.settle (objects : Table ObjectKey AwsCluster) (key : ObjectKey) (updated : AwsCluster) :
    Table ObjectKey AwsCluster :=
  if updated.isFinished then objects.erase key else objects.insert key updated

variable {τ : Type}

/-- A patch of an object is applied and answered with the updated object, or it is refused and
nothing changes. -/
def ApiExchange.Regular (objects : τ → Table ObjectKey AwsCluster) (x : ApiExchange τ) : Prop :=
  ∀ key part patch, key.isAddressable = true → x.request.Asks key part patch →
    match ((objects x.before).get? key).bind (part.patched? patch) with
    | some updated =>
      x.response.Shows updated ∧ objects x.after = (objects x.before).settle key updated
    | none => Kubernetes.isFailure x.response = true ∧ objects x.after = objects x.before

/-- A server that keeps a record of its exchanges. -/
def ApiServer.recorded (server : ApiServer τ) : ApiServer (τ × List (ApiExchange τ)) :=
  fun request state =>
    let (response, after) := server request state.1
    (response, after, state.2 ++ [⟨state.1, request, response, after⟩])

/-! ### A server of one object -/

namespace Sample

/-- The objects of a server that has at most one, and that one under a key. -/
def held (key : ObjectKey) (state : Option AwsCluster) : Table ObjectKey AwsCluster :=
  state.elim .empty (Table.empty.insert key)

/-- The updated object that a request asks for, if it asks for a patch that applies. -/
def updated? (key : ObjectKey) (request : ApiRequest) (state : Option AwsCluster) :
    Option AwsCluster := do
  let object ← state
  let patch ← request.body
  let path := request.uri.toList.takeWhile (· ≠ '?')
  let part ← [Part.status, .whole].find? fun part => path = slashed (part.segments key)
  part.patched? patch object

/-- The text that shows an object, where its spec names nothing but a region. -/
def shown (object : AwsCluster) : String :=
  Json.compact <| .obj <|
    Record.member "metadata" object.metadata
    ++ [("spec", .obj (Record.member "region" object.spec.region))]
    ++ Record.memberIfSome "status" object.status

/-- A server of one object. -/
def apiServer (key : ObjectKey) : ApiServer (Option AwsCluster) := fun request state =>
  match updated? key request state with
  | some updated => (⟨200, some (shown updated)⟩, if updated.isFinished then none else some updated)
  | none => (⟨409, some ""⟩, state)

section OneObject

variable {key key' : ObjectKey} {object : AwsCluster} {state : Option AwsCluster}

theorem eq_of_held (h : (held key state).get? key' = some object) :
    state = some object ∧ key' = key := by
  cases state with
  | none => cases h
  | some stored =>
    by_cases hkey : key' = key
    · rw [hkey, held, Option.elim_some, Table.get?_insert_self] at h
      exact ⟨h, hkey⟩
    · rw [held, Option.elim_some, Table.get?_insert_of_ne _ hkey] at h
      cases h

theorem updated?_eq {request : ApiRequest} {part : Part} {patch : Patch}
    (hkey : key.isAddressable = true) (hkey' : key'.isAddressable = true)
    (hasks : request.Asks key' part patch) (state : Option AwsCluster) :
    updated? key request state = ((held key state).get? key').bind (part.patched? patch) := by
  have hpath : ∀ part', slashed (part.segments key') = slashed (part'.segments key) ↔
      key' = key ∧ part = part' := fun part' => Part.slashed_segments_inj hkey' hkey
  cases state with
  | none => rfl
  | some object =>
    simp only [updated?, hasks.body, hasks.path, hpath, held, Option.elim_some]
    by_cases heq : key' = key
    · cases part <;> simp [heq]
    · rw [Table.get?_insert_of_ne _ heq]
      simp [heq]
      rfl

/-- What the server does is regular if its answer can be read. -/
theorem regular_of_apiServer {x : ApiExchange (Option AwsCluster)}
    (hkey : key.isAddressable = true)
    (hserved : apiServer key x.request x.before = (x.response, x.after))
    (hread : ∀ updated ∈ updated? key x.request x.before,
      (Json.parse (shown updated)).toOption.bind Codec.decode? = some updated) :
    x.Regular (held key) := by
  intro key' part patch hkey' hasks
  have hupdated := updated?_eq hkey hkey' hasks x.before
  rw [← hupdated]
  rw [apiServer] at hserved
  cases h : updated? key x.request x.before with
  | none =>
    rw [h] at hserved
    obtain ⟨hresponse, hafter⟩ := Prod.mk.inj hserved
    rw [← hresponse, ← hafter]
    exact ⟨rfl, rfl⟩
  | some updated =>
    rw [h] at hserved
    obtain ⟨hresponse, hafter⟩ := Prod.mk.inj hserved
    rw [← hresponse, ← hafter]
    refine ⟨⟨rfl, _, rfl, hread updated h⟩, ?_⟩
    obtain ⟨object, hstored, -⟩ := Option.bind_eq_some_iff.1 (hupdated.symm.trans h)
    obtain ⟨hbefore, rfl⟩ := eq_of_held hstored
    simp only [hbefore, held, Table.settle, Option.elim_some]
    split
    · rw [Table.erase_insert]
      exact Table.ext fun _ => (ite_self none).symm
    · exact (Table.insert_insert ..).symm

end OneObject

end Sample

end ClusterInfra
