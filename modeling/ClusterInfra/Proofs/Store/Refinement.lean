import ClusterInfra.Proofs.Store.RoundTrip
import ClusterInfra.Proofs.Store.Server
/-!
The store behind an API server does what the store in memory does.

Both persist a change in two writes. A write that a regular server accepts is one that applies in
memory, to the same object and with the same version, and one that it refuses fails in memory. So
two runs that start from the same objects stay in step: the server is sent what memory applies, and
in the end it holds what memory holds. No object goes between the two writes, since a patch of the
status does not take finalizers away.
-/

namespace ClusterInfra

open Json (Patch)

variable {τ : Type}

@[simp] theorem Store.log_collect (store : Store) (key : ObjectKey) (object : AwsCluster) :
    (store.collect key object).log = store.log := by
  rw [collect]
  split <;> rfl

/-! ### What a patch does to the object -/

namespace Part

variable {before after object read : AwsCluster} {version : Option String} {patch : Patch}
  {document : Json}

/-- A part is patched like the object if what is read of the patched document is kept. -/
theorem patched?_eq {part : Part}
    (h : ∀ document read, patch.apply (Codec.encode object) = .ok document →
      Codec.decode? document = some read →
      part.kept object read = read ∧
        nextVersion object.metadata.resourceVersion = nextVersion read.metadata.resourceVersion) :
    part.patched? patch object = (object.patched patch).toOption := by
  rw [patched?, AwsCluster.patched]
  cases happly : patch.apply (Codec.encode object) with
  | error failure => rfl
  | ok document =>
    cases hread : (Codec.decode? document : Option AwsCluster) with
    | none => simp [hread, Except.toOption]
    | some read =>
      obtain ⟨hkept, hversion⟩ := h document read happly hread
      simp [hread, Except.toOption, hkept, hversion]

theorem patched?_status (hpatch : Changes.statusPatch? before after version = some patch) :
    Part.status.patched? patch object = (object.patched patch).toOption := by
  refine patched?_eq fun document read happly hread => ?_
  obtain ⟨hmetadata, hspec⟩ := Changes.untouched_of_statusPatch hpatch happly hread
  exact ⟨by rw [kept, ← hmetadata, ← hspec], by rw [hmetadata]⟩

theorem patched?_whole (hpatch : Changes.objectPatch? before after version = some patch) :
    Part.whole.patched? patch object = (object.patched patch).toOption := by
  refine patched?_eq fun document read happly hread => ⟨rfl, ?_⟩
  have hpatched := AwsCluster.patched_eq_ok happly hread
  exact (Option.some.inj (Changes.follows_of_objectPatch hpatch hpatched).2.1.version).symm

end Part

/-- A patch of the status leaves an object stored. -/
theorem AwsCluster.Writes.isFinished_eq {before after object updated : AwsCluster}
    {version version' : Option String}
    (h : object.Writes version (Changes.statusPatch? before after version) updated version') :
    updated.isFinished = object.isFinished := by
  obtain ⟨hsame, hfinalizers⟩ := h.of_statusPatch
  rw [isFinished, isFinished, hsame.isDeleting, hfinalizers]

/-! ### What is sent -/

/-- The patches that were sent. -/
def ApiExchange.patches (sent : List (ApiExchange τ)) : List Patch :=
  sent.filterMap (·.request.body)

/-- What is sent to write a patch of a part of an object, if there is one, and what the write
returns: nothing is sent without a patch, and otherwise one request; what the server shows gives the
version. -/
inductive Sends (key : ObjectKey) (part : Part) (version : Option String) :
    Option Patch → List (ApiExchange τ) → Except ControllerError (Option String) → Prop
  | nothing : Sends key part version none [] (.ok version)
  | accepted {patch : Patch} {x : ApiExchange τ} {updated : AwsCluster}
      (hasks : x.request.Asks key part patch) (hshows : x.response.Shows updated) :
      Sends key part version (some patch) [x] (.ok updated.metadata.resourceVersion)
  | refused {patch : Patch} {x : ApiExchange τ} (e : ControllerError)
      (hasks : x.request.Asks key part patch)
      (hfailure : Kubernetes.isFailure x.response = true) :
      Sends key part version (some patch) [x] (.error e)

/-- What is sent to persist a change, and what persisting returns: the patch of the status first,
and if it is not refused the patch of finalizer and spec, guarded by the version after the first. -/
inductive Conversation (key : ObjectKey) (before after : AwsCluster) :
    List (ApiExchange τ) → Except ControllerError (Option String) → Prop
  | halted {sent : List (ApiExchange τ)} {e : ControllerError}
      (hstatus : Sends key .status before.metadata.resourceVersion
        (Changes.statusPatch? before after before.metadata.resourceVersion) sent (.error e)) :
      Conversation key before after sent (.error e)
  | continued {first second : List (ApiExchange τ)} {version : Option String}
      {result : Except ControllerError (Option String)}
      (hstatus : Sends key .status before.metadata.resourceVersion
        (Changes.statusPatch? before after before.metadata.resourceVersion) first (.ok version))
      (hobject : Sends key .whole version (Changes.objectPatch? before after version) second
        result) :
      Conversation key before after (first ++ second) result

theorem ApiExchange.patches_append (first second : List (ApiExchange τ)) :
    patches (first ++ second) = patches first ++ patches second := List.filterMap_append

namespace Sends

variable {key : ObjectKey} {part : Part} {version : Option String} {patch? : Option Patch}
  {sent : List (ApiExchange τ)} {result : Except ControllerError (Option String)}

theorem patches_eq (h : Sends key part version patch? sent result) :
    ApiExchange.patches sent = patch?.toList := by
  cases h with
  | nothing => rfl
  | accepted hasks => simp [ApiExchange.patches, hasks.body]
  | refused _ hasks => simp [ApiExchange.patches, hasks.body]

theorem eq_nil_iff (h : Sends key part version patch? sent result) :
    sent = [] ↔ patch? = none := by
  cases h <;> simp

/-- What fails was sent. -/
theorem exists_patch {e : ControllerError} (h : Sends key part version patch? sent (.error e)) :
    ∃ patch, patch? = some patch := by
  cases h with
  | refused => exact ⟨_, rfl⟩

end Sends

/-- Nothing is sent exactly if nothing differs. -/
theorem Conversation.eq_nil_iff {key : ObjectKey} {before after : AwsCluster}
    {sent : List (ApiExchange τ)} {result : Except ControllerError (Option String)}
    (h : Conversation key before after sent result) :
    sent = [] ↔ before.status = after.status ∧ before.spec = after.spec ∧
      before.hasFinalizer = after.hasFinalizer := by
  cases h with
  | halted hstatus =>
    obtain ⟨patch, hpatch⟩ := hstatus.exists_patch
    rw [hstatus.eq_nil_iff, ← Changes.statusPatch?_eq_none_iff, hpatch]
    simp
  | continued hstatus hobject =>
    rw [List.append_eq_nil_iff, hstatus.eq_nil_iff, hobject.eq_nil_iff,
      Changes.statusPatch?_eq_none_iff, Changes.objectPatch?_eq_none_iff]

namespace Kubernetes

/-! ### The record makes no difference -/

theorem ask_recorded (α : Type) [Codec α] (server : ApiServer τ) (request? : Option ApiRequest)
    (s : τ × List (ApiExchange τ)) :
    Prod.map id Prod.fst (ask α server.recorded request? s) = ask α server request? s.1 := by
  cases request? <;> rfl

theorem write_recorded (server : ApiServer τ) (key : ObjectKey) (part : String)
    (version : Option String) (patch? : Option Patch) (s : τ × List (ApiExchange τ)) :
    Prod.map id Prod.fst (write server.recorded key part version patch? s)
      = write server key part version patch? s.1 := by
  cases patch? with
  | none => rfl
  | some patch =>
    rw [write, write, ← ask_recorded]
    rcases ask AwsCluster server.recorded (patchRequest? key part patch) s with ⟨_ | _, _⟩ <;> rfl

theorem persist_recorded (server : ApiServer τ) (before after : AwsCluster)
    (s : τ × List (ApiExchange τ)) :
    Prod.map id Prod.fst (persist server.recorded before after s)
      = persist server before after s.1 := by
  rw [persist, persist]
  cases after.metadata.name with
  | none => rfl
  | some name =>
    simp only
    rw [← write_recorded]
    rcases write server.recorded _ "/status" _ _ s with ⟨_ | version, next⟩
    · rfl
    · exact write_recorded ..

/-- A record only grows. -/
theorem prefix_write (server : ApiServer τ) (key : ObjectKey) (part : String)
    (version : Option String) (patch? : Option Patch) (s : τ × List (ApiExchange τ)) :
    s.2 <+: (write server.recorded key part version patch? s).2.2 := by
  cases patch? with
  | none => exact List.prefix_refl _
  | some patch =>
    have hask : s.2 <+: (ask AwsCluster server.recorded (patchRequest? key part patch) s).2.2 := by
      cases patchRequest? key part patch with
      | none => exact List.prefix_refl _
      | some request => exact List.prefix_append _ _
    rw [write]
    revert hask
    rcases ask AwsCluster server.recorded (patchRequest? key part patch) s with ⟨_ | _, _⟩ <;>
      exact id

/-! ### One write -/

/-- The object that a response shows is read from it. -/
theorem readObject_of_shows {response : ApiResponse} {object : AwsCluster}
    (h : response.Shows object) : readObject AwsCluster response = .ok object := by
  obtain ⟨hsuccess, body, hbody, hread⟩ := h
  simp [readObject, hbody, hsuccess, hread]

theorem exists_readObject_of_failure {response : ApiResponse} (h : isFailure response = true) :
    ∃ e, readObject AwsCluster response = .error e := by
  rw [readObject]
  split
  · exact ⟨_, rfl⟩
  · rw [if_pos h]
    exact ⟨_, rfl⟩

/-- A write to a server beside the same write in memory: both are done, or both fail. -/
inductive Alike (objects : τ → Table ObjectKey AwsCluster) (key : ObjectKey) (part : Part)
    (version : Option String) (store : Store) (object : AwsCluster) (patch? : Option Patch) :
    Except ControllerError (Option String) → τ → List (ApiExchange τ) →
      Except PatchError (Store × AwsCluster × Option String) → Prop
  | done {store' : Store} {updated : AwsCluster} {version' : Option String} {after : τ}
      {sent : List (ApiExchange τ)} (hsends : Sends key part version patch? sent (.ok version'))
      (hwrites : object.Writes version patch? updated version')
      (hstored : store'.awsClusters.get? key = some updated)
      (hafter : objects after = (store'.collect key updated).awsClusters)
      (hlog : store'.log = store.log ++ ApiExchange.patches sent) :
      Alike objects key part version store object patch? (.ok version') after sent
        (.ok (store', updated, version'))
  | failed {after : τ} {sent : List (ApiExchange τ)} {e : ControllerError} (e' : PatchError)
      (hsends : Sends key part version patch? sent (.error e))
      (hafter : objects after = store.awsClusters) :
      Alike objects key part version store object patch? (.error e) after sent (.error e')

section Write

variable {server : ApiServer τ} {objects : τ → Table ObjectKey AwsCluster} {key : ObjectKey}
  {part : Part} {version : Option String} {store : Store} {object : AwsCluster} {state : τ}
  {log : List (ApiExchange τ)}

/-- A patch is written by one exchange, and the answer of the server is what counts. -/
theorem exists_exchange (server : ApiServer τ) (hkey : key.isAddressable = true) (part : Part)
    (version : Option String) (patch : Patch) (state : τ) (log : List (ApiExchange τ)) :
    ∃ x : ApiExchange τ, x.before = state ∧ x.request.Asks key part patch ∧
      server x.request x.before = (x.response, x.after) ∧
      write server.recorded key part.path version (some patch) (state, log)
        = (((readObject AwsCluster x.response).mapError .kube).map (·.metadata.resourceVersion),
          x.after, log ++ [x]) := by
  obtain ⟨request, hrequest, hasks⟩ := exists_patchRequest? hkey part patch
  refine ⟨⟨state, request, (server request state).1, (server request state).2⟩, rfl, hasks, rfl, ?_⟩
  rw [write, hrequest]
  simp only [ask, ApiServer.recorded]
  cases readObject AwsCluster (server request state).1 <;> rfl

/-- A write to a regular server goes like the one in memory. -/
theorem alike_write {patch? : Option Patch} (hkey : key.isAddressable = true)
    (hview : objects state = store.awsClusters)
    (hstored : store.awsClusters.get? key = some object) (hlive : object.isFinished = false)
    (hpatched : ∀ patch, patch? = some patch →
      part.patched? patch object = (object.patched patch).toOption)
    (hregular : ∀ x ∈ (write server.recorded key part.path version patch? (state, log)).2.2,
      x.Regular objects) :
    ∃ result after sent,
      write server.recorded key part.path version patch? (state, log)
        = (result, after, log ++ sent) ∧
      Alike objects key part version store object patch? result after sent
        (store.write key object version patch?) := by
  cases patch? with
  | none =>
    refine ⟨.ok version, state, [], by rw [write, List.append_nil], ?_⟩
    refine .done .nothing .nothing hstored ?_ (List.append_nil _).symm
    rw [hview, Store.collect, hlive]
    rfl
  | some patch =>
    obtain ⟨x, hx, hasks, -, hwrite⟩ := exists_exchange server hkey part version patch state log
    rw [hwrite] at hregular
    have hserved :=
      hregular x (List.mem_append_right _ List.mem_cons_self) key part patch hkey hasks
    rw [hx, hview, hstored, Option.bind_some, hpatched patch rfl] at hserved
    refine ⟨_, _, [x], hwrite, ?_⟩
    rw [Store.write]
    cases hupdated : object.patched patch with
    | error e =>
      rw [hupdated] at hserved
      obtain ⟨hfailure, hafter⟩ := hserved
      obtain ⟨e', he'⟩ := exists_readObject_of_failure hfailure
      rw [he']
      exact .failed e (.refused _ hasks hfailure) hafter
    | ok updated =>
      rw [hupdated] at hserved
      obtain ⟨hshows, hafter⟩ := hserved
      rw [readObject_of_shows hshows]
      refine .done (.accepted hasks hshows) (.applied hupdated) (Table.get?_insert_self ..) ?_ ?_
      · rw [hafter, Table.settle, Store.collect]
        split
        · exact (Table.erase_insert ..).symm
        · rfl
      · rw [ApiExchange.patches, List.filterMap_cons, hasks.body]
        rfl

end Write

/-! ### Both writes -/

/-- What is said between store and server while a change is persisted. -/
def exchanges (server : ApiServer τ) (before after : AwsCluster) (state : τ) :
    List (ApiExchange τ) :=
  (persist server.recorded before after (state, [])).2.2

theorem persist_of_isAddressable (server : ApiServer τ) (before : AwsCluster) {after : AwsCluster}
    (hkey : after.key.isAddressable = true) (state : τ) :
    persist server before after state =
      match write server after.key Part.status.path before.metadata.resourceVersion
        (Changes.statusPatch? before after before.metadata.resourceVersion) state with
      | (.error e, state) => (.error e, state)
      | (.ok version, state) =>
        write server after.key Part.whole.path version (Changes.objectPatch? before after version)
          state := by
  obtain ⟨hns, hname⟩ := Bool.and_eq_true_iff.1 hkey
  rw [AwsCluster.key, Metadata.key] at hns hname ⊢
  rw [persist]
  cases hnamed : after.metadata.name with
  | none =>
    rw [hnamed] at hname
    cases hname
  | some name =>
    cases hspaced : after.metadata.ns with
    | none =>
      rw [hspaced] at hns
      cases hns
    | some ns => rfl

/-- The exchanges of the first write are among those of persisting a change. -/
theorem subset_exchanges (server : ApiServer τ) (before : AwsCluster) {after : AwsCluster}
    (hkey : after.key.isAddressable = true) (state : τ) :
    (write server.recorded after.key Part.status.path before.metadata.resourceVersion
      (Changes.statusPatch? before after before.metadata.resourceVersion) (state, [])).2.2
      ⊆ exchanges server before after state := by
  rw [exchanges, persist_of_isAddressable server.recorded before hkey]
  rcases write server.recorded after.key Part.status.path _ _ (state, []) with ⟨_ | version, s⟩
  · exact List.Subset.refl _
  · exact (prefix_write ..).subset

/-- What comes of persisting a change through a server, beside what comes of it in memory. -/
structure Refines (objects : τ → Table ObjectKey AwsCluster) (before after : AwsCluster)
    (store : Store) (sent : List (ApiExchange τ))
    (served : Except ControllerError (Option String) × τ)
    (kept : Except ControllerError (Option String) × Store) : Prop where
  /-- The patches are sent one after the other, the second one only if the first is not refused. -/
  conversation : Conversation after.key before after sent served.1
  /-- Nothing is sent exactly if nothing differs. -/
  silent_iff : sent = [] ↔ before.status = after.status ∧ before.spec = after.spec ∧
    before.hasFinalizer = after.hasFinalizer
  /-- Memory applies what is sent, up to the patch that is refused. -/
  applied : ∃ applied, kept.2.log = store.log ++ applied ∧
    match served.1 with
    | .ok _ => ApiExchange.patches sent = applied
    | .error _ => ∃ refused, ApiExchange.patches sent = applied ++ [refused]
  /-- Both succeed or neither does, and the version is the same. -/
  succeeds_iff : ∀ version, served.1 = .ok version ↔ kept.1 = .ok version
  /-- In the end both hold the same objects. -/
  objects : objects served.2 = kept.2.awsClusters

/-- Persisting a change through a regular server does what persisting it in memory does. -/
theorem persist_refines_memory (server : ApiServer τ) (objects : τ → Table ObjectKey AwsCluster)
    {before after object : AwsCluster} {store : Store} {state : τ}
    (hkey : after.key.isAddressable = true) (hview : objects state = store.awsClusters)
    (hstored : store.awsClusters.get? after.key = some object) (hlive : object.isFinished = false)
    (hregular : ∀ x ∈ exchanges server before after state, x.Regular objects) :
    Refines objects before after store (exchanges server before after state)
      (persist server before after state) (store.persist before after) := by
  obtain ⟨result, middle, first, hstatus, halike⟩ := alike_write hkey hview hstored hlive
    (fun _ hpatch => Part.patched?_status hpatch)
    (fun x hx => hregular x (subset_exchanges server before hkey state hx))
  rw [← persist_recorded server before after (state, [])]
  rw [exchanges, persist_of_isAddressable server.recorded before hkey, hstatus,
    List.nil_append] at hregular ⊢
  simp only [Store.persist, hstored]
  generalize store.write after.key object _ _ = written at halike ⊢
  cases halike with
  | @failed _ _ e e' hsends hafter =>
    have hconversation : Conversation after.key before after first (.error e) := .halted hsends
    obtain ⟨patch, hpatch⟩ := hsends.exists_patch
    refine ⟨hconversation, hconversation.eq_nil_iff, ⟨[], (List.append_nil _).symm, patch, ?_⟩,
      fun _ => by simp, hafter⟩
    rw [hsends.patches_eq, hpatch]
    rfl
  | @done store' updated version _ _ hsends hwrites hstored' hafter hlog =>
    -- the status was written, so the object is still there and the second write finds it
    have hlive' : updated.isFinished = false := hwrites.isFinished_eq.trans hlive
    have hview' : objects middle = store'.awsClusters := by
      rw [hafter, Store.collect, hlive']
      rfl
    obtain ⟨result, last, second, hobject, halike⟩ := alike_write hkey hview' hstored' hlive'
      (fun _ hpatch => Part.patched?_whole hpatch) hregular
    simp only [hobject]
    generalize store'.write after.key updated version _ = written at halike ⊢
    cases halike with
    | @failed _ _ e e' hsends' hafter' =>
      have hconversation : Conversation after.key before after (first ++ second) (.error e) :=
        .continued hsends hsends'
      obtain ⟨patch, hpatch⟩ := hsends'.exists_patch
      refine ⟨hconversation, hconversation.eq_nil_iff,
        ⟨ApiExchange.patches first, hlog, patch, ?_⟩, fun _ => by simp, hafter'⟩
      rw [ApiExchange.patches_append, hsends'.patches_eq, hpatch]
      rfl
    | @done _ _ version' _ _ hsends' _ _ hafter' hlog' =>
      have hconversation : Conversation after.key before after (first ++ second) (.ok version') :=
        .continued hsends hsends'
      refine ⟨hconversation, hconversation.eq_nil_iff,
        ⟨ApiExchange.patches (first ++ second), ?_, rfl⟩, fun _ => Iff.rfl, hafter'⟩
      rw [Store.log_collect, hlog', hlog, ApiExchange.patches_append, List.append_assoc]

end Kubernetes

namespace Sample

/-- A patch that applies is written by an exchange with the server that is regular. -/
theorem exists_write_apiServer {key : ObjectKey} {object updated : AwsCluster} {part : Part}
    {patch : Patch} (hkey : key.isAddressable = true) (version : Option String)
    (log : List (ApiExchange (Option AwsCluster)))
    (hpatched : part.patched? patch object = some updated) (hlive : updated.isFinished = false)
    (hread : (Json.parse (shown updated)).toOption.bind Codec.decode? = some updated) :
    ∃ x : ApiExchange (Option AwsCluster), x.Regular (held key) ∧
      Kubernetes.write (apiServer key).recorded key part.path version (some patch)
        (some object, log)
        = (.ok updated.metadata.resourceVersion, some updated, log ++ [x]) := by
  obtain ⟨x, hbefore, hasks, hserved, hwrite⟩ :=
    Kubernetes.exists_exchange (apiServer key) hkey part version patch (some object) log
  have hupdated : updated? key x.request x.before = some updated := by
    rw [updated?_eq hkey hkey hasks, hbefore, held, Option.elim_some, Table.get?_insert_self,
      Option.bind_some, hpatched]
  refine ⟨x, regular_of_apiServer hkey hserved fun found hfound => ?_, ?_⟩
  · cases hupdated.symm.trans hfound
    exact hread
  · rw [apiServer, hupdated] at hserved
    obtain ⟨hresponse, hafter⟩ := Prod.mk.inj hserved
    have hshows : x.response.Shows updated := hresponse ▸ ⟨rfl, _, rfl, hread⟩
    rw [hwrite, Kubernetes.readObject_of_shows hshows, ← hafter, hlive]
    rfl

/-- An object with little to show. -/
def plain (name : String) : AwsCluster where
  metadata := { name := some name, ns := some "default", resourceVersion := some "1" }
  spec := { region := "eu" }

/-- The object with a status. -/
def observed (name : String) : AwsCluster := { plain name with status := some { ready := true } }

/-- The object with a status, in another region. -/
def moved : AwsCluster := { observed "infra" with spec := { region := "us" } }

/-- A store in memory that holds what a server holds. -/
def twin (object : AwsCluster) : Store := { awsClusters := held object.key (some object) }

theorem exists_exchanges_moved : ∃ x y : ApiExchange (Option AwsCluster),
    Kubernetes.exchanges (apiServer key) (plain "infra") moved (some (plain "infra")) = [x, y] ∧
      x.Regular (held key) ∧ y.Regular (held key) := by
  let status := Changes.guard (some "1") ++ Changes.statusOperations none moved.status
  let spec := Changes.guard (some "2") ++ Changes.specOperations (plain "infra").spec moved.spec
  have hstatus : Changes.statusPatch? (plain "infra") moved (some "1") = some status := by decide
  have hspec : Changes.objectPatch? (plain "infra") moved (some "2") = some spec := by decide
  have hobserved : Part.status.patched? status (plain "infra")
      = some ((observed "infra").withVersion (some "2")) := by
    decide +kernel
  have hmoved : Part.whole.patched? spec ((observed "infra").withVersion (some "2"))
      = some (moved.withVersion (some "3")) := by
    decide +kernel
  have hkey : key.isAddressable = true := by decide
  obtain ⟨x, hx, hfirst⟩ := exists_write_apiServer hkey (some "1") [] hobserved (by decide)
    (by decide +kernel)
  obtain ⟨y, hy, hsecond⟩ := exists_write_apiServer hkey (some "2") [x] hmoved (by decide)
    (by decide +kernel)
  have hnext : ((observed "infra").withVersion (some "2")).metadata.resourceVersion
      = some "2" := rfl
  rw [← hstatus, hnext] at hfirst
  rw [← hspec] at hsecond
  have hnamed : moved.key = key := rfl
  have hversion : (plain "infra").metadata.resourceVersion = some "1" := rfl
  refine ⟨x, y, ?_, hx, hy⟩
  rw [Kubernetes.exchanges, Kubernetes.persist_of_isAddressable _ _ (hnamed ▸ hkey), hnamed,
    hversion, hfirst]
  simp only [List.nil_append, hsecond, List.singleton_append]

end Sample

namespace Kubernetes

/-- Status and spec are written in two requests. -/
theorem sample_persist_refines_memory :
    Sample.moved.key.isAddressable = true ∧ (Sample.plain "infra").isFinished = false ∧
    (exchanges (Sample.apiServer Sample.key) (Sample.plain "infra") Sample.moved
      (some (Sample.plain "infra"))).length = 2 ∧
    Refines (Sample.held Sample.key) (Sample.plain "infra") Sample.moved
      (Sample.twin (Sample.plain "infra"))
      (exchanges (Sample.apiServer Sample.key) (Sample.plain "infra") Sample.moved
        (some (Sample.plain "infra")))
      (persist (Sample.apiServer Sample.key) (Sample.plain "infra") Sample.moved
        (some (Sample.plain "infra")))
      ((Sample.twin (Sample.plain "infra")).persist (Sample.plain "infra") Sample.moved) := by
  have hkey : Sample.moved.key.isAddressable = true := by decide
  have hlive : (Sample.plain "infra").isFinished = false := by decide
  have hstored : (Sample.twin (Sample.plain "infra")).awsClusters.get? Sample.moved.key
      = some (Sample.plain "infra") :=
    Table.get?_insert_self ..
  obtain ⟨x, y, hsent, hx, hy⟩ := Sample.exists_exchanges_moved
  refine ⟨hkey, hlive, by rw [hsent]; rfl, ?_⟩
  refine persist_refines_memory (Sample.apiServer Sample.key) (Sample.held Sample.key) hkey rfl
    hstored hlive ?_
  rw [hsent]
  exact List.forall_mem_cons.2 ⟨hx, List.forall_mem_singleton.2 hy⟩

/-- With a blank in its name an object can be stored, and a change of its status is persisted in
memory, but no request can be sent for it. -/
theorem unsendable_change_persisted_in_memory :
    (Sample.observed "a b").key.ns = "default" ∧ (Sample.observed "a b").key.name = "a b" ∧
    (Sample.held (Sample.plain "a b").key (some (Sample.plain "a b"))).get?
      (Sample.observed "a b").key = some (Sample.plain "a b") ∧
    (exchanges (Sample.apiServer (Sample.plain "a b").key) (Sample.plain "a b")
      (Sample.observed "a b") (some (Sample.plain "a b"))).length = 0 ∧
    (persist (Sample.apiServer (Sample.plain "a b").key) (Sample.plain "a b")
      (Sample.observed "a b") (some (Sample.plain "a b"))).1 = .error (.kube .unsendable) ∧
    ((Sample.twin (Sample.plain "a b")).persist (Sample.plain "a b") (Sample.observed "a b")).1
      = .ok (some "2") := by
  refine ⟨rfl, rfl, Table.get?_insert_self .., ?_, ?_, ?_⟩ <;> decide +kernel

end Kubernetes

end ClusterInfra
