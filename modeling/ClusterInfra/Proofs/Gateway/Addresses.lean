import ClusterInfra.Proofs.Gateway.Dialogue
import ClusterInfra.Proofs.Net.Segments
import ClusterInfra.Proofs.Reconcile.Ownership
/-!
The addresses of subsystems.

The address of a subsystem is put together of the region, the namespace and the name of its cluster
as they are. It is split at its slashes into these again exactly if no slash stands in one of them,
and as long as namespace and name hold none, it tells cluster and subsystem, whatever the region.
What a request is sent to is another matter: it is read as a URL first. If region, namespace and
name stand for themselves in a URL, every call is sent to the address of its own subsystem behind
the base URL of the gateway, and no two subsystems share one. A region that delimits a part of a URL
takes the address of another cluster over.
-/

namespace ClusterInfra

open Http (Traffic)
open Net (Url)
open Net.Url (slashed)

/-! ### Paths -/

theorem Subsystem.label_injective {s t : Subsystem} (h : s.label = t.label) : s = t := by
  revert h
  cases s <;> cases t <;> decide

namespace ServiceContext

/-- The segments of the address of a subsystem. -/
def segments (context : ServiceContext) (subsystem : Subsystem) : List String :=
  ["v1", "regions", context.region, "namespaces", context.ns, "clusters", context.clusterName,
    subsystem.label]

/-- Whether all parts of the context stand for themselves in a URL. -/
def isPlain (context : ServiceContext) : Bool :=
  [context.region, context.ns, context.clusterName].all fun part => Url.isPlain part.toList

variable (context : ServiceContext) (subsystem : Subsystem)

theorem toList_subsystemPath : (context.subsystemPath subsystem).toList
    = slashed ((context.segments subsystem).map String.toList) := by
  have hregions : "/v1/regions/".toList = slashed ["v1".toList, "regions".toList] ++ ['/'] := by
    decide
  have hnamespaces : "/namespaces/".toList = slashed ["namespaces".toList] ++ ['/'] := by decide
  have hclusters : "/clusters/".toList = slashed ["clusters".toList] ++ ['/'] := by decide
  have hslash : "/".toList = ['/'] := by decide
  unfold subsystemPath segments
  simp only [String.toList_append]
  rw [hregions, hnamespaces, hclusters, hslash]
  simp only [slashed, List.map_cons, List.map_nil, List.flatMap_cons, List.flatMap_nil,
    List.append_assoc, List.cons_append, List.nil_append, List.append_nil]

theorem segments_injective {a b : ServiceContext} {s t : Subsystem}
    (h : a.segments s = b.segments t) : a = b ∧ s = t := by
  obtain ⟨region, ns, name⟩ := a
  obtain ⟨region', ns', name'⟩ := b
  simp only [segments, List.cons.injEq, true_and, and_true] at h
  obtain ⟨rfl, rfl, rfl, hlabel⟩ := h
  exact ⟨rfl, Subsystem.label_injective hlabel⟩

/-- What holds of the fixed segments holds of all if it holds of the parts of the context. -/
theorem forall_segments_iff (test : List Char → Prop) (hfixed : ∀ text ∈ ["v1", "regions",
    "namespaces", "clusters"] ++ Subsystem.creationOrder.map Subsystem.label, test text.toList) :
    (∀ segment ∈ context.segments subsystem, test segment.toList) ↔
      ∀ part ∈ [context.region, context.ns, context.clusterName], test part.toList := by
  have hlabel : subsystem.label ∈ Subsystem.creationOrder.map Subsystem.label := by
    cases subsystem <;> decide
  rw [List.forall_mem_append] at hfixed
  have hsubsystem := hfixed.2 subsystem.label hlabel
  simp only [segments, List.forall_mem_cons, List.not_mem_nil, false_implies, implies_true,
    and_true] at hfixed ⊢
  simp only [hfixed, hsubsystem, true_and, and_true]

/-- A path is split into its segments exactly if none of its parts holds a slash. -/
theorem splitOn_subsystemPath_iff :
    ((context.subsystemPath subsystem).toList.splitOn '/').map String.ofList
        = "" :: context.segments subsystem ↔
      ∀ part ∈ [context.region, context.ns, context.clusterName], '/' ∉ part.toList := by
  rw [toList_subsystemPath, ← forall_segments_iff context subsystem ('/' ∉ ·) (by decide)]
  generalize context.segments subsystem = segments
  constructor
  · intro h segment hmem hslash
    have hmem := h ▸ List.mem_cons_of_mem "" hmem
    obtain ⟨piece, hpiece, rfl⟩ := List.mem_map.1 hmem
    rw [String.toList_ofList] at hslash
    rw [List.splitOn_eq_splitOnP] at hpiece
    cases Url.not_mem_of_mem_splitOnP hpiece '/' hslash
  · intro h
    have hsplit := Url.splitOn_append_slashed (List.forall_mem_map.2 h) []
    rw [List.nil_append] at hsplit
    rw [hsplit, List.splitOn_nil, List.singleton_append, List.map_cons, List.map_map]
    simp only [Function.comp_def, String.ofList_toList, List.map_id']

/-- The segments behind the region. -/
def rear (context : ServiceContext) (subsystem : Subsystem) : List String :=
  ["namespaces", context.ns, "clusters", context.clusterName, subsystem.label]

/-- As long as namespace and name hold no slash, they are found in the last pieces of a path. The
region may hold slashes, so nothing can be said of the pieces before. -/
theorem splitOn_subsystemPath
    (h : ∀ part ∈ [context.ns, context.clusterName], '/' ∉ part.toList) :
    (context.subsystemPath subsystem).toList.splitOn '/'
      = (slashed (["v1", "regions", context.region].map String.toList)).splitOn '/'
        ++ (context.rear subsystem).map String.toList := by
  have hrear : ∀ segment ∈ context.rear subsystem, '/' ∉ segment.toList := by
    simp only [List.forall_mem_cons, List.not_mem_nil, false_implies, implies_true, and_true,
      rear] at h ⊢
    exact ⟨by decide, h.1, by decide, h.2, by cases subsystem <;> decide⟩
  rw [toList_subsystemPath, ← Url.splitOn_append_slashed (List.forall_mem_map.2 hrear),
    ← Url.slashed_append]
  rfl

/-- As long as namespaces and names hold no slash, a path tells whose it is. -/
theorem subsystemPath_inj {a b : ServiceContext} {s t : Subsystem}
    (ha : ∀ part ∈ [a.ns, a.clusterName], '/' ∉ part.toList)
    (hb : ∀ part ∈ [b.ns, b.clusterName], '/' ∉ part.toList)
    (h : a.subsystemPath s = b.subsystemPath t) : a = b ∧ s = t := by
  have hpieces := congrArg (·.toList.splitOn '/') h
  simp only [a.splitOn_subsystemPath s ha, b.splitOn_subsystemPath t hb] at hpieces
  obtain ⟨hfront, hrear⟩ := List.append_inj' hpieces rfl
  have hregions := congrArg (['/'].intercalate ·) hfront
  simp only [List.intercalate_splitOn, List.map_cons, List.map_nil, slashed,
    List.flatMap_cons, List.flatMap_nil, List.append_nil, List.append_cancel_left_eq,
    List.cons.injEq, true_and, String.toList_inj] at hregions
  have htexts := (List.map_inj_right fun _ _ => String.toList_injective).1 hrear
  simp only [rear, List.cons.injEq, true_and, and_true] at htexts
  refine segments_injective ?_
  simp only [segments, hregions, htexts]

/-! ### Addresses -/

variable {context subsystem}

/-- The segments of a context that stands for itself stand for themselves. -/
theorem isPlain_segments (h : context.isPlain = true) :
    ∀ segment ∈ (context.segments subsystem).map String.toList, Url.isPlain segment = true := by
  rw [List.forall_mem_map, forall_segments_iff context subsystem (Url.isPlain · = true) (by decide)]
  exact List.all_eq_true.1 h

/-- A path ends with the label of its subsystem. -/
theorem exists_getLast?_slashed : ∃ last,
    (slashed ((context.segments subsystem).map String.toList)).getLast? = some last ∧
      32 < last.toNat := by
  obtain ⟨front, hfront⟩ : ∃ front, (context.segments subsystem).map String.toList
      = front ++ [subsystem.label.toList] :=
    ⟨["v1", "regions", context.region, "namespaces", context.ns, "clusters",
      context.clusterName].map String.toList, rfl⟩
  rw [hfront, Url.slashed_append, List.getLast?_append]
  cases subsystem with
  | network => exact ⟨'k', rfl, by decide⟩
  | securityGroups => exact ⟨'s', rfl, by decide⟩
  | bastion => exact ⟨'n', rfl, by decide⟩
  | loadBalancer => exact ⟨'r', rfl, by decide⟩

theorem urlText_subsystemPath (client : Http.Client) :
    client.urlText (context.subsystemPath subsystem)
      = client.baseUrl ++ context.subsystemPath subsystem := by
  refine if_neg ?_
  rw [Bool.not_eq_true, String.startsWith_string_eq_false_iff, toList_subsystemPath]
  rintro ⟨rest, hrest⟩
  have hhead : some 'h' = some '/' := congrArg List.head? hrest
  cases hhead

end ServiceContext

namespace Gateway

variable {τ : Type}

/-- The requests that are sent in a call. -/
def requests (gateway : Gateway τ) (call : ServiceCall) (context : ServiceContext)
    (object : AwsCluster) (state : τ) : List Http.Request :=
  Traffic.requests (gateway.recorded.call call context object (state, [])).2.2

/-- A call sends nothing but the request for what is wanted, and it does so if its client can ask
for the path. -/
theorem asks_requests (gateway : Gateway τ) (call : ServiceCall) (context : ServiceContext)
    (object : AwsCluster) (state : τ) :
    (∀ request ∈ gateway.requests call context object state,
      Asks gateway.client context call.subsystem (wanted? object call) request) ∧
    (gateway.client.CanAsk (context.subsystemPath call.subsystem) →
      gateway.requests call context object state ≠ []) := by
  obtain ⟨traffic, result, hexchanges, -, hrecorded⟩ :=
    gateway.exchanges_call call context object state []
  rw [requests, hrecorded]
  exact ⟨fun _ hmem => Http.Client.Exchanges.asks hexchanges hmem,
    fun hcan => Http.Client.Exchanges.requests_ne_nil hexchanges hcan⟩

/-- Behind a base URL without query and fragment, calls on behalf of a cluster whose parts stand for
themselves go to the addresses of its subsystems; and they are sent, if the base URL does not end
with a blank and the token can be shown. -/
theorem exists_address (gateway : Gateway τ) {base : Url}
    (hbase : Url.read? gateway.client.baseUrl = some base) (hquery : base.query = none)
    (hfragment : base.fragment = none) :
    ∃ server : Url, server.query = none ∧ server.fragment = none ∧
      ∀ context : ServiceContext, context.isPlain = true → ∀ call object state,
        (∀ request ∈ gateway.requests call context object state,
          request.url = server.extend ((context.segments call.subsystem).map String.toList)) ∧
        ((∀ c ∈ gateway.client.baseUrl.toList.getLast?, 32 < c.toNat) →
          Http.Client.isHeaderValue gateway.client.authorization = true →
            gateway.requests call context object state ≠ []) := by
  obtain ⟨server?, hserver, hsome, hread⟩ := Url.exists_server hbase hquery hfragment
  have hurl : ∀ context : ServiceContext, context.isPlain = true → ∀ subsystem,
      Url.read? (gateway.client.urlText (context.subsystemPath subsystem))
        = server?.map (·.extend ((context.segments subsystem).map String.toList)) := by
    intro context hplain subsystem
    obtain ⟨last, hlast, hblank⟩ := ServiceContext.exists_getLast?_slashed
    refine hread ?_ hlast hblank (ServiceContext.isPlain_segments hplain)
    rw [ServiceContext.urlText_subsystemPath, String.toList_append,
      ServiceContext.toList_subsystemPath]
  have hgoes : ∀ {call : ServiceCall} {context : ServiceContext} {object : AwsCluster} {state : τ},
      context.isPlain = true → ∀ request ∈ gateway.requests call context object state,
        server?.map (·.extend ((context.segments call.subsystem).map String.toList))
          = some request.url := by
    intro call context object state hplain request hmem
    rw [← hurl context hplain]
    exact ((gateway.asks_requests call context object state).1 request hmem).url
  cases server? with
  | none =>
    refine ⟨base, hquery, hfragment, fun context hplain call object state => ⟨?_, ?_⟩⟩
    · intro request hmem
      cases hgoes hplain request hmem
    · intro hlast
      cases hsome hlast
  | some server =>
    obtain ⟨hserverQuery, hserverFragment⟩ := hserver server rfl
    refine ⟨server, hserverQuery, hserverFragment, fun context hplain call object state => ⟨?_, ?_⟩⟩
    · intro request hmem
      exact (Option.some.inj (hgoes hplain request hmem)).symm
    · intro _ hshown
      exact (gateway.asks_requests call context object state).2
        ⟨⟨_, hurl context hplain call.subsystem⟩, hshown⟩

/-- A path is split into its parts exactly if none of them holds a slash, and as long as namespaces
and names hold none, it tells cluster and subsystem, whatever the regions are. Behind a base URL
without query and fragment, every call on behalf of a cluster whose region, namespace and name stand
for themselves is sent to the address of its own subsystem, unless no request can be built, and that
is the address of no other subsystem and of no other such cluster. -/
theorem addresses_do_not_collide (gateway : Gateway τ) {base : Url}
    (hbase : Url.read? gateway.client.baseUrl = some base) (hquery : base.query = none)
    (hfragment : base.fragment = none) :
    (∀ (context : ServiceContext) (subsystem : Subsystem),
      ((context.subsystemPath subsystem).toList.splitOn '/').map String.ofList
          = ["", "v1", "regions", context.region, "namespaces", context.ns, "clusters",
            context.clusterName, subsystem.label] ↔
        ∀ part ∈ [context.region, context.ns, context.clusterName], '/' ∉ part.toList) ∧
    (∀ (a b : ServiceContext) (s t : Subsystem),
      (∀ part ∈ [a.ns, a.clusterName, b.ns, b.clusterName], '/' ∉ part.toList) →
      a.subsystemPath s = b.subsystemPath t → a = b ∧ s = t) ∧
    ∃ server : Url, server.query = none ∧ server.fragment = none ∧
      (∀ context : ServiceContext, context.isPlain = true → ∀ call object state,
        (∀ request ∈ gateway.requests call context object state,
          request.url = server.extend ((context.segments call.subsystem).map String.toList)) ∧
        ((∀ c ∈ gateway.client.baseUrl.toList.getLast?, 32 < c.toNat) →
          Http.Client.isHeaderValue gateway.client.authorization = true →
            gateway.requests call context object state ≠ [])) ∧
      ∀ a b : ServiceContext, a.isPlain = true → b.isPlain = true →
        ∀ call object state, ∀ request ∈ gateway.requests call a object state,
        ∀ call' object' state', ∀ request' ∈ gateway.requests call' b object' state',
          request.url.target = request'.url.target → a = b ∧ call.subsystem = call'.subsystem := by
  refine ⟨ServiceContext.splitOn_subsystemPath_iff, fun a b s t hfree h => ?_, ?_⟩
  · have hparts : (∀ part ∈ [a.ns, a.clusterName], '/' ∉ part.toList) ∧
        ∀ part ∈ [b.ns, b.clusterName], '/' ∉ part.toList := List.forall_mem_append.1 hfree
    exact ServiceContext.subsystemPath_inj hparts.1 hparts.2 h
  · obtain ⟨server, hserverQuery, hserverFragment, hsent⟩ :=
      exists_address gateway hbase hquery hfragment
    refine ⟨server, hserverQuery, hserverFragment, hsent, ?_⟩
    intro a b ha hb call object state request hmem call' object' state' request' hmem' htarget
    rw [(hsent a ha call object state).1 request hmem,
      (hsent b hb call' object' state').1 request' hmem'] at htarget
    have hsegments := Url.extend_inj hserverQuery (List.cons_ne_nil _ _) (List.cons_ne_nil _ _)
      (ServiceContext.isPlain_segments ha) (ServiceContext.isPlain_segments hb) htarget
    exact ServiceContext.segments_injective
      ((List.map_inj_right fun _ _ => String.toList_injective).1 hsegments)

end Gateway

namespace Sample

/-- The context of the object. -/
def context : ServiceContext := ⟨"eu-west-1", "default", "infra"⟩

/-- A context whose region is encoded. -/
def encodedContext : ServiceContext := { context with region := "eu west 1" }

/-- An object of another namespace, whose region is more than the name of one. -/
def intruder : AwsCluster where
  metadata := { name := some "intruder", ns := some "other" }
  spec := { region := "eu-west-1/namespaces/default/clusters/infra/network#" }

/-- The context of the intruder. -/
def intrudingContext : ServiceContext := ⟨intruder.spec.region, "other", "intruder"⟩

end Sample

namespace Gateway

theorem sample_addresses_do_not_collide :
    ((Sample.context.subsystemPath .network).toList.splitOn '/').map String.ofList
      = ["", "v1", "regions", "eu-west-1", "namespaces", "default", "clusters", "infra",
        "network"] ∧
    Sample.context.subsystemPath .network ≠ Sample.intrudingContext.subsystemPath .network ∧
    ∀ call object, Sample.gateway.requests call Sample.encodedContext object () ≠ [] ∧
      ∀ request ∈ Sample.gateway.requests call Sample.context object (),
        ∀ request' ∈ Sample.gateway.requests call Sample.encodedContext object (),
          request.url.target ≠ request'.url.target := by
  have hbase : Url.read? Sample.gateway.client.baseUrl
      = some ⟨.http, "gateway", [""], none, none⟩ := by decide +kernel
  have hlast : Sample.gateway.client.baseUrl.toList.getLast? = some 'y' := by decide +kernel
  obtain ⟨hsplit, hpaths, server, -, -, hsent, hdiffer⟩ :=
    addresses_do_not_collide Sample.gateway hbase rfl rfl
  refine ⟨(hsplit Sample.context .network).2 (by decide), fun heq => ?_,
    fun call object => ⟨?_, ?_⟩⟩
  · have hsame := hpaths Sample.context _ .network .network (by decide) heq
    exact absurd hsame.1 (by decide)
  · refine (hsent Sample.encodedContext (by decide +kernel) call object ()).2 (fun c hc => ?_)
      (by decide +kernel)
    cases hlast.symm.trans hc
    decide
  · intro request hmem request' hmem' heq
    have hsame := hdiffer Sample.context Sample.encodedContext (by decide +kernel)
      (by decide +kernel) call object () request hmem call object () request' hmem' heq
    exact absurd hsame.1 (by decide)

/-- Both objects are accepted, and yet a call for the intruder goes to the address of the network of
the other one. -/
theorem address_of_sample_taken_over : ∃ mine other : Scope,
    Scope.of Sample.owner Sample.shared = .ok mine ∧
    Scope.of Sample.owner Sample.intruder = .ok other ∧
    mine.context.ns ≠ other.context.ns ∧
    ((other.context.subsystemPath .bastion).toList.splitOn '/').map String.ofList
      ≠ "" :: other.context.segments .bastion ∧
    (Sample.gateway.requests ⟨.delete, .network⟩ mine.context Sample.shared ()).map
        (fun request => (request.method, request.url.target))
      = [(.delete, "/v1/regions/eu-west-1/namespaces/default/clusters/infra/network")] ∧
    (Sample.gateway.requests ⟨.delete, .bastion⟩ other.context Sample.intruder ()).map
        (fun request => (request.method, request.url.target))
      = [(.delete, "/v1/regions/eu-west-1/namespaces/default/clusters/infra/network")] :=
  ⟨_, _, rfl, rfl, by decide, by decide +kernel, by decide +kernel, by decide +kernel⟩

end Gateway

end ClusterInfra
