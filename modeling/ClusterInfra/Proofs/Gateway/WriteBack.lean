import ClusterInfra.Proofs.Gateway.Dialogue
import ClusterInfra.Proofs.Http.Retries
import ClusterInfra.Proofs.Sample
/-!
What calls of the gateway write back.

A call either fails and leaves its object as it was, or it succeeds and writes what the last
response told into the part of the object that is its own. Nothing is written before that response
is read, so a transport that fails, a response that is refused and a document that cannot be read
have the same effect: none.
-/

namespace ClusterInfra

open Http (Response Traffic)

variable {τ ρ : Type}

namespace Http

/-- The traffic of a request ends with what came back last. -/
theorem Tries.getLast?_eq {request : Request} {pauses : List Nat} {traffic : List Traffic}
    {answer : Except TransportError Response} (h : Tries request pauses traffic answer) :
    traffic.getLast? = some (.sent request answer) := by
  induction h with
  | last answer => rfl
  | final pause rest hfinal => rfl
  | again htransient _ ih => rw [List.getLast?_cons_cons, List.getLast?_cons, ih, Option.getD_some]

end Http

namespace Gateway

/-- What a response that lets a call succeed makes of an object: the call has a part of the object
to itself, and everything else stays. What is told is written into the status, or into the default
one where there is none; what is gone is taken out, except that where there is no status a bastion
or a load balancer need not be. -/
inductive WritesBack (object : AwsCluster) (response : Response) :
    ServiceCall → AwsCluster → Prop
  /-- Where no subnets are told, those wanted stay. -/
  | network {answer : NetworkResponse} (h : response.Tells answer) :
      WritesBack object response ⟨.reconcile, .network⟩ { object with
        spec.network.vpc := answer.vpc
        spec.network.subnets :=
          if answer.subnets = [] then object.spec.network.subnets else answer.subnets }
  | networkGone (h : response.TellsGone) : WritesBack object response ⟨.delete, .network⟩ object
  | securityGroups {answer : SecurityGroupsResponse} (h : response.Tells answer) :
      WritesBack object response ⟨.reconcile, .securityGroups⟩ { object with
        status := some { object.statusOrDefault with
          network.securityGroups := answer.securityGroups } }
  | securityGroupsGone (h : response.TellsGone) :
      WritesBack object response ⟨.delete, .securityGroups⟩ { object with
        status := some { object.statusOrDefault with network.securityGroups := {} } }
  | bastion {answer : BastionResponse} (henabled : object.spec.bastion.enabled = true)
      (h : response.Tells answer) :
      WritesBack object response ⟨.reconcile, .bastion⟩ { object with
        status := some { object.statusOrDefault with bastion := answer.machine } }
  /-- A bastion that is not wanted is deleted. -/
  | bastionUnwanted (hdisabled : object.spec.bastion.enabled = false) (h : response.TellsGone) :
      WritesBack object response ⟨.reconcile, .bastion⟩ { object with
        status := object.status.map ({ · with bastion := none }) }
  | bastionGone (h : response.TellsGone) :
      WritesBack object response ⟨.delete, .bastion⟩ { object with
        status := object.status.map ({ · with bastion := none }) }
  | loadBalancer {answer : LoadBalancerResponse} (h : response.Tells answer) :
      WritesBack object response ⟨.reconcile, .loadBalancer⟩ { object with
        status := some { object.statusOrDefault with
          network.apiServerLoadBalancer := answer.balancer } }
  | loadBalancerGone (h : response.TellsGone) :
      WritesBack object response ⟨.delete, .loadBalancer⟩ { object with
        status := object.status.map ({ · with network.apiServerLoadBalancer := {} }) }

variable {path : String} {object updated : AwsCluster} {subsystem : Subsystem} {document : Json}
  {response : Response}

/-! ### What settles a call -/

/-- What is wanted is settled by a response that tells it. -/
theorem settle_some_iff : settle path object subsystem (some document) response = .ok updated ↔
    ∃ answer : subsystem.Answer,
      response.Tells answer ∧ accept object subsystem answer = updated := by
  have htells : ∀ answer : subsystem.Answer, response.Tells answer ↔
      Http.Client.content subsystem.Answer .put path response = .ok answer :=
    fun _ => Http.Client.content_eq_ok_iff.symm
  simp only [settle, htells]
  cases Http.Client.content subsystem.Answer .put path response with
  | error e => exact iff_of_false nofun fun ⟨_, h, _⟩ => nomatch h
  | ok answer => simp only [Except.map, Except.ok.injEq, exists_eq_left']

/-- What is to be gone is settled by a response that tells so. -/
theorem settle_none_iff : settle path object subsystem none response = .ok updated ↔
    response.TellsGone ∧ remove object subsystem = updated := by
  rw [← Response.tellsGone_iff, settle, gone]
  split
  next h => simp only [Except.map, Except.ok.injEq, h, true_and]
  next h => exact iff_of_false nofun fun hgone => h hgone.1

theorem accept_network (object : AwsCluster) (answer : NetworkResponse) :
    accept object .network answer = { object with
      spec.network.vpc := answer.vpc
      spec.network.subnets :=
        if answer.subnets = [] then object.spec.network.subnets else answer.subnets } := by
  simp only [accept, withNetwork, List.isEmpty_iff]

theorem ifObserved_modifyStatus (change : AwsClusterStatus → AwsClusterStatus)
    (object : AwsCluster) : ifObserved (·.modifyStatus change) object
      = { object with status := object.status.map change } := by
  obtain ⟨metadata, spec, status⟩ := object
  cases status <;> rfl

theorem remove_bastion (object : AwsCluster) : remove object .bastion
      = { object with status := object.status.map ({ · with bastion := none }) } :=
  ifObserved_modifyStatus _ object

theorem remove_loadBalancer (object : AwsCluster) : remove object .loadBalancer
      = { object with
        status := object.status.map ({ · with network.apiServerLoadBalancer := {} }) } :=
  ifObserved_modifyStatus _ object

/-- Where something is wanted, what the response tells is written back. -/
theorem writesBack_iff_of_wanted {call : ServiceCall}
    (hwanted : wanted? object call = some document) :
    WritesBack object response call updated ↔ ∃ answer : call.subsystem.Answer,
      response.Tells answer ∧ accept object call.subsystem answer = updated := by
  constructor
  · intro h
    cases h with
    | network htells => exact ⟨_, htells, accept_network object _⟩
    | securityGroups htells => exact ⟨_, htells, rfl⟩
    | bastion _ htells => exact ⟨_, htells, rfl⟩
    | bastionUnwanted hdisabled => simp [wanted?, hdisabled] at hwanted
    | loadBalancer htells => exact ⟨_, htells, rfl⟩
    | networkGone => cases hwanted
    | securityGroupsGone => cases hwanted
    | bastionGone => cases hwanted
    | loadBalancerGone => cases hwanted
  · rintro ⟨answer, htells, rfl⟩
    obtain ⟨action, subsystem⟩ := call
    cases action with
    | delete => cases hwanted
    | reconcile =>
      cases subsystem with
      | network =>
        rw [accept_network object answer]
        exact .network htells
      | securityGroups => exact .securityGroups htells
      | bastion =>
        have henabled : object.spec.bastion.enabled = true := by
          by_contra hdisabled
          simp [wanted?, hdisabled] at hwanted
        exact .bastion henabled htells
      | loadBalancer => exact .loadBalancer htells

/-- Where nothing is wanted, what the response tells to be gone is taken out. -/
theorem writesBack_iff_of_unwanted {call : ServiceCall} (hunwanted : wanted? object call = none) :
    WritesBack object response call updated ↔
      response.TellsGone ∧ remove object call.subsystem = updated := by
  constructor
  · intro h
    cases h with
    | network => cases hunwanted
    | securityGroups => cases hunwanted
    | bastion henabled => simp [wanted?, henabled] at hunwanted
    | bastionUnwanted _ hgone => exact ⟨hgone, remove_bastion object⟩
    | loadBalancer => cases hunwanted
    | networkGone hgone => exact ⟨hgone, rfl⟩
    | securityGroupsGone hgone => exact ⟨hgone, rfl⟩
    | bastionGone hgone => exact ⟨hgone, remove_bastion object⟩
    | loadBalancerGone hgone => exact ⟨hgone, remove_loadBalancer object⟩
  · rintro ⟨hgone, rfl⟩
    obtain ⟨action, subsystem⟩ := call
    cases subsystem with
    | network =>
      cases action with
      | reconcile => cases hunwanted
      | delete => exact .networkGone hgone
    | securityGroups =>
      cases action with
      | reconcile => cases hunwanted
      | delete => exact .securityGroupsGone hgone
    | bastion =>
      simp only [remove_bastion]
      cases action with
      | reconcile =>
        have hdisabled : object.spec.bastion.enabled = false := by
          by_contra henabled
          simp [wanted?, henabled] at hunwanted
        exact .bastionUnwanted hdisabled hgone
      | delete => exact .bastionGone hgone
    | loadBalancer =>
      simp only [remove_loadBalancer]
      cases action with
      | reconcile => cases hunwanted
      | delete => exact .loadBalancerGone hgone

/-- A call is settled with what the response makes of its object. -/
theorem settle_iff {call : ServiceCall} :
    settle path object call.subsystem (wanted? object call) response = .ok updated ↔
      WritesBack object response call updated := by
  cases hwanted : wanted? object call with
  | some document => exact settle_some_iff.trans (writesBack_iff_of_wanted hwanted).symm
  | none => exact settle_none_iff.trans (writesBack_iff_of_unwanted hwanted).symm

/-! ### All or nothing -/

/-- A call deletes its subsystem if that is asked for, or if it is a bastion that is not wanted. -/
theorem method_wanted? (object : AwsCluster) (call : ServiceCall) :
    method (wanted? object call) =
      if call.action = .delete ∨ call.subsystem = .bastion ∧ object.spec.bastion.enabled = false
      then .delete else .put := by
  obtain ⟨action, subsystem⟩ := call
  cases action with
  | delete => rfl
  | reconcile =>
    cases subsystem with
    | bastion => cases henabled : object.spec.bastion.enabled <;> simp [wanted?, method, henabled]
    | network => rfl
    | securityGroups => rfl
    | loadBalancer => rfl

/-- Whatever the gateway answers, a call succeeds exactly if the last thing that comes back is a
response that lets it, and then that response is written back; else it fails and its object is what
it was. What is sent is a deletion where something is to be gone, and an update elsewhere. -/
theorem call_writes_back_or_fails (gateway : Gateway τ) (resolve : String → ρ → Lookup × ρ)
    (call : ServiceCall) (context : ServiceContext) (object : AwsCluster) (state : τ) (names : ρ) :
    let said := (gateway.recorded.call call context object (state, [])).2.2
    let answer := ((gateway.cloud resolve).call call context object (state, names)).1
    (∀ request ∈ Traffic.requests said, request.method =
      if call.action = .delete ∨ call.subsystem = .bastion ∧ object.spec.bastion.enabled = false
      then .delete else .put) ∧
    ((answer.ending = .done ∧ ∃ request response,
        said.getLast? = some (.sent request (.ok response)) ∧
        WritesBack object response call answer.object) ∨
      ((∃ e, answer.ending = .failed e) ∧ answer.object = object ∧
        ∀ request response, said.getLast? = some (.sent request (.ok response)) →
          ∀ updated, ¬ WritesBack object response call updated)) := by
  obtain ⟨said, result, hexchanges, hcall, hrecorded⟩ :=
    gateway.exchanges_call call context object state []
  simp only [hrecorded, List.nil_append]
  refine ⟨fun request hmem => ?_, ?_⟩
  · rw [← method_wanted?]
    exact (Http.Client.Exchanges.asks hexchanges hmem).method
  · have hanswer : ((gateway.cloud resolve).call call context object (state, names)).1
        = reply object (result.bind (settle (context.subsystemPath call.subsystem) object
          call.subsystem (wanted? object call))) := congrArg (reply object) hcall
    rw [hanswer]
    cases hexchanges with
    | unsendable =>
      refine .inr ⟨⟨_, rfl⟩, rfl, fun _ _ hlast => ?_⟩
      cases hlast
    | failed hrequest htries =>
      refine .inr ⟨⟨_, rfl⟩, rfl, fun request response hlast => ?_⟩
      cases htries.getLast?_eq.symm.trans hlast
    | @answered request traffic response hrequest htries =>
      simp only [Except.bind]
      cases hsettle : settle (context.subsystemPath call.subsystem) object call.subsystem
        (wanted? object call) response with
      | ok updated =>
        exact .inl ⟨rfl, request, response, htries.getLast?_eq, settle_iff.1 hsettle⟩
      | error e =>
        refine .inr ⟨⟨e, rfl⟩, rfl, fun request response hlast updated hwrites => ?_⟩
        cases htries.getLast?_eq.symm.trans hlast
        cases hsettle.symm.trans (settle_iff.2 hwrites)

/-- The gateway of the sample is asked for a network, and the VPC that it answers is written back.
-/
example :
    let (answer, _, said) := Sample.gateway.recorded.call ⟨.reconcile, .network⟩
      ⟨"eu-west-1", "default", "infra"⟩ (Sample.object none) ((), [])
    answer.map (·.spec.network.vpc.id) = .ok (some "vpc-1") ∧
      (Traffic.requests said).map (fun request =>
          (request.method, request.url.text, request.authorization))
        = [(.put, "http://gateway/v1/regions/eu-west-1/namespaces/default/clusters/infra/network",
            "Bearer token")] := by decide +kernel

end Gateway

end ClusterInfra
