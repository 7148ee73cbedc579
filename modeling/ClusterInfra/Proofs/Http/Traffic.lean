import ClusterInfra.Http.Client
/-!
The traffic between a client and a server.

A transport can keep a record of what it carries: the requests with what came back, and the pauses
in between. The record makes no difference to the exchange. It holds one request, sent as often as
its answers are transient and pauses are left, and the last answer is what the exchange goes on
with.
-/

namespace ClusterInfra.Http

/-- What happens between a client and a server. -/
inductive Traffic
  /-- A request was sent, and this came back. -/
  | sent (request : Request) (answer : Except TransportError Response)
  /-- The client waited for some milliseconds. -/
  | paused (millis : Nat)

/-- The requests that were sent. -/
def Traffic.requests (traffic : List Traffic) : List Request :=
  traffic.filterMap fun
    | sent request _ => some request
    | paused _ => none

theorem Traffic.mem_requests_of_prefix {part whole : List Traffic} (h : part <+: whole)
    {request : Request} (hmem : request ∈ requests part) : request ∈ requests whole :=
  (h.filterMap _).subset hmem

variable {τ : Type}

/-- A transport that keeps a record of its traffic. -/
def Transport.recorded (transport : Transport τ) : Transport (τ × List Traffic) where
  send request state :=
    let (answer, next) := transport.send request state.1
    (answer, next, state.2 ++ [.sent request answer])
  pause millis state := (transport.pause millis state.1, state.2 ++ [.paused millis])

/-- A request is sent until its answer is final or no pause is left; the last answer counts. -/
inductive Tries (request : Request) :
    List Nat → List Traffic → Except TransportError Response → Prop
  | last (answer : Except TransportError Response) : Tries request [] [.sent request answer] answer
  | final {answer : Except TransportError Response} (pause : Nat) (rest : List Nat)
      (hfinal : Client.isTransient answer = false) :
      Tries request (pause :: rest) [.sent request answer] answer
  | again {answer result : Except TransportError Response} {pause : Nat} {rest : List Nat}
      {traffic : List Traffic} (htransient : Client.isTransient answer = true)
      (h : Tries request rest traffic result) :
      Tries request (pause :: rest) (.sent request answer :: .paused pause :: traffic) result

namespace Tries

variable {request : Request} {pauses : List Nat} {traffic : List Traffic}
  {answer : Except TransportError Response}

/-- Whatever is sent is the request. -/
theorem eq_of_mem (h : Tries request pauses traffic answer) {other : Request}
    (hmem : other ∈ Traffic.requests traffic) : other = request := by
  induction h with
  | last answer => exact List.mem_singleton.1 hmem
  | final pause rest hfinal => exact List.mem_singleton.1 hmem
  | again htransient _ ih =>
    rcases List.mem_cons.1 hmem with heq | hmem
    · exact heq
    · exact ih hmem

theorem mem_requests (h : Tries request pauses traffic answer) :
    request ∈ Traffic.requests traffic := by
  cases h with
  | last => exact List.mem_cons_self
  | final => exact List.mem_cons_self
  | again => exact List.mem_cons_self

end Tries

namespace Client

/-- Sending with pauses tries a request, and the record shows it. -/
theorem tries_sendWith (transport : Transport τ) (request : Request) (pauses : List Nat) (state : τ)
    (log : List Traffic) : ∃ traffic,
      Tries request pauses traffic (sendWith transport request pauses state).1 ∧
      sendWith transport.recorded request pauses (state, log)
        = ((sendWith transport request pauses state).1,
          (sendWith transport request pauses state).2, log ++ traffic) := by
  induction pauses generalizing state log with
  | nil => exact ⟨_, .last _, rfl⟩
  | cons pause rest ih =>
    have hsend : transport.recorded.send request (state, log)
        = ((transport.send request state).1, (transport.send request state).2,
          log ++ [.sent request (transport.send request state).1]) := rfl
    rw [sendWith, sendWith, hsend]
    generalize transport.send request state = sent
    rcases sent with ⟨answer, next⟩
    simp only
    cases htransient : isTransient answer with
    | false => exact ⟨_, .final pause rest htransient, rfl⟩
    | true =>
      obtain ⟨traffic, htries, hrest⟩ := ih (transport.pause pause next)
        (log ++ [.sent request answer] ++ [.paused pause])
      refine ⟨_, .again htransient htries, ?_⟩
      have hpause : transport.recorded.pause pause (next, log ++ [.sent request answer])
          = (transport.pause pause next, log ++ [.sent request answer] ++ [.paused pause]) := rfl
      simp only [if_true, hpause]
      rw [hrest, List.append_assoc, List.append_assoc]
      rfl

/-- An exchange about a path, by its traffic and what comes of it. -/
inductive Exchanges (client : Client) (method : Method) (path : String) (body : Option Json) :
    List Traffic → Except ServiceError Response → Prop
  /-- The client cannot ask for the path. -/
  | unsendable (h : ¬ client.CanAsk path) :
      Exchanges client method path body [] (.error (.http "builder error"))
  | answered {request : Request} {traffic : List Traffic} {response : Response}
      (hasks : client.Asks method path body request)
      (htries : Tries request pauses traffic (.ok response)) :
      Exchanges client method path body traffic (.ok response)
  | failed {request : Request} {traffic : List Traffic} {e : TransportError}
      (hasks : client.Asks method path body request)
      (htries : Tries request pauses traffic (.error e)) :
      Exchanges client method path body traffic
        (.error (.http ("error sending request for url (" ++ request.url.text ++ ")")))

theorem exchanges_exchange (client : Client) (transport : Transport τ) (method : Method)
    (path : String) (body : Option Json) (state : τ) (log : List Traffic) : ∃ traffic,
      client.Exchanges method path body traffic
        (client.exchange transport method path body state).1 ∧
      client.exchange transport.recorded method path body (state, log)
        = ((client.exchange transport method path body state).1,
          (client.exchange transport method path body state).2, log ++ traffic) := by
  simp only [exchange]
  cases hrequest : client.request? method path body with
  | none => exact ⟨[], .unsendable (request?_eq_none_iff.1 hrequest), by rw [List.append_nil]⟩
  | some request =>
    obtain ⟨-, hasks⟩ := request?_eq_some_iff.1 hrequest
    obtain ⟨traffic, htries, hsend⟩ := tries_sendWith transport request pauses state log
    simp only [hsend]
    generalize sendWith transport request pauses state = sent at htries
    rcases sent with ⟨e | response, next⟩
    · exact ⟨traffic, .failed hasks htries, rfl⟩
    · exact ⟨traffic, .answered hasks htries, rfl⟩

namespace Exchanges

variable {client : Client} {method : Method} {path : String} {body : Option Json}
  {traffic : List Traffic} {result : Except ServiceError Response}

/-- An exchange sends nothing but the request for its path. -/
theorem asks (h : client.Exchanges method path body traffic result) {request : Request}
    (hmem : request ∈ Traffic.requests traffic) : client.Asks method path body request := by
  cases h with
  | unsendable => cases hmem
  | answered hasks htries => rwa [htries.eq_of_mem hmem]
  | failed hasks htries => rwa [htries.eq_of_mem hmem]

/-- It is sent if the client can ask for the path. -/
theorem requests_ne_nil (h : client.Exchanges method path body traffic result)
    (hcan : client.CanAsk path) : Traffic.requests traffic ≠ [] := by
  cases h with
  | unsendable hcannot => exact absurd hcan hcannot
  | answered hasks htries => exact List.ne_nil_of_mem htries.mem_requests
  | failed hasks htries => exact List.ne_nil_of_mem htries.mem_requests

end Exchanges

theorem andThen_eq {α : Type} (read : Response → Except ServiceError α)
    (exchange : Exchange τ Response) :
    andThen read exchange = (exchange.1.bind read, exchange.2) := by
  rcases exchange with ⟨e | response, state⟩ <;> rfl

end Client

end ClusterInfra.Http
