import ClusterInfra.Proofs.Http.Traffic
import Mathlib.Order.Bounds.Basic
/-!
Requests that are sent again.

Whatever a server replies to the attempts, a request is sent until a reply counts, which is one that
another attempt would not better, or the third. Between the attempts there is a pause of 200 and
then one of 400 milliseconds. What comes of the exchange depends on the last reply and on nothing
else, and the kind of an error tells what was wrong with it.
-/

namespace ClusterInfra.Http

/-- The replies of a server to the attempts, from the first one on. -/
abbrev Replies := Nat → Except TransportError Response

/-- A transport to a server with these replies. -/
def Replies.transport (replies : Replies) : Transport Nat where
  send _ attempt := (replies attempt, attempt + 1)
  pause _ attempt := attempt

/-- Whether another attempt may bring a better reply: the server failed or had too many requests, or
the attempt took too long or did not reach it. -/
def Passing : Except TransportError Response → Prop
  | .ok response => (500 ≤ response.status ∧ response.status < 600) ∨ response.status = 429
  | .error e => e = .timeout ∨ e = .unreachable

theorem isTransient_iff (reply : Except TransportError Response) :
    Client.isTransient reply = true ↔ Passing reply := by
  rcases reply with e | response
  · cases e with
    | timeout => exact iff_of_true rfl (.inl rfl)
    | unreachable => exact iff_of_true rfl (.inr rfl)
    | broken => exact iff_of_false nofun (by rintro (h | h) <;> cases h)
  · simp only [Client.isTransient, Response.isTransient, Passing, Bool.or_eq_true, Bool.and_eq_true,
      decide_eq_true_eq]

/-! ### The attempts -/

/-- The traffic of some attempts at a request: one, and another after each pause. -/
def attempts (request : Request) (replies : Replies) (first : Nat) : List Nat → List Traffic
  | [] => [.sent request (replies first)]
  | pause :: rest =>
    .sent request (replies first) :: .paused pause :: attempts request replies (first + 1) rest

/-- All attempts send the same request. -/
theorem requests_attempts (request : Request) (replies : Replies) (first : Nat)
    (pauses : List Nat) : Traffic.requests (attempts request replies first pauses)
      = List.replicate (pauses.length + 1) request := by
  induction pauses generalizing first with
  | nil => rfl
  | cons pause rest ih =>
    rw [List.length_cons, List.replicate_succ, ← ih (first + 1)]
    rfl

/-- The position of the last attempt, counted from a first one: no pause is left after it, or no
other attempt would better its reply. -/
def IsLast (replies : Replies) (first pauses last : Nat) : Prop :=
  IsLeast {k | k = pauses ∨ ¬ Passing (replies (first + k))} last

namespace IsLast

variable {replies : Replies} {first pauses last : Nat}

theorem zero (h : 0 = pauses ∨ ¬ Passing (replies first)) : IsLast replies first pauses 0 :=
  ⟨h, fun _ _ => Nat.zero_le _⟩

/-- After a reply that another attempt may better, the attempts go on as if it had not been. -/
theorem succ (hpassing : Passing (replies first)) (h : IsLast replies (first + 1) pauses last) :
    IsLast replies first (pauses + 1) (last + 1) := by
  have hshift : ∀ k, first + (k + 1) = first + 1 + k := fun k => by omega
  refine ⟨?_, fun k hk => ?_⟩
  · rcases h.1 with hlast | hfinal
    · exact .inl (congrArg (· + 1) hlast)
    · exact .inr (hshift last ▸ hfinal)
  · cases k with
    | zero =>
      rcases hk with hnone | hfinal
      · cases hnone
      · exact absurd hpassing hfinal
    | succ k =>
      refine Nat.succ_le_succ (h.2 ?_)
      rcases hk with hlast | hfinal
      · exact .inl (Nat.succ.inj hlast)
      · exact .inr (hshift k ▸ hfinal)

end IsLast

/-- A request is sent until a reply counts or no pause is left, and it is the last reply that is
brought. -/
theorem Client.sendWith_replies (replies : Replies) (request : Request) (pauses : List Nat)
    (first : Nat) (log : List Traffic) : ∃ last, IsLast replies first pauses.length last ∧
      sendWith replies.transport.recorded request pauses (first, log)
        = (replies (first + last), first + last + 1,
          log ++ attempts request replies first (pauses.take last)) := by
  induction pauses generalizing first log with
  | nil => exact ⟨0, .zero (.inl rfl), rfl⟩
  | cons pause rest ih =>
    have hsend : replies.transport.recorded.send request (first, log)
        = (replies first, first + 1, log ++ [.sent request (replies first)]) := rfl
    rw [sendWith, hsend]
    simp only
    cases htransient : isTransient (replies first) with
    | false =>
      refine ⟨0, .zero (.inr ?_), rfl⟩
      rw [← isTransient_iff, htransient]
      exact Bool.false_ne_true
    | true =>
      obtain ⟨last, hlast, hrest⟩ := ih (first + 1)
        (log ++ [.sent request (replies first)] ++ [.paused pause])
      have hpause : replies.transport.recorded.pause pause
            (first + 1, log ++ [.sent request (replies first)])
          = (first + 1, log ++ [.sent request (replies first)] ++ [.paused pause]) := rfl
      refine ⟨last + 1, hlast.succ ((isTransient_iff _).1 htransient), ?_⟩
      rw [if_pos rfl, hpause, hrest, List.append_assoc, List.append_assoc, Nat.add_right_comm,
        Nat.add_assoc first last 1]
      rfl

/-! ### What comes of the last reply -/

namespace Response

variable {response : Response}

/-- A response tells a document of a type. -/
def Tells {α : Type} [Codec α] (response : Response) (value : α) : Prop :=
  (200 ≤ response.status ∧ response.status < 300) ∧
    Client.readDocument α response.body = .ok value

/-- A response tells that a resource is gone. -/
def TellsGone (response : Response) : Prop :=
  (200 ≤ response.status ∧ response.status < 300) ∨ response.status = 404

theorem isSuccess_iff : response.isSuccess = true ↔
    200 ≤ response.status ∧ response.status < 300 := by
  rw [isSuccess, Bool.and_eq_true, decide_eq_true_iff, decide_eq_true_iff]

theorem isNotFound_iff : response.isNotFound = true ↔ response.status = 404 := by
  rw [isNotFound, decide_eq_true_iff]

theorem tellsGone_iff : (response.isSuccess || response.isNotFound) = true ↔
    response.TellsGone := by
  rw [Bool.or_eq_true, isSuccess_iff, isNotFound_iff, TellsGone]

end Response

/-- What an operation makes of a response, by what it accepts and what it takes for a resource that
is missing. -/
structure Judges {α : Type} (accepts : Response → α → Prop) (isMissing : Response → Prop)
    (read : Response → Except ServiceError α) : Prop where
  /-- It succeeds exactly with what is accepted. -/
  ok : ∀ response value, read response = .ok value ↔ accepts response value
  missing : ∀ response, isMissing response → ∃ text, read response = .error (.notFound text)
  /-- Whatever else is answered is a refusal. -/
  refused : ∀ response, ¬ isMissing response → (∀ value, ¬ accepts response value) →
    ∃ text, read response = .error (.api text)

namespace Client

section Reading

variable {α : Type} [Codec α]

theorem content_eq_ok_iff {method : Method} {path : String} {response : Response} {value : α} :
    content α method path response = .ok value ↔ response.Tells value := by
  rw [Response.Tells, ← Response.isSuccess_iff, content]
  cases response.isSuccess with
  | false => exact iff_of_false nofun fun h => nomatch h.1
  | true =>
    cases readDocument α response.body with
    | error reason => exact iff_of_false nofun fun h => nomatch h.2
    | ok found => simp only [if_true, true_and, Except.ok.injEq]

/-- A response that does not tell the document that is wanted is a refusal. -/
theorem exists_content_eq_api {method : Method} {path : String} {response : Response}
    (h : ∀ value : α, ¬ response.Tells value) :
    ∃ text, content α method path response = .error (.api text) := by
  have hnone : ∀ value, content α method path response ≠ .ok value := fun value hvalue =>
    h value (content_eq_ok_iff.1 hvalue)
  rw [content] at hnone ⊢
  split
  next hsuccess =>
    rw [if_pos hsuccess] at hnone
    cases hread : readDocument α response.body with
    | error reason => exact ⟨_, rfl⟩
    | ok found => exact absurd (by rw [hread]) (hnone found)
  next => exact ⟨_, rfl⟩

theorem judges_content (method : Method) (path : String) :
    Judges Response.Tells (fun _ => False) (content α method path) where
  ok _ _ := content_eq_ok_iff
  missing _ h := h.elim
  refused _ _ hnone := exists_content_eq_api hnone

/-- A document that is fetched may be missing. -/
theorem judges_fetched (path : String) :
    Judges Response.Tells (·.status = 404) fun response =>
      if response.isNotFound then
        .error (.notFound ("Resource not found: " ++ path ++ " - " ++ response.body))
      else content α .get path response where
  ok response value := by
    split
    next h =>
      refine iff_of_false nofun fun htells => ?_
      have hstatus := Response.isNotFound_iff.1 h
      have hsuccess := htells.1
      omega
    next => exact content_eq_ok_iff
  missing response h := ⟨_, if_pos (Response.isNotFound_iff.2 h)⟩
  refused response h hnone := by
    rw [if_neg (mt Response.isNotFound_iff.1 h)]
    exact exists_content_eq_api hnone

end Reading

/-- A resource that is deleted may be missing. -/
theorem judges_deleted (path : String) :
    Judges (fun response (_ : Unit) => response.TellsGone) (fun _ => False) fun response =>
      if response.isSuccess || response.isNotFound then .ok ()
      else .error (refusal .delete path response) where
  ok response value := by
    rw [← Response.tellsGone_iff]
    split
    next h => exact iff_of_true rfl h
    next h => exact iff_of_false nofun h
  missing _ h := h.elim
  refused response _ hnone := ⟨_, if_neg (mt Response.tellsGone_iff.1 (hnone ()))⟩

/-! ### Operations -/

variable {α : Type}

/-- An operation asks for a path until a reply counts, the third one (at position two) at the
latest, with pauses in between, and judges the last reply alone. Without a response it fails for the
transport. -/
structure Retries (client : Client) (method : Method) (path : String) (body : Option Json)
    (operation : Transport (Nat × List Traffic) → Nat × List Traffic →
      Exchange (Nat × List Traffic) α)
    (judges : (Response → Except ServiceError α) → Prop) : Prop where
  /-- If the client cannot ask for the path, nothing is sent. -/
  unsendable : ¬ client.CanAsk path → ∀ replies : Replies, ∃ text,
    operation replies.transport.recorded (0, []) = (.error (.http text), 0, [])
  sent : client.CanAsk path → ∃ request, client.Asks method path body request ∧
    ∃ outcome : Except TransportError Response → Except ServiceError α,
      (∀ e, ∃ text, outcome (.error e) = .error (.http text)) ∧
      judges (fun response => outcome (.ok response)) ∧
      ∀ replies : Replies, ∃ last, IsLeast {k | k = 2 ∨ ¬ Passing (replies k)} last ∧
        ∃ traffic, operation replies.transport.recorded (0, [])
            = (outcome (replies last), last + 1, traffic) ∧
          Traffic.requests traffic = List.replicate (last + 1) request ∧
          traffic = attempts request replies 0 ([200, 400].take last)

/-- Whatever is made of the response, an exchange is retried. -/
theorem retries_andThen (client : Client) (method : Method) (path : String) (body : Option Json)
    {read : Response → Except ServiceError α} {judges : (Response → Except ServiceError α) → Prop}
    (h : judges read) :
    Retries client method path body
      (fun transport state => andThen read (client.exchange transport method path body state))
      judges where
  unsendable hcannot replies := by
    refine ⟨"builder error", ?_⟩
    simp only [exchange, request?_eq_none_iff.2 hcannot, andThen]
  sent hcan := by
    obtain ⟨request, hrequest, hasks⟩ := hcan.exists_request method body
    let failure := ServiceError.http ("error sending request for url (" ++ request.url.text ++ ")")
    refine ⟨request, hasks, fun reply => (reply.mapError fun _ => failure).bind read,
      fun _ => ⟨_, rfl⟩, h, fun replies => ?_⟩
    obtain ⟨last, hlast, hsend⟩ := sendWith_replies replies request pauses 0 []
    rw [IsLast] at hlast
    simp only [Nat.zero_add, List.nil_append] at hlast hsend
    have hpauses : ([200, 400].take last).length = last := by
      rw [List.length_take, Nat.min_eq_left]
      exact hlast.2 (.inl rfl)
    have hrequests := requests_attempts request replies 0 ([200, 400].take last)
    rw [hpauses] at hrequests
    refine ⟨last, hlast, _, ?_, hrequests, rfl⟩
    simp only [exchange, hrequest, hsend]
    cases replies last <;> rfl

/-- Every operation asks for its path until a reply counts, which is one that another attempt would
not better, or the third; and it judges this reply alone. A document is fetched or put exactly if
the response is a success and tells a document of the type that is wanted, and only where one is
fetched a missing resource is an error of its own. A resource is deleted exactly if the response
tells that it is gone. -/
theorem operations_are_retried [Codec α] (client : Client) (path : String) (body : Json) :
    Retries client .get path none (client.get α · path) (Judges Response.Tells (·.status = 404)) ∧
    Retries client .put path (some body) (client.put α · path body)
      (Judges Response.Tells fun _ => False) ∧
    Retries client .delete path none (client.delete · path)
      (Judges (fun response _ => response.TellsGone) fun _ => False) :=
  ⟨retries_andThen client .get path none (judges_fetched path),
    retries_andThen client .put path (some body) (judges_content .put path),
    retries_andThen client .delete path none (judges_deleted path)⟩

/-- A deletion that meets a failing server and then a missing resource is asked for twice, and
succeeds. -/
example :
    let client : Client := .of "http://gateway/" "token"
    let replies : Replies := fun attempt => .ok ⟨if attempt = 0 then 503 else 404, ""⟩
    let (result, attempts, traffic) := client.delete replies.transport.recorded "/v1" (0, [])
    result.isOk = true ∧ attempts = 2 ∧
      (Traffic.requests traffic).map (fun request =>
          (request.method, request.url.text, request.authorization))
        = List.replicate 2 (.delete, "http://gateway/v1", "Bearer token") := by decide +kernel

end Client

end ClusterInfra.Http
