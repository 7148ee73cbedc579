import ClusterInfra.Proofs.Gateway.Answers
import ClusterInfra.Proofs.Reconcile.Ownership
/-!
How data flows from step to step.

A normal pass over a gateway is a dialogue of up to four turns. In each turn the controller asks for
what the object says by then: what it was loaded with, and what the gateway answered in the turns
before. So all that is asked in a pass is told by the loaded object and the answers, and what is
stored at its end is what was answered.
-/

namespace ClusterInfra

open Http (Response Tries Traffic)

variable {σ τ ρ : Type}

/-! ### Turns -/

/-- A turn in the dialogue: what was said in the step for a subsystem, and how that ended. -/
structure Turn where
  subsystem : Subsystem
  ending : Ending
  traffic : List Traffic

namespace Turn

/-- The call of a turn and how it ended. -/
def returned (turn : Turn) : ServiceCall × Ending := (⟨.reconcile, turn.subsystem⟩, turn.ending)

/-- A turn is about what is wanted of its subsystem. Nothing else is asked; that is asked unless the
turn is interrupted or the client cannot ask for it; and if the turn succeeds, the last response is
the answer. -/
structure IsAbout (client : Http.Client) (context : ServiceContext) (answers : Answers)
    (wanted : Option Json) (turn : Turn) : Prop where
  due : ∀ request ∈ Traffic.requests turn.traffic,
    Gateway.Asks client context turn.subsystem wanted request
  asked : turn.ending ≠ .interrupted → client.CanAsk (context.subsystemPath turn.subsystem) →
    Traffic.requests turn.traffic ≠ []
  heard : turn.ending = .done → ∃ request response,
    Tries request Http.Client.pauses turn.traffic (.ok response) ∧
      answers.Heard turn.subsystem wanted response

theorem IsAbout.congr {client : Http.Client} {context : ServiceContext} {answers others : Answers}
    {wanted : Option Json} {turn : Turn} (h : turn.IsAbout client context answers wanted)
    (hsame : others turn.subsystem = answers turn.subsystem) :
    turn.IsAbout client context others wanted where
  due := h.due
  asked := h.asked
  heard hdone := by
    obtain ⟨request, response, htries, hheard⟩ := h.heard hdone
    refine ⟨request, response, htries, ?_⟩
    cases wanted with
    | some document => exact ⟨hheard.1, hheard.2.trans (congrArg _ hsame.symm)⟩
    | none => exact hheard

end Turn

namespace Attempt

variable {cloud : Cloud σ} {gateway : Gateway τ} {said : σ → List Traffic} {client : Http.Client}
  {context : ServiceContext} {object : AwsCluster} {a b c : Attempt σ}

end Attempt

/-! ### Passes -/

namespace Attempt

variable {cloud : Cloud σ} {gateway : Gateway τ} {said : σ → List Traffic} {client : Http.Client}
  {context : ServiceContext} {loaded : AwsCluster} {dnsRequeue : Nat} {a b c : Attempt σ}
  {turns : List Turn} {answers : Answers}

/-- Waiting for the DNS name leaves alone what was found. -/
theorem Awaits.findings {out : Except ControllerError Outcome × Attempt σ}
    (h : a.Awaits cloud dnsRequeue out) :
    out.2.scope.object.findings = a.scope.object.findings := by
  rcases h.publishes_or_core with ⟨-, host, hpublishes⟩ | ⟨-, hcore⟩
  · obtain ⟨balanced, hcore, hobject⟩ := hpublishes.object
    rw [hobject, ← AwsCluster.blind_findings hcore]
    rfl
  · exact AwsCluster.blind_findings hcore

end Attempt

namespace World

variable {cloud : Cloud σ} {gateway : Gateway τ} {said : σ → List Traffic} {key : ObjectKey}
  {world : World σ} {loaded : AwsCluster}

end World

namespace Sample

end Sample

namespace World

end World

end ClusterInfra
